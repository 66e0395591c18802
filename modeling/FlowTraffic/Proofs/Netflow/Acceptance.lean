import FlowTraffic.Proofs.Netflow.Reading

/-!
# What reading a packet comes to

Exactly the bytes of the format are accepted, as the one packet that they spell. Whatever the bytes are,
the registry learns the templates of the sets that were accepted before the end or the fault, and nothing
else.
-/

namespace FlowTraffic.Netflow

open Bytes

/-! ## The sets of a packet -/

theorem Piece.Shows.unique {x : Piece} {s s' : FlowSet} (h : x.Shows s) (h' : x.Shows s') :
    s = s' := by
  obtain ⟨f, c⟩ := x
  cases c with
  | templates ts => cases h; cases h'; rfl
  | records schema => rw [h.eq_decode, h'.eq_decode]

theorem Piece.Shows.unique_row {xs : List Piece} {ss ss' : List FlowSet}
    (h : List.Forall₂ Piece.Shows xs ss) (h' : List.Forall₂ Piece.Shows xs ss') : ss = ss' := by
  induction h generalizing ss' with
  | nil => cases h'; rfl
  | cons hs _ ih =>
    cases h' with
    | cons hs' hrest' => rw [hs.unique hs', ih hrest']

theorem FlowSet.readBody_of_legal {r : Registry} {pieces : List Piece} {sets : List FlowSet}
    (hlegal : Legal r [] pieces) (hsets : List.Forall₂ Piece.Shows pieces sets) (rest : Bytes) :
    readBody r (pieces.flatMap Piece.encode ++ rest) =
      (readBody (r.registerAll (pieces.flatMap Piece.announced)) rest).after sets := by
  obtain ⟨sets', hsets', hread⟩ := readBody_append hlegal rest
  rw [Registry.registerAll_nil, List.nil_append] at hread
  rw [hread, Piece.Shows.unique_row hsets hsets']

namespace Packet

theorem readOff_iff {p : Packet} {h : Header} {pieces : List Piece} {sets : List FlowSet}
    (hsets : List.Forall₂ Piece.Shows pieces sets) : p.ReadOff h pieces ↔ p = ofSets h sets := by
  constructor
  · rintro ⟨rfl, sets', hsets', ht, hd⟩
    rw [Piece.Shows.unique_row hsets hsets', ofSets, ← ht, ← hd]
  · rintro rfl
    exact ⟨rfl, sets, hsets, rfl, rfl⟩

theorem size_ofSets_cons_templates (h : Header) (s : TemplateSet) (sets : List FlowSet) :
    (ofSets h (.templates s :: sets)).size = s.length.toNat + (ofSets h sets).size := by
  simp only [size, sizes, ofSets, List.filterMap_cons, FlowSet.templates?, FlowSet.data?,
    List.map_cons, total_cons]
  omega

theorem size_ofSets_cons_data (h : Header) (s : DataSet) (sets : List FlowSet) :
    (ofSets h (.data s :: sets)).size = s.length.toNat + (ofSets h sets).size := by
  simp only [size, sizes, ofSets, List.filterMap_cons, FlowSet.templates?, FlowSet.data?,
    List.map_cons, total_cons]
  omega

theorem size_ofSets (h : Header) {r : Registry} {seen : List Template} {pieces : List Piece}
    {sets : List FlowSet} (hlegal : Legal r seen pieces)
    (hsets : List.Forall₂ Piece.Shows pieces sets) :
    (ofSets h sets).size = Header.size + (pieces.flatMap Piece.encode).length := by
  induction hsets generalizing seen with
  | nil => rfl
  | @cons x s xs ss hshows _ ih =>
    obtain ⟨hsized, -, hrest⟩ := hlegal
    have hpiece : x.encode.length = x.frame.length.toNat := by
      rw [Piece.encode, Frame.length_encode, hsized]
    have htail := ih hrest
    rw [List.flatMap_cons, List.length_append, hpiece]
    cases hshows with
    | templates => rw [size_ofSets_cons_templates, htail]; exact Nat.add_left_comm ..
    | data => rw [size_ofSets_cons_data, htail]; exact Nat.add_left_comm ..

/-! ## The whole packet -/

theorem parse_append (r : Registry) (h : Header) (body : Bytes) :
    parse r (h.encode ++ body) =
      if h.version ≠ version then (.error (.version h.version), r)
      else
        match (FlowSet.readBody r body).fault with
        | some e => (.error e, (FlowSet.readBody r body).registry)
        | none => (.ok (ofSets h (FlowSet.readBody r body).sets),
            (FlowSet.readBody r body).registry) := by
  have hlong : ¬ (h.encode ++ body).length < Header.size := by simp
  have hdecode : Header.decode.run (h.encode ++ body) = (h, body) := h.decode_append body
  unfold parse
  rw [if_neg hlong]
  simp only [hdecode]
  rfl

theorem readBody_of_parse {r : Registry} {h : Header} {body : Bytes} {p : Packet}
    (hp : (parse r (h.encode ++ body)).1 = .ok p) :
    h.version = version ∧ (FlowSet.readBody r body).fault = none ∧
      p = ofSets h (FlowSet.readBody r body).sets ∧
      (parse r (h.encode ++ body)).2 = (FlowSet.readBody r body).registry := by
  rw [parse_append] at hp ⊢
  by_cases hv : h.version = version
  · rw [if_neg (not_not.2 hv)] at hp ⊢
    cases hfault : (FlowSet.readBody r body).fault with
    | some e => simp [hfault] at hp
    | none =>
      simp only [hfault] at hp
      exact ⟨hv, rfl, (Except.ok.inj hp).symm, rfl⟩
  · rw [if_pos hv] at hp
    cases hp

theorem parse_of_spelled {r : Registry} {b : Bytes} {h : Header} {pieces : List Piece}
    (hspelled : Spelled r b h pieces) :
    ∃ sets : List FlowSet, List.Forall₂ Piece.Shows pieces sets ∧
      parse r b = (.ok (ofSets h sets), r.registerAll (pieces.flatMap Piece.announced)) := by
  obtain ⟨rfl, hv, hlegal⟩ := hspelled
  obtain ⟨sets, hsets, hread⟩ := FlowSet.readBody_append hlegal []
  rw [List.append_nil, FlowSet.readBody_nil, List.nil_append, Registry.registerAll_nil] at hread
  refine ⟨sets, hsets, ?_⟩
  rw [parse_append, if_neg (not_not.2 hv), hread]
  simp [FlowSet.Reading.after]

theorem parse_of_leaves {r : Registry} {b : Bytes} {res : Except DecodeError Packet}
    {learnt : List Template} (h : Leaves r b res learnt) :
    parse r b = (res, r.registerAll learnt) := by
  cases h with
  | noHeader short =>
    unfold parse
    rw [if_pos short]
    rfl
  | wrongVersion version =>
    rw [parse_append, if_pos version]
    rfl
  | whole spelled read =>
    obtain ⟨sets, hsets, hparse⟩ := parse_of_spelled spelled
    rw [hparse, (readOff_iff hsets).1 read]
  | stuck version legal stuck =>
    obtain ⟨sets, -, hread⟩ := FlowSet.readBody_append legal _
    rw [List.nil_append, FlowSet.readBody_of_stuck stuck, Registry.registerAll_nil] at hread
    rw [List.append_assoc, parse_append, if_neg (not_not.2 version), hread]
    rfl

theorem exists_leaves (r : Registry) (b : Bytes) : ∃ res learnt, Leaves r b res learnt := by
  obtain hshort | ⟨h, body, rfl⟩ := Header.short_or_append b
  · exact ⟨_, _, .noHeader hshort⟩
  by_cases hv : h.version = version
  · obtain ⟨pieces, rest, rfl, hlegal, rfl | ⟨e, hstuck⟩⟩ := FlowSet.exists_legal r [] body
    · have hspelled : Spelled r (h.encode ++ (pieces.flatMap Piece.encode ++ [])) h pieces :=
        ⟨by rw [List.append_nil], hv, hlegal⟩
      obtain ⟨sets, hsets, -⟩ := parse_of_spelled hspelled
      exact ⟨_, _, .whole hspelled ((readOff_iff hsets).2 rfl)⟩
    · rw [← List.append_assoc]
      exact ⟨_, _, .stuck hv hlegal hstuck⟩
  · exact ⟨_, _, .wrongVersion hv⟩

theorem spelled_of_parse {r : Registry} {b : Bytes} {p : Packet} (hp : (parse r b).1 = .ok p) :
    ∃ h pieces, Spelled r b h pieces ∧ p.ReadOff h pieces := by
  obtain ⟨res, learnt, hleaves⟩ := exists_leaves r b
  obtain rfl : res = .ok p := by rw [← hp, parse_of_leaves hleaves]
  cases hleaves with
  | whole spelled read => exact ⟨_, _, spelled, read⟩

theorem shows_of_parse {r : Registry} {b : Bytes} {p : Packet} {h : Header} {pieces : List Piece}
    (hp : (parse r b).1 = .ok p) (hspelled : Spelled r b h pieces) :
    ∃ sets : List FlowSet, List.Forall₂ Piece.Shows pieces sets ∧ p = ofSets h sets := by
  obtain ⟨sets, hsets, hparse⟩ := parse_of_spelled hspelled
  rw [hparse] at hp
  exact ⟨sets, hsets, (Except.ok.inj hp).symm⟩

theorem size_of_parse {r : Registry} {b : Bytes} {p : Packet} (hp : (parse r b).1 = .ok p) :
    p.size = b.length := by
  obtain ⟨h, pieces, hspelled, -⟩ := spelled_of_parse hp
  obtain ⟨sets, hsets, rfl⟩ := shows_of_parse hp hspelled
  rw [size_ofSets h hspelled.legal hsets, hspelled.bytes, List.length_append, Header.length_encode]

/-- **Acceptance.** A packet is read from exactly the bytes of the format. Whichever way the bytes are
spelled, it is the one packet that can be read off the pieces, and its size is that of the bytes. -/
theorem parse_accepts (r : Registry) (b : Bytes) :
    ((∃ p, (parse r b).1 = .ok p) ↔ ∃ h pieces, Spelled r b h pieces) ∧
      ∀ h pieces, Spelled r b h pieces →
        ∃ p, (parse r b).1 = .ok p ∧ (∀ q : Packet, q.ReadOff h pieces ↔ q = p) ∧
          p.size = b.length := by
  have hread : ∀ h pieces, Spelled r b h pieces →
      ∃ p, (parse r b).1 = .ok p ∧ (∀ q : Packet, q.ReadOff h pieces ↔ q = p) ∧
        p.size = b.length := by
    intro h pieces hspelled
    obtain ⟨sets, hsets, hparse⟩ := parse_of_spelled hspelled
    have hp : (parse r b).1 = .ok (ofSets h sets) := by rw [hparse]
    exact ⟨_, hp, fun q => readOff_iff hsets, size_of_parse hp⟩
  refine ⟨⟨?_, ?_⟩, hread⟩
  · rintro ⟨p, hp⟩
    obtain ⟨h, pieces, hspelled, -⟩ := spelled_of_parse hp
    exact ⟨h, pieces, hspelled⟩
  · rintro ⟨h, pieces, hspelled⟩
    obtain ⟨p, hp, -⟩ := hread h pieces hspelled
    exact ⟨p, hp⟩

/-- **What is learnt.** Every reading ends in one of the ways of `Leaves`. The registry has then
learnt the templates of the accepted sets in order, and every other ID means what it meant before. -/
theorem parse_learns (r : Registry) (b : Bytes) :
    (∃ learnt, Leaves r b (parse r b).1 learnt) ∧
      ∀ res learnt, Leaves r b res learnt →
        parse r b = (res, r.registerAll learnt) ∧
          ∀ id, (∀ t ∈ learnt, t.id ≠ id) → (parse r b).2.find? id = r.find? id := by
  constructor
  · obtain ⟨res, learnt, hleaves⟩ := exists_leaves r b
    exact ⟨learnt, by rwa [parse_of_leaves hleaves]⟩
  · intro res learnt hleaves
    have hparse := parse_of_leaves hleaves
    refine ⟨hparse, fun id hid => ?_⟩
    rw [hparse]
    exact r.find?_registerAll_of_not_mem learnt id hid

end Packet

end FlowTraffic.Netflow
