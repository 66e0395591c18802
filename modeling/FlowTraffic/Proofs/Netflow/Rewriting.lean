import FlowTraffic.Proofs.Netflow.Written

/-!
# Packets written again

A packet that was read is written as the bytes it was read from, but for what a collector skips: the
bytes after the last template of a set are dropped, padding becomes zero, and template sets move in front
of data sets. Where no bytes are dropped the sizes agree, and reading once more gives the packet exactly
where its data sets fit the schemas that their IDs have in the end.
-/

namespace FlowTraffic.Netflow

open Bytes

/-! ## Pieces written again -/

namespace Piece

def isTemplates (x : Piece) : Bool :=
  match x.content with
  | .templates _ => true
  | .records _ => false

/-- How much of the body the templates or the whole records take. -/
def used (x : Piece) : Nat :=
  match x.content with
  | .templates ts => total (ts.map Template.size)
  | .records s => x.frame.body.length / s.recordSize * s.recordSize

/-- How many bytes the next template or record takes at least. -/
def unit (x : Piece) : Nat :=
  match x.content with
  | .templates _ => 4
  | .records s => s.recordSize

/-- The bytes of the piece up to the end of the last template or whole record. -/
def kept (x : Piece) : Bytes := x.encode.take (setHeaderSize + x.used)

/-- The bytes after the last template or whole record. -/
def spare (x : Piece) : Bytes := x.encode.drop (setHeaderSize + x.used)

/-- The piece with nothing after its templates, or with as many zeros after its records as it had spare
bytes. -/
def tidy (x : Piece) : Bytes :=
  match x.content with
  | .templates _ => x.kept
  | .records _ => x.kept ++ List.replicate x.spare.length 0

/-- The pieces that carry templates, and then the others. -/
def tidied (pieces : List Piece) : Bytes :=
  (pieces.filter isTemplates).flatMap tidy ++ (pieces.filter (!·.isTemplates)).flatMap tidy

theorem kept_append_spare (x : Piece) : x.kept ++ x.spare = x.encode := List.take_append_drop ..

theorem kept_spare_of_body {x : Piece} {whole rest : Bytes} (hbody : x.frame.body = whole ++ rest)
    (hused : whole.length = x.used) :
    x.kept = ofWord16 x.frame.id ++ ofWord16 x.frame.length ++ whole ∧ x.spare = rest := by
  have hencode : x.encode = (ofWord16 x.frame.id ++ ofWord16 x.frame.length ++ whole) ++ rest := by
    rw [encode, Frame.encode, hbody, List.append_assoc _ whole]
  have hlen : (ofWord16 x.frame.id ++ ofWord16 x.frame.length ++ whole).length =
      setHeaderSize + x.used := by
    simp only [List.length_append, length_ofWord16, hused, setHeaderSize]
  rw [kept, spare, hencode, List.take_left' hlen, List.drop_left' hlen]
  exact ⟨rfl, rfl⟩

theorem tidy_of_templates {f : Frame} {ts : List Template} {filler : Bytes} (hzero : f.id = 0)
    (hbody : f.body = ts.flatMap Template.encode ++ filler) :
    tidy ⟨f, .templates ts⟩ = TemplateSet.encode ⟨f.length, ts⟩ ∧
      spare ⟨f, .templates ts⟩ = filler := by
  have hused : (ts.flatMap Template.encode).length = used ⟨f, .templates ts⟩ := by
    simp only [used, length_flatMap_eq_total, Template.length_encode]
  obtain ⟨hkept, hspare⟩ := kept_spare_of_body (x := ⟨f, .templates ts⟩) hbody hused
  refine ⟨?_, hspare⟩
  show kept _ = _
  rw [hkept, hzero]
  rfl

theorem tidy_of_records {f : Frame} {s : Schema} {set : DataSet}
    (h : Shows ⟨f, .records s⟩ (.data set)) :
    tidy ⟨f, .records s⟩ = set.encode ∧
      (spare ⟨f, .records s⟩).length = f.body.length % s.recordSize := by
  cases h with
  | data body layout count left =>
    rename_i records padding filler
    have hlen := Flow.length_flatMap_encode layout
    have hused : (records.flatMap Flow.encode).length = used ⟨f, .records s⟩ := by
      rw [hlen, count]
      rfl
    have hfiller : filler.length = f.body.length % s.recordSize := by
      have hdiv := Nat.div_add_mod' f.body.length s.recordSize
      have hsum := congrArg List.length body
      rw [List.length_append, hlen, count] at hsum
      omega
    obtain ⟨hkept, hspare⟩ := kept_spare_of_body (x := ⟨f, .records s⟩) body hused
    refine ⟨?_, by rw [hspare, hfiller]⟩
    show kept _ ++ List.replicate (spare _).length 0 = _
    rw [hkept, hspare, hfiller, ← left]
    rfl

/-! ## Rows of accepted pieces -/

/-- The piece is accepted after some templates, and the set is what it shows. -/
structure Accepted (r : Registry) (x : Piece) (set : FlowSet) : Prop where
  sized : x.frame.Sized
  carries : ∃ seen, x.frame.Carries r seen x.content
  shows : x.Shows set

theorem accepted_row {r : Registry} {seen : List Template} {pieces : List Piece}
    {sets : List FlowSet} (hlegal : Legal r seen pieces) (hsets : List.Forall₂ Shows pieces sets) :
    List.Forall₂ (Accepted r) pieces sets := by
  induction hsets generalizing seen with
  | nil => exact .nil
  | cons hshows _ ih =>
    obtain ⟨hsized, hcarries, hrest⟩ := hlegal
    exact .cons ⟨hsized, ⟨seen, hcarries⟩, hshows⟩ (ih hrest)

variable {r : Registry} {x : Piece}

theorem exists_accepted {pieces : List Piece} {sets : List FlowSet} {set : FlowSet}
    (h : List.Forall₂ (Accepted r) pieces sets) (hset : set ∈ sets) : ∃ x, Accepted r x set := by
  induction h with
  | nil => cases hset
  | cons hx _ ih =>
    rcases List.mem_cons.1 hset with rfl | hset
    · exact ⟨_, hx⟩
    · exact ih hset

theorem Accepted.tidy_templates {s : TemplateSet} (h : x.Accepted r (.templates s)) :
    x.isTemplates = true ∧ x.tidy = s.encode := by
  obtain ⟨-, ⟨seen, hcarries⟩, hshows⟩ := h
  cases hshows with
  | templates =>
    cases hcarries with
    | templates zero body short whole ids => exact ⟨rfl, (tidy_of_templates zero body).1⟩

theorem Accepted.tidy_data {s : DataSet} (h : x.Accepted r (.data s)) :
    x.isTemplates = false ∧ x.tidy = s.encode := by
  obtain ⟨f, c⟩ := x
  cases c with
  | templates ts => cases h.shows
  | records schema => exact ⟨rfl, (tidy_of_records h.shows).1⟩

theorem Accepted.length_spare_lt {set : FlowSet} (h : x.Accepted r set) :
    x.spare.length < x.unit := by
  obtain ⟨-, ⟨seen, hcarries⟩, hshows⟩ := h
  cases hshows with
  | templates =>
    cases hcarries with
    | templates zero body short whole ids => rwa [(tidy_of_templates zero body).2]
  | data body layout count left =>
    rw [(tidy_of_records (.data body layout count left)).2]
    exact Nat.mod_lt _ (Schema.recordSize_pos _)

theorem tidied_eq {pieces : List Piece} {sets : List FlowSet}
    (h : List.Forall₂ (Accepted r) pieces sets) :
    (pieces.filter isTemplates).flatMap tidy =
        (sets.filterMap FlowSet.templates?).flatMap TemplateSet.encode ∧
      (pieces.filter (!·.isTemplates)).flatMap tidy =
        (sets.filterMap FlowSet.data?).flatMap DataSet.encode := by
  induction h with
  | nil => exact ⟨rfl, rfl⟩
  | @cons x set _ _ hx _ ih =>
    cases set with
    | templates s =>
      obtain ⟨hkind, htidy⟩ := hx.tidy_templates
      rw [List.filter_cons_of_pos hkind, List.filter_cons_of_neg (by simp [hkind]),
        List.flatMap_cons, ih.1, ih.2, htidy]
      exact ⟨rfl, rfl⟩
    | data s =>
      obtain ⟨hkind, htidy⟩ := hx.tidy_data
      rw [List.filter_cons_of_neg (by simp [hkind]), List.filter_cons_of_pos (by simp [hkind]),
        List.flatMap_cons, ih.1, ih.2, htidy]
      exact ⟨rfl, rfl⟩

theorem Accepted.exact {s : TemplateSet} (h : x.Accepted r (.templates s))
    (hfull : s.length.toNat = s.encode.length) : s.Exact := by
  obtain ⟨-, ⟨seen, hcarries⟩, hshows⟩ := h
  cases hshows with
  | templates =>
    cases hcarries with
    | templates zero body short whole ids => exact ⟨hfull, whole, ids⟩

theorem Accepted.framed {s : DataSet} (h : x.Accepted r (.data s)) : s.Framed := by
  have hsize : s.encode.length = x.encode.length := by
    obtain ⟨f, c⟩ := x
    cases c with
    | templates ts => cases h.shows
    | records schema =>
      rw [← h.tidy_data.2, ← kept_append_spare, List.length_append, tidy, List.length_append,
        List.length_replicate]
  obtain ⟨hsized, ⟨seen, hcarries⟩, hshows⟩ := h
  have hframe : s.id = x.frame.id ∧ s.length = x.frame.length := by
    cases hshows with
    | data => exact ⟨rfl, rfl⟩
  have hid : minDataId ≤ x.frame.id := by
    cases hshows with
    | data => cases hcarries with | records id known => exact id
  refine ⟨hframe.1 ▸ hid, ?_⟩
  rw [hframe.2, hsize, encode, Frame.length_encode, hsized]

end Piece

/-! ## The packet written again -/

namespace Packet

variable {r : Registry} {b : Bytes} {p : Packet}

theorem accepted_of_parse {h : Header} {pieces : List Piece} (hp : (parse r b).1 = .ok p)
    (hspelled : Spelled r b h pieces) :
    ∃ sets : List FlowSet, p = ofSets h sets ∧ List.Forall₂ (Piece.Accepted r) pieces sets := by
  obtain ⟨sets, hsets, hp⟩ := shows_of_parse hp hspelled
  exact ⟨sets, hp, Piece.accepted_row hspelled.legal hsets⟩

/-- **Writing again.** Bytes that are a packet, in whichever way they are spelled, come back as their
header and their pieces tidied: every piece keeps its bytes up to the last template or whole record, and
those left over are too few for one more. -/
theorem encode_tidies (hp : (parse r b).1 = .ok p) :
    (∃ h pieces, Spelled r b h pieces) ∧
      ∀ h pieces, Spelled r b h pieces →
        p.ReadOff h pieces ∧ (∀ x ∈ pieces, x.spare.length < x.unit) ∧
          p.encode = h.encode ++ Piece.tidied pieces := by
  obtain ⟨h, pieces, hspelled, -⟩ := spelled_of_parse hp
  refine ⟨⟨h, pieces, hspelled⟩, fun h pieces hspelled => ?_⟩
  obtain ⟨sets, rfl, hrow⟩ := accepted_of_parse hp hspelled
  have hspare := (List.forall₂_and_left pieces sets).1
    (hrow.imp fun x set hx => ⟨hx.length_spare_lt, hx⟩)
  obtain ⟨htemplates, hdata⟩ := Piece.tidied_eq hrow
  refine ⟨(readOff_iff (hrow.imp fun x set hx => hx.shows)).2 rfl, hspare.1, ?_⟩
  rw [encode_eq, Piece.tidied, htemplates, hdata]
  rfl

/-- Data of 257 and of 256 around a template set that redefines 257 as it was and ends with these bytes.
The padding is not zero. -/
def straggling (filler : Bytes) : Bytes :=
  Header.encode { sourceId := 618 } ++ ([1, 1, 0, 43] ++ List.replicate 39 5) ++
    TemplateSet.encode ⟨UInt16.ofNat (68 + filler.length), [Schema.generic.template]⟩ ++ filler ++
    [1, 0, 0, 6, 7, 7]

/-- The packet with this length of its template set. -/
def stragglingPacket (length : UInt16) : Packet :=
  ⟨{ sourceId := 618 }, [⟨length, [Schema.generic.template]⟩],
    [⟨257, 43, [(Flow.decode .generic (List.replicate 37 5)).1], 2⟩, ⟨256, 6, [], 2⟩]⟩

theorem encode_tidies_straggling :
    (parse .builtin (straggling [9, 9, 9])).1 = .ok (stragglingPacket 71) ∧
      (∃ h pieces, Spelled .builtin (straggling [9, 9, 9]) h pieces) ∧
        ∀ h pieces, Spelled .builtin (straggling [9, 9, 9]) h pieces →
          (stragglingPacket 71).ReadOff h pieces ∧ (∀ x ∈ pieces, x.spare.length < x.unit) ∧
            (stragglingPacket 71).encode = h.encode ++ Piece.tidied pieces := by
  have hp : (parse .builtin (straggling [9, 9, 9])).1 = .ok (stragglingPacket 71) := by
    decide +kernel
  exact ⟨hp, encode_tidies hp⟩

/-! ## Reading once more -/

theorem mem_templateSets {h : Header} {sets : List FlowSet} {s : TemplateSet} :
    s ∈ (ofSets h sets).templateSets ↔ .templates s ∈ sets := by
  refine List.mem_filterMap.trans ⟨?_, fun hs => ⟨_, hs, rfl⟩⟩
  rintro ⟨_ | _, hset, hs⟩ <;> cases hs
  exact hset

theorem mem_dataSets {h : Header} {sets : List FlowSet} {s : DataSet} :
    s ∈ (ofSets h sets).dataSets ↔ .data s ∈ sets := by
  refine List.mem_filterMap.trans ⟨?_, fun hs => ⟨_, hs, rfl⟩⟩
  rintro ⟨_ | _, hset, hs⟩ <;> cases hs
  exact hset

theorem exact_of_parse (hp : (parse r b).1 = .ok p)
    (hfull : ∀ s ∈ p.templateSets, s.length.toNat = s.encode.length) : p.Exact := by
  obtain ⟨h, pieces, hspelled, -⟩ := spelled_of_parse hp
  obtain ⟨sets, rfl, hrow⟩ := accepted_of_parse hp hspelled
  refine ⟨hspelled.version, fun s hs => ?_, fun s hs => ?_⟩
  · obtain ⟨x, hx⟩ := Piece.exists_accepted hrow (mem_templateSets.1 hs)
    exact hx.exact (hfull s hs)
  · obtain ⟨x, hx⟩ := Piece.exists_accepted hrow (mem_dataSets.1 hs)
    exact hx.framed

theorem Exact.length_encode (h : p.Exact) : p.encode.length = p.size := by
  have ht : p.templateSets.map (·.length.toNat) = p.templateSets.map (·.encode.length) :=
    List.map_congr_left fun s hs => (h.templates s hs).length
  have hd : p.dataSets.map (·.length.toNat) = p.dataSets.map (·.encode.length) :=
    List.map_congr_left fun s hs => (h.data s hs).length
  simp only [size, sizes, encode_eq, List.length_append, Header.length_encode,
    length_flatMap_eq_total, ht, hd, Nat.add_assoc]

/-- **Reading once more.** A packet without bytes left over after its templates has the size of what it
writes. Its templates come first there, so it is read back exactly where each data set fits the schema
that its ID has after all of them. -/
theorem parse_encode_again (hp : (parse r b).1 = .ok p)
    (hfull : ∀ s ∈ p.templateSets, s.length.toNat = s.encode.length) :
    p.encode.length = p.size ∧
      ((parse r p.encode).1 = .ok p ↔
        ∀ s ∈ p.dataSets, (r.registerAll p.templates).Reads s) := by
  have hexact := exact_of_parse hp hfull
  refine ⟨hexact.length_encode, hexact.reads_of_parse, fun hreads => ?_⟩
  rw [hexact.parse_of_reads hreads]

theorem parse_encode_again_straggling :
    (parse .builtin (straggling [])).1 = .ok (stragglingPacket 68) ∧
      (∀ s ∈ (stragglingPacket 68).templateSets, s.length.toNat = s.encode.length) ∧
      (stragglingPacket 68).encode.length = (stragglingPacket 68).size ∧
      (parse .builtin (stragglingPacket 68).encode).1 = .ok (stragglingPacket 68) := by
  have hp : (parse .builtin (straggling [])).1 = .ok (stragglingPacket 68) := by decide +kernel
  have hfull : ∀ s ∈ (stragglingPacket 68).templateSets, s.length.toNat = s.encode.length := by
    decide +kernel
  obtain ⟨hsize, hagain⟩ := parse_encode_again hp hfull
  refine ⟨hp, hfull, hsize, hagain.2 ?_⟩
  simp only [stragglingPacket, List.forall_mem_cons]
  exact ⟨⟨.generic, rfl, by simp [Flow.schema_decode], by decide⟩, ⟨.https, rfl, by simp, by decide⟩,
    by simp⟩

/-- Data of 256, and after it a template of 256 without fields. -/
def overtaken : Bytes := Header.encode {} ++ [1, 0, 0, 4] ++ [0, 0, 0, 8, 1, 0, 0, 0]

def filled : Bytes := Header.encode {} ++ [0, 0, 0, 5, 7]

/-- Not every packet is read back: a template overtakes data of its ID, and a byte that was left over is
missing. -/
theorem parse_encode_fails :
    ((parse .builtin overtaken).1 = .ok ⟨{}, [⟨8, [⟨256, []⟩]⟩], [⟨256, 4, [], 0⟩]⟩ ∧
        (parse .builtin (encode ⟨{}, [⟨8, [⟨256, []⟩]⟩], [⟨256, 4, [], 0⟩]⟩)).1 =
          .error (.unsupportedTemplate 256)) ∧
      (parse .builtin filled).1 = .ok ⟨{}, [⟨5, []⟩], []⟩ ∧
        (encode ⟨{}, [⟨5, []⟩], []⟩).length ≠ size ⟨{}, [⟨5, []⟩], []⟩ ∧
        (parse .builtin (encode ⟨{}, [⟨5, []⟩], []⟩)).1 = .error (.flowSetLength 0 5) := by
  decide +kernel

end Packet

end FlowTraffic.Netflow
