import FlowTraffic.Proofs.Netflow.Acceptance

/-!
# What a packet takes from earlier traffic

A packet relies on an ID if it carries data of it before a template of it. The registry is asked about
these IDs only: registries that agree on them read the packet alike, and a packet that is read without
any registry relies on none.
-/

namespace FlowTraffic.Netflow

open Bytes

/-! ## The IDs that bytes rely on -/

/-- The frame can stand before data of the ID without saying what the ID means. -/
inductive Frame.LeavesOpen (f : Frame) (id : UInt16) : Prop
  | data (data : minDataId ≤ f.id) : LeavesOpen f id
  | templates {ts : List Template} (accepted : f.Carries .empty [] (.templates ts))
      (others : ∀ t ∈ ts, t.id ≠ id) : LeavesOpen f id

/-- From left to right, data of the ID comes before any template of it. -/
inductive Relies (id : UInt16) : Bytes → Prop
  | here {f : Frame} {rest : Bytes} (sized : f.Sized) (data : minDataId ≤ f.id) (uses : f.id = id) :
      Relies id (f.encode ++ rest)
  | later {f : Frame} {rest : Bytes} (sized : f.Sized) (leaves : f.LeavesOpen id)
      (relies : Relies id rest) : Relies id (f.encode ++ rest)

namespace Frame

variable {r r' : Registry} {seen seen' : List Template} {f : Frame}

theorem not_data_of_zero (zero : f.id = 0) : ¬ minDataId ≤ f.id := by
  rw [zero]
  decide

theorem Carries.templates_anywhere {ts : List Template} (h : f.Carries r seen (.templates ts)) :
    f.Carries r' seen' (.templates ts) := by
  cases h with
  | templates zero body short whole ids => exact .templates zero body short whole ids

theorem Carries.templates_unique {ts us : List Template} (h : f.Carries r seen (.templates ts))
    (h' : f.Carries r' seen' (.templates us)) : ts = us := by
  cases h with
  | templates zero body short whole ids =>
    cases h' with
    | templates zero' body' short' whole' ids' =>
      have hdecode := Template.decodeAll_row_of_short whole short
      rw [← body, body', Template.decodeAll_row_of_short whole' short'] at hdecode
      exact (Except.ok.inj hdecode).symm

theorem Carries.leavesOpen_iff {c : Content} (h : f.Carries r seen c) (id : UInt16) :
    f.LeavesOpen id ↔ latest? c.announced id = none := by
  cases c with
  | records s =>
    cases h with
    | records data known => exact ⟨fun _ => rfl, fun _ => .data data⟩
  | templates ts =>
    rw [latest?_eq_none_iff]
    constructor
    · intro hopen
      cases hopen with
      | data data =>
        cases h with
        | templates zero body short whole ids => exact absurd data (not_data_of_zero zero)
      | templates accepted others =>
        obtain rfl := accepted.templates_unique h
        exact others
    · intro hothers
      exact .templates h.templates_anywhere hothers

theorem Carries.described {c : Content} (h : f.Carries r seen c) (data : minDataId ≤ f.id) :
    ∃ s, r.Describes seen f.id s := by
  cases h with
  | templates zero body short whole ids => exact absurd data (not_data_of_zero zero)
  | records _ known => exact ⟨_, known⟩

theorem encode_append_inj {g : Frame} (hf : f.Sized) (hg : g.Sized) {rest rest' : Bytes}
    (h : f.encode ++ rest = g.encode ++ rest') : f = g ∧ rest = rest' := by
  have hcut := congrArg cut h
  rw [cut_append hf, cut_append hg, Cut.mk.injEq, List.cons.injEq] at hcut
  obtain ⟨⟨rfl, -⟩, -⟩ := hcut
  exact ⟨rfl, List.append_cancel_left h⟩

end Frame

theorem not_relies_nil (id : UInt16) : ¬ Relies id [] := by
  intro h
  generalize hb : ([] : Bytes) = b at h
  cases h <;>
  · have hlen := congrArg List.length hb
    rw [List.length_append, Frame.length_encode, List.length_nil, setHeaderSize] at hlen
    omega

theorem relies_append_iff {f : Frame} (sized : f.Sized) (id : UInt16) (rest : Bytes) :
    Relies id (f.encode ++ rest) ↔
      (minDataId ≤ f.id ∧ f.id = id) ∨ (f.LeavesOpen id ∧ Relies id rest) := by
  constructor
  · intro h
    generalize hb : f.encode ++ rest = b at h
    cases h with
    | here sized' data uses =>
      obtain ⟨rfl, rfl⟩ := Frame.encode_append_inj sized sized' hb
      exact .inl ⟨data, uses⟩
    | later sized' leaves relies =>
      obtain ⟨rfl, rfl⟩ := Frame.encode_append_inj sized sized' hb
      exact .inr ⟨leaves, relies⟩
  · rintro (⟨data, uses⟩ | ⟨leaves, relies⟩)
    · exact .here sized data uses
    · exact .later sized leaves relies

/-! ## Registries that agree -/

namespace Registry

theorem schema_eq_schema_iff {r r' : Registry} {id : UInt16} :
    r.schema id = r'.schema id ↔ r.find? id = r'.find? id := by
  constructor
  · intro h
    unfold schema at h
    split at h <;> split at h <;> simp_all
  · intro h
    unfold schema
    rw [h]

/-- After the templates seen, the registries say the same of every ID that the bytes rely on. -/
def Agree (r r' : Registry) (seen : List Template) (b : Bytes) : Prop :=
  ∀ id, latest? seen id = none → Relies id b → r.find? id = r'.find? id

variable {r r' : Registry} {seen : List Template}

theorem Agree.front {f : Frame} {rest : Bytes} (h : r.Agree r' seen (f.encode ++ rest))
    (sized : f.Sized) (data : minDataId ≤ f.id) :
    (r.registerAll seen).find? f.id = (r'.registerAll seen).find? f.id := by
  rw [find?_registerAll, find?_registerAll]
  cases hlatest : latest? seen f.id with
  | some t => rfl
  | none => exact h f.id hlatest (.here sized data rfl)

theorem Agree.tail {f : Frame} {rest : Bytes} {c : Content}
    (h : r.Agree r' seen (f.encode ++ rest)) (sized : f.Sized) (carries : f.Carries r seen c) :
    r.Agree r' (seen ++ c.announced) rest := by
  intro id hid hrelies
  rw [latest?_eq_none_iff, List.forall_mem_append] at hid
  obtain ⟨hseen, hannounced⟩ := hid
  apply h id (latest?_eq_none_iff.2 hseen)
  apply Relies.later sized _ hrelies
  rw [carries.leavesOpen_iff]
  exact latest?_eq_none_iff.2 hannounced

end Registry

namespace Frame

variable {r r' : Registry} {seen : List Template} {f : Frame}

theorem Carries.congr {c : Content} (h : f.Carries r seen c)
    (same : minDataId ≤ f.id → (r.registerAll seen).find? f.id = (r'.registerAll seen).find? f.id) :
    f.Carries r' seen c := by
  cases h with
  | templates zero body short whole ids => exact .templates zero body short whole ids
  | records id known =>
    apply Carries.records id
    rw [← Registry.find?_registerAll_eq_some_iff, ← same id]
    exact (r.find?_registerAll_eq_some_iff seen f.id _).2 known

theorem Refused.congr {e : DecodeError} (h : f.Refused r seen e)
    (same : minDataId ≤ f.id → (r.registerAll seen).find? f.id = (r'.registerAll seen).find? f.id) :
    f.Refused r' seen e := by
  cases h with
  | truncated zero body whole torn => exact .truncated zero body whole torn
  | reservedTemplate zero body short whole ids reserved =>
    exact .reservedTemplate zero body short whole ids reserved
  | reservedSet nonzero reserved => exact .reservedSet nonzero reserved
  | unknown id unknown =>
    apply Refused.unknown id
    rw [← Registry.find?_registerAll_eq_none_iff, ← same id]
    exact (r.find?_registerAll_eq_none_iff seen f.id).2 unknown
  | unsupported id unsupported =>
    apply Refused.unsupported id
    rw [← Registry.find?_registerAll_eq_unsupported_iff, ← same id]
    exact (r.find?_registerAll_eq_unsupported_iff seen f.id).2 unsupported

end Frame

/-! ## Rows of pieces -/

variable {r r' : Registry} {seen : List Template} {b : Bytes}

theorem Legal.congr {pieces : List Piece} {rest : Bytes} (h : Legal r seen pieces)
    (agree : r.Agree r' seen (pieces.flatMap Piece.encode ++ rest)) :
    Legal r' seen pieces ∧ r.Agree r' (seen ++ pieces.flatMap Piece.announced) rest := by
  induction pieces generalizing seen with
  | nil => exact ⟨trivial, by simpa using agree⟩
  | cons x xs ih =>
    obtain ⟨hsized, hcarries, hrest⟩ := h
    -- What the first piece announces is relied on no more by what follows.
    rw [List.flatMap_cons, List.append_assoc] at agree
    obtain ⟨hlegal, hafter⟩ := ih hrest (agree.tail hsized hcarries)
    constructor
    · exact ⟨hsized, hcarries.congr (agree.front hsized), hlegal⟩
    · rwa [List.append_assoc] at hafter

theorem Stuck.congr {e : DecodeError} (h : Stuck r seen b e) (agree : r.Agree r' seen b) :
    Stuck r' seen b e := by
  cases h with
  | torn torn => exact .torn torn
  | refused sized refused => exact .refused sized (refused.congr (agree.front sized))

theorem Leaves.congr {res : Except DecodeError Packet} {learnt : List Template}
    (h : Leaves r b res learnt) (agree : r.Agree r' [] (b.drop Header.size)) :
    Leaves r' b res learnt := by
  cases h with
  | noHeader short => exact .noHeader short
  | wrongVersion version => exact .wrongVersion version
  | whole spelled read =>
    rename_i h pieces p
    obtain ⟨rfl, version, legal⟩ := spelled
    rw [List.drop_left' h.length_encode, ← List.append_nil (pieces.flatMap _)] at agree
    exact .whole ⟨rfl, version, (legal.congr agree).1⟩ read
  | stuck version legal stuck =>
    rename_i h pieces rest e
    rw [List.append_assoc, List.drop_left' h.length_encode] at agree
    obtain ⟨hlegal, hafter⟩ := legal.congr agree
    exact .stuck version hlegal (stuck.congr hafter)

theorem Legal.known_of_relies {pieces : List Piece} {id : UInt16} (h : Legal r seen pieces)
    (hid : latest? seen id = none) (relies : Relies id (pieces.flatMap Piece.encode)) :
    ∃ s, r.schema id = .ok s := by
  induction pieces generalizing seen with
  | nil => exact absurd relies (not_relies_nil id)
  | cons x xs ih =>
    obtain ⟨hsized, hcarries, hrest⟩ := h
    rw [List.flatMap_cons, Piece.encode, relies_append_iff hsized] at relies
    rcases relies with ⟨data, rfl⟩ | ⟨leaves, relies⟩
    · obtain ⟨s, known⟩ := hcarries.described data
      refine ⟨s, ?_⟩
      rw [Registry.schema_eq_ok_iff]
      simpa only [Registry.Describes, hid] using known
    · apply ih hrest _ relies
      rw [latest?_eq_none_iff, List.forall_mem_append]
      rw [hcarries.leavesOpen_iff] at leaves
      exact ⟨latest?_eq_none_iff.1 hid, latest?_eq_none_iff.1 leaves⟩

namespace Packet

theorem known_of_relies {p : Packet} (hp : (parse r b).1 = .ok p) {id : UInt16}
    (relies : Relies id (b.drop Header.size)) : ∃ s, r.schema id = .ok s := by
  obtain ⟨h, pieces, ⟨rfl, version, legal⟩, -⟩ := spelled_of_parse hp
  rw [List.drop_left' h.length_encode] at relies
  exact legal.known_of_relies rfl relies

theorem parse_congr (agree : r.Agree r' [] (b.drop Header.size)) : (parse r b).1 = (parse r' b).1 := by
  obtain ⟨res, learnt, hleaves⟩ := exists_leaves r b
  rw [parse_of_leaves hleaves, parse_of_leaves (hleaves.congr agree)]

/-- **Reliance.** Registries that give the same schemas for the IDs that the bytes rely on read the same
packet or fail with the same cause. Bytes that are read without any registry mean the same to all. -/
theorem parse_relies (b : Bytes) :
    (∀ r r' : Registry, (∀ id, Relies id (b.drop Header.size) → r.schema id = r'.schema id) →
        (parse r b).1 = (parse r' b).1) ∧
      ∀ p, (parse .empty b).1 = .ok p →
        (∀ r, (parse r b).1 = .ok p) ∧ parseAlone b = .ok p := by
  constructor
  · intro r r' same
    apply parse_congr
    intro id _ hrelies
    rw [← Registry.schema_eq_schema_iff]
    exact same id hrelies
  · intro p hp
    have hevery : ∀ r, (parse r b).1 = .ok p := by
      intro r
      rw [← hp]
      apply Eq.symm
      apply parse_congr
      intro id _ hrelies
      -- Nothing is known to the empty registry, so nothing was relied on.
      obtain ⟨s, hs⟩ := known_of_relies hp hrelies
      cases hs
    exact ⟨hevery, hevery .builtin⟩

/-- A template of 300 and data of it. -/
def selfContained : Packet :=
  ⟨{ sourceId := 618 }, [.ofTemplates [⟨300, Schema.generic.fields⟩]],
    [⟨300, 44, [.generic { protocol := 17 }], 3⟩]⟩

/-- Data of 256 comes with it, and no template of 256. -/
def borrowing : Packet :=
  { selfContained with dataSets := selfContained.dataSets ++ [⟨256, 44, [.https {}], 0⟩] }

/-- The template of 256 is known, and 300 is unsupported. -/
def misled : Registry := (Registry.empty.register Schema.https.template).register ⟨300, []⟩

theorem parse_relies_borrowing :
    Registry.builtin.schema 300 ≠ misled.schema 300 ∧
      (∀ id, Relies id (borrowing.encode.drop Header.size) →
        Registry.builtin.schema id = misled.schema id) ∧
      (parse .builtin borrowing.encode).1 = (parse misled borrowing.encode).1 ∧
      (parse .empty selfContained.encode).1 = .ok selfContained ∧
      (∀ r, (parse r selfContained.encode).1 = .ok selfContained) ∧
      parseAlone selfContained.encode = .ok selfContained := by
  have hsame : ∀ id, Relies id (borrowing.encode.drop Header.size) →
      Registry.builtin.schema id = misled.schema id := by
    intro id hrelies
    -- The packet is read where nothing but 256 is known.
    have hp : (parse (Registry.empty.register Schema.https.template) borrowing.encode).1 =
        .ok borrowing := by decide +kernel
    obtain ⟨s, hs⟩ := known_of_relies hp hrelies
    rw [Registry.schema_eq_ok_iff, Registry.find?_register] at hs
    by_cases hid : id = Schema.https.template.id
    · subst hid
      decide
    · rw [if_neg hid] at hs
      cases hs
  have hp : (parse .empty selfContained.encode).1 = .ok selfContained := by decide +kernel
  exact ⟨by decide, hsame, (parse_relies borrowing.encode).1 _ _ hsame, hp,
    (parse_relies selfContained.encode).2 _ hp⟩

end Packet

end FlowTraffic.Netflow
