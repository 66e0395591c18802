import FlowTraffic.Proofs.Netflow.Acceptance

/-!
# Packets read from what they write

A packet whose length fields tell what its sets write is framed by its own bytes. Reading them then
comes down to the data sets: each must fit the schema that its ID has after all templates of the packet,
since the templates are written first.
-/

namespace FlowTraffic.Netflow

open Bytes

/-! ## Template sets -/

namespace TemplateSet

/-- The length field tells the size, the numbers of fields fit the wire, and the templates have IDs that
data can use. -/
structure Exact (s : TemplateSet) : Prop where
  length : s.length.toNat = s.encode.length
  whole : ∀ t ∈ s.templates, t.Whole
  ids : ∀ t ∈ s.templates, minDataId ≤ t.id

def piece (s : TemplateSet) : Piece :=
  ⟨⟨0, s.length, s.templates.flatMap Template.encode⟩, .templates s.templates⟩

theorem encode_piece (s : TemplateSet) : s.piece.encode = s.encode := rfl

theorem length_encode_eq (s : TemplateSet) :
    s.encode.length = setHeaderSize + (s.templates.flatMap Template.encode).length := by
  rw [← s.encode_piece, Piece.encode, Frame.length_encode]
  rfl

theorem Exact.legal {s : TemplateSet} (h : s.Exact) (r : Registry) (seen : List Template) :
    s.piece.frame.Sized ∧ s.piece.frame.Carries r seen s.piece.content :=
  ⟨h.length.trans s.length_encode_eq,
    .templates rfl (List.append_nil _).symm (by simp) h.whole h.ids⟩

theorem legal_pieces {sets : List TemplateSet} (h : ∀ s ∈ sets, s.Exact) (r : Registry)
    (seen : List Template) : Legal r seen (sets.map piece) := by
  induction sets generalizing seen with
  | nil => trivial
  | cons s sets ih =>
    obtain ⟨hs, hsets⟩ := List.forall_mem_cons.1 h
    obtain ⟨hsized, hcarries⟩ := hs.legal r seen
    exact ⟨hsized, hcarries, ih hsets _⟩

theorem shows_pieces (sets : List TemplateSet) :
    List.Forall₂ Piece.Shows (sets.map piece) (sets.map .templates) := by
  induction sets with
  | nil => exact .nil
  | cons s sets ih => exact .cons .templates ih

end TemplateSet

/-! ## Data sets -/

namespace DataSet

/-- The length field tells the size, under an ID that data can use. -/
structure Framed (s : DataSet) : Prop where
  id : minDataId ≤ s.id
  length : s.length.toNat = s.encode.length

/-- The schema lays out all records, and the padding has no room for one more. -/
structure Fits (s : DataSet) (schema : Schema) : Prop where
  layout : ∀ x ∈ s.records, x.schema = schema
  short : s.padding.toNat < schema.recordSize

def body (s : DataSet) : Bytes :=
  s.records.flatMap Flow.encode ++ List.replicate s.padding.toNat 0

def frame (s : DataSet) : Frame := ⟨s.id, s.length, s.body⟩

theorem encode_frame (s : DataSet) : s.frame.encode = s.encode := by
  simp only [frame, Frame.encode, body, encode, List.append_assoc]

theorem length_encode_eq (s : DataSet) : s.encode.length = setHeaderSize + s.body.length := by
  rw [← s.encode_frame, Frame.length_encode]
  rfl

theorem Framed.sized {s : DataSet} (h : s.Framed) : s.frame.Sized :=
  h.length.trans s.length_encode_eq

theorem Fits.shows {s : DataSet} {schema : Schema} (h : s.Fits schema) :
    Piece.Shows ⟨s.frame, .records schema⟩ (.data s) := by
  have hbody : s.body.length = schema.recordSize * s.records.length + s.padding.toNat := by
    rw [body, List.length_append, Flow.length_flatMap_encode h.layout, List.length_replicate,
      Nat.mul_comm]
  refine .data rfl h.layout ?_ ?_
  · show s.records.length = s.body.length / schema.recordSize
    rw [hbody, Nat.mul_add_div schema.recordSize_pos, Nat.div_eq_of_lt h.short, Nat.add_zero]
  · show s.padding.toNat = s.body.length % schema.recordSize
    rw [hbody, Nat.mul_add_mod, Nat.mod_eq_of_lt h.short]

theorem fits_of_shows {f : Frame} {s : DataSet} {schema : Schema}
    (h : Piece.Shows ⟨f, .records schema⟩ (.data s)) : s.Fits schema := by
  cases h with
  | data _ layout _ left => exact ⟨layout, left ▸ Nat.mod_lt _ schema.recordSize_pos⟩

theorem decode_body_eq_iff (s : DataSet) (schema : Schema) :
    decode s.id s.length schema s.body = s ↔ s.Fits schema := by
  constructor
  · intro h
    exact h ▸ fits_of_shows (.decode s.frame schema)
  · intro h
    exact (FlowSet.data.inj h.shows.eq_decode).symm

end DataSet

/-- The registry has a schema for the set's ID, and the set fits it. -/
def Registry.Reads (r : Registry) (s : DataSet) : Prop :=
  ∃ schema, r.schema s.id = .ok schema ∧ s.Fits schema

namespace FlowSet

variable {r : Registry}

theorem readBody_framed {s : DataSet} (h : s.Framed) (rest : Bytes) :
    readBody r (s.encode ++ rest) =
      match r.schema s.id with
      | .ok schema =>
        (readBody r rest).after [.data (DataSet.decode s.id s.length schema s.body)]
      | .error e => ⟨[], r, some e⟩ := by
  have hread : read r s.frame = (r.schema s.id).map fun schema =>
      (.data (DataSet.decode s.id s.length schema s.body), r) := read_of_data h.id
  rw [← s.encode_frame]
  cases hschema : r.schema s.id with
  | ok schema =>
    rw [hschema] at hread
    exact readBody_of_read h.sized hread rest
  | error e =>
    rw [hschema] at hread
    exact readBody_of_read_error h.sized hread rest

theorem readBody_of_reads {sets : List DataSet} (hframed : ∀ s ∈ sets, s.Framed)
    (hreads : ∀ s ∈ sets, r.Reads s) :
    readBody r (sets.flatMap DataSet.encode) = ⟨sets.map .data, r, none⟩ := by
  induction sets with
  | nil => exact readBody_nil r
  | cons s sets ih =>
    obtain ⟨hs, hsets⟩ := List.forall_mem_cons.1 hframed
    obtain ⟨⟨schema, hschema, hfits⟩, hrest⟩ := List.forall_mem_cons.1 hreads
    rw [List.flatMap_cons, readBody_framed hs, hschema, ih hsets hrest]
    simp only [(s.decode_body_eq_iff schema).2 hfits]
    rfl

theorem reads_of_readBody {sets : List DataSet} (hframed : ∀ s ∈ sets, s.Framed)
    (hwhole : (readBody r (sets.flatMap DataSet.encode)).fault = none)
    (hsame : (readBody r (sets.flatMap DataSet.encode)).sets.filterMap data? = sets) :
    ∀ s ∈ sets, r.Reads s := by
  induction sets with
  | nil => simp
  | cons s sets ih =>
    obtain ⟨hs, hsets⟩ := List.forall_mem_cons.1 hframed
    rw [List.flatMap_cons, readBody_framed hs] at hwhole hsame
    cases hschema : r.schema s.id with
    | error e => simp [hschema] at hwhole
    | ok schema =>
      simp only [hschema] at hwhole hsame
      obtain ⟨hfirst, hrest⟩ := List.cons.inj hsame
      exact List.forall_mem_cons.2
        ⟨⟨schema, hschema, (s.decode_body_eq_iff schema).1 hfirst⟩, ih hsets hwhole hrest⟩

end FlowSet

/-! ## The packet -/

namespace Packet

def templates (p : Packet) : List Template := p.templateSets.flatMap (·.templates)

def sets (p : Packet) : List FlowSet := p.templateSets.map .templates ++ p.dataSets.map .data

/-- The packet is of the right version and its length fields tell what its sets write. -/
structure Exact (p : Packet) : Prop where
  version : p.header.version = Netflow.version
  templates : ∀ s ∈ p.templateSets, s.Exact
  data : ∀ s ∈ p.dataSets, s.Framed

theorem encode_eq (p : Packet) :
    p.encode = p.header.encode ++
      (p.templateSets.flatMap TemplateSet.encode ++ p.dataSets.flatMap DataSet.encode) := by
  simp [encode, sections, List.flatMap]

theorem filterMap_data?_templates (ts : List TemplateSet) :
    (ts.map FlowSet.templates).filterMap FlowSet.data? = [] := by
  simp [FlowSet.data?]

theorem ofSets_sets (p : Packet) : ofSets p.header p.sets = p := by
  simp [ofSets, sets, Function.comp_def, FlowSet.templates?, FlowSet.data?]

theorem Exact.readBody {p : Packet} (h : p.Exact) (r : Registry) :
    FlowSet.readBody r
        (p.templateSets.flatMap TemplateSet.encode ++ p.dataSets.flatMap DataSet.encode) =
      (FlowSet.readBody (r.registerAll p.templates) (p.dataSets.flatMap DataSet.encode)).after
        (p.templateSets.map .templates) := by
  have hread := FlowSet.readBody_of_legal (TemplateSet.legal_pieces h.templates r [])
    (TemplateSet.shows_pieces _) (p.dataSets.flatMap DataSet.encode)
  rw [List.flatMap_map, List.flatMap_map] at hread
  exact hread

theorem Exact.parse_of_reads {p : Packet} (h : p.Exact) {r : Registry}
    (hreads : ∀ s ∈ p.dataSets, (r.registerAll p.templates).Reads s) :
    parse r p.encode = (.ok p, r.registerAll p.templates) := by
  rw [encode_eq, parse_append, if_neg (not_not.2 h.version), h.readBody,
    FlowSet.readBody_of_reads h.data hreads]
  show (Except.ok (ofSets p.header p.sets), _) = _
  rw [ofSets_sets]
  rfl

theorem Exact.reads_of_parse {p : Packet} (h : p.Exact) {r : Registry}
    (hp : (parse r p.encode).1 = .ok p) : ∀ s ∈ p.dataSets, (r.registerAll p.templates).Reads s := by
  rw [encode_eq] at hp
  obtain ⟨-, hfault, hsets, -⟩ := readBody_of_parse hp
  rw [h.readBody] at hfault hsets
  have hdata := congrArg Packet.dataSets hsets.symm
  simp only [FlowSet.Reading.after, ofSets, List.filterMap_append, filterMap_data?_templates,
    List.nil_append] at hdata
  exact FlowSet.reads_of_readBody h.data hfault hdata

end Packet

end FlowTraffic.Netflow
