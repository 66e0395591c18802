import FlowTraffic.Proofs.Netflow.Written

/-!
# Packets read back

A packet of well-made sets is exact, and its data sets fit their schemas, so reading its bytes gives the
packet back. The data sets need their IDs described by the packet's templates or, failing that, by the
registry.
-/

namespace FlowTraffic.Netflow

open Bytes

/-! ## Well-made sets -/

/-- The set is the one of its templates, they have IDs that data can use, and the whole set fits its
length field. -/
structure TemplateSet.Built (s : TemplateSet) : Prop where
  made : s = .ofTemplates s.templates
  ids : ∀ t ∈ s.templates, minDataId ≤ t.id
  fits : s.encode.length ≤ DataSet.maxSize

/-- The set is the one of its records, under an ID that data can use. -/
structure DataSet.Built (s : DataSet) : Prop where
  id : minDataId ≤ s.id
  made : ofRecords s.id s.records = .ok s

namespace TemplateSet

theorem length_encode_eq_total (s : TemplateSet) :
    s.encode.length = setHeaderSize + total (s.templates.map Template.size) := by
  simp only [length_encode_eq, length_flatMap_eq_total, Template.length_encode]

theorem size_le_total {ts : List Template} {t : Template} (h : t ∈ ts) :
    t.size ≤ total (ts.map Template.size) := by
  induction ts with
  | nil => cases h
  | cons u us ih =>
    rw [List.map_cons, total_cons]
    rcases List.mem_cons.1 h with rfl | h
    · omega
    · have := ih h
      omega

theorem Built.exact {s : TemplateSet} (h : s.Built) : s.Exact := by
  have hfits := h.fits
  rw [length_encode_eq_total, DataSet.maxSize] at hfits
  refine ⟨?_, fun t ht => ?_, h.ids⟩
  · rw [congrArg TemplateSet.length h.made, length_encode_eq_total]
    exact UInt16.toNat_ofNat_of_lt' (Nat.lt_succ_of_le hfits)
  · have hle : 4 + 4 * t.fields.length ≤ _ := size_le_total ht
    unfold Template.Whole
    omega

end TemplateSet

namespace DataSet

theorem of_ofRecords_eq_ok {id : UInt16} {records : List Flow} {s : DataSet}
    (h : ofRecords id records = .ok s) :
    s.id = id ∧ s.records = records ∧ s.length.toNat = paddedSize records ∧
      s.padding.toNat = paddingFor (unpaddedSize records) := by
  unfold ofRecords at h
  split at h
  · rename_i hfits
    obtain rfl := Except.ok.inj h
    have hpad := paddingFor_lt (unpaddedSize records)
    exact ⟨rfl, rfl, UInt16.toNat_ofNat_of_lt' (Nat.lt_succ_of_le hfits),
      UInt8.toNat_ofNat_of_lt' (Nat.lt_trans hpad (by decide))⟩
  · cases h

theorem Built.framed {s : DataSet} (h : s.Built) : s.Framed := by
  obtain ⟨-, -, hlength, hpadding⟩ := of_ofRecords_eq_ok h.made
  refine ⟨h.id, ?_⟩
  rw [hlength, length_encode_eq, body, List.length_append, List.length_replicate, hpadding,
    length_flatMap_eq_total, paddedSize, unpaddedSize, Nat.add_assoc]
  simp only [Flow.length_encode]

theorem Built.fits {s : DataSet} (h : s.Built) {schema : Schema}
    (hlayout : ∀ x ∈ s.records, x.schema = schema) : s.Fits schema := by
  obtain ⟨-, -, -, hpadding⟩ := of_ofRecords_eq_ok h.made
  -- The padding is shorter than any record.
  have hshort := paddingFor_lt (unpaddedSize s.records)
  refine ⟨hlayout, ?_⟩
  cases schema <;> simp <;> omega

end DataSet

/-! ## The packet -/

namespace Packet

theorem parse_of_built {p : Packet} {r : Registry} (hv : p.header.version = version)
    (ht : ∀ s ∈ p.templateSets, s.Built) (hd : ∀ s ∈ p.dataSets, s.Built)
    (hknown : ∀ s ∈ p.dataSets, ∃ schema,
      (r.registerAll p.templates).schema s.id = .ok schema ∧ ∀ x ∈ s.records, x.schema = schema) :
    parse r p.encode = (.ok p, r.registerAll p.templates) := by
  have hexact : p.Exact := ⟨hv, fun s hs => (ht s hs).exact, fun s hs => (hd s hs).framed⟩
  refine hexact.parse_of_reads fun s hs => ?_
  obtain ⟨schema, hschema, hlayout⟩ := hknown s hs
  exact ⟨schema, hschema, (hd s hs).fits hlayout⟩

/-- **The round trip.** -/
theorem parse_encode (p : Packet) (r : Registry) (hv : p.header.version = version)
    (ht : ∀ s ∈ p.templateSets, s.Built) (hd : ∀ s ∈ p.dataSets, s.Built)
    (hknown : ∀ s ∈ p.dataSets, ∃ schema,
      (r.registerAll p.templates).schema s.id = .ok schema ∧ ∀ x ∈ s.records, x.schema = schema) :
    parse r p.encode = (.ok p, r.registerAll p.templates) ∧ p.encode.length = p.size := by
  have hparse := parse_of_built hv ht hd hknown
  exact ⟨hparse, (size_of_parse (by rw [hparse])).symm⟩

/-- A packet that defines an ID twice, and has a set without templates, padding, and a set without
records. -/
def redefining : Packet :=
  ⟨{ sourceId := 618 },
    [.ofTemplates [⟨300, Schema.https.fields⟩, ⟨300, Schema.generic.fields⟩], .ofTemplates []],
    [⟨300, 44, [.generic { protocol := 17 }], 3⟩, ⟨256, 4, [], 0⟩]⟩

theorem parse_encode_redefining :
    parse .builtin redefining.encode =
        (.ok redefining, Registry.builtin.registerAll redefining.templates) ∧
      redefining.encode.length = redefining.size := by
  refine parse_encode redefining .builtin rfl ?_ ?_ ?_
  · simp only [redefining, List.forall_mem_cons]
    exact ⟨⟨rfl, by decide, by decide +kernel⟩, ⟨rfl, by decide, by decide⟩, by simp⟩
  · simp only [redefining, List.forall_mem_cons]
    exact ⟨⟨by decide, rfl⟩, ⟨by decide, rfl⟩, by simp⟩
  · simp only [redefining, List.forall_mem_cons]
    exact ⟨⟨.generic, rfl, by simp [Flow.schema]⟩, ⟨.https, rfl, by simp⟩, by simp⟩

end Packet

end FlowTraffic.Netflow
