import FlowTraffic.Proofs.Netflow.Rewriting
import FlowTraffic.Proofs.Netflow.Sizes

/-!
# The size of a template set

Nothing bounds a template set. Its length field and the field counts of its templates are the true numbers
modulo 2¹⁶, so they are right up to 65535 and no further, and a set that is larger is not read back.
-/

namespace FlowTraffic.Netflow

theorem toNat_ofNat_eq_iff {n : Nat} : (UInt16.ofNat n).toNat = n ↔ n ≤ 65535 := by
  rw [UInt16.toNat_ofNat']
  omega

/-- The bytes say what the template says: its ID, what it tells of the number of its fields, and the fields
in their order. -/
structure Template.Spells (b : Bytes) (t : Template) : Prop where
  id : Bytes.toNat (b.take 2) = t.id.toNat
  count : Bytes.toNat ((b.drop 2).take 2) = t.fieldCount.toNat
  fields : b.drop 4 = t.fields.flatMap Field.encode

theorem Template.spells_encode (t : Template) : Spells t.encode t := by
  obtain ⟨id, count, fields⟩ :=
    Bytes.words_in_front t.id t.fieldCount (t.fields.flatMap Field.encode)
  exact ⟨id, count, fields⟩

namespace TemplateSet

/-- The bytes say what the set says: ID 0, its length, and every template in its place. -/
structure Spells (b : Bytes) (s : TemplateSet) : Prop where
  id : Bytes.toNat (b.take 2) = 0
  length : Bytes.toNat ((b.drop 2).take 2) = s.length.toNat
  template : ∀ before t after, before ++ t :: after = s.templates →
    Template.Spells ((b.drop (4 + total (before.map Template.size))).take t.size) t

theorem length_flatMap_encode (ts : List Template) :
    (ts.flatMap Template.encode).length = total (ts.map Template.size) := by
  simp only [length_flatMap_eq_total, Template.length_encode]

theorem spells_encode (s : TemplateSet) : Spells s.encode s := by
  obtain ⟨id, length, rest⟩ :=
    Bytes.words_in_front 0 s.length (s.templates.flatMap Template.encode)
  refine ⟨id, length, ?_⟩
  intro before t after row
  have place : s.encode.drop (4 + total (before.map Template.size)) =
      t.encode ++ after.flatMap Template.encode := by
    unfold encode
    rw [← List.drop_drop, rest, ← row, List.flatMap_append,
      List.drop_left' (length_flatMap_encode before), List.flatMap_cons]
  rw [place, List.take_left' t.length_encode]
  exact t.spells_encode

variable {ts : List Template}

theorem fields_le_of_size_le {t : Template} (ht : t ∈ ts)
    (fits : 4 + total (ts.map Template.size) ≤ 65535) : t.fields.length ≤ 65535 := by
  have part : 4 + 4 * t.fields.length ≤ total (ts.map Template.size) := size_le_total ht
  omega

theorem length_encode_ofTemplates (ts : List Template) :
    (ofTemplates ts).encode.length = 4 + total (ts.map Template.size) :=
  length_encode_eq_total _

theorem toNat_length_ofTemplates (ts : List Template) :
    (ofTemplates ts).length.toNat = (4 + total (ts.map Template.size)) % 65536 :=
  UInt16.toNat_ofNat'

theorem built_ofTemplates_iff :
    (ofTemplates ts).Built ↔
      4 + total (ts.map Template.size) ≤ 65535 ∧ ∀ t ∈ ts, minDataId ≤ t.id := by
  constructor
  · intro built
    have fits := built.fits
    rw [length_encode_ofTemplates] at fits
    exact ⟨fits, built.ids⟩
  · rintro ⟨fits, ids⟩
    refine ⟨rfl, ids, ?_⟩
    rw [length_encode_ofTemplates]
    exact fits

theorem parse_ofTemplates_iff (r : Registry) (h : Header) :
    (Packet.parse r (Packet.encode ⟨h, [ofTemplates ts], []⟩)).1 = .ok ⟨h, [ofTemplates ts], []⟩ ↔
      h.version = version ∧ (ofTemplates ts).Built := by
  constructor
  · intro read
    -- The size by the length fields is that of the bytes, so the length field did not wrap.
    have size := Packet.size_of_parse read
    have told : (ofTemplates ts).length.toNat = (ofTemplates ts).encode.length := by
      simpa [Packet.size, Packet.sizes, Packet.encode_eq] using size
    have exact : Packet.Exact ⟨h, [ofTemplates ts], []⟩ :=
      Packet.exact_of_parse read (List.forall_mem_singleton.2 told)
    have ids := (exact.templates _ (List.mem_singleton_self _)).ids
    have fits : (ofTemplates ts).encode.length ≤ DataSet.maxSize := by
      have bound := (ofTemplates ts).length.toNat_lt
      rw [told] at bound
      exact Nat.le_of_lt_succ bound
    exact ⟨exact.version, rfl, ids, fits⟩
  · rintro ⟨version, built⟩
    have parsed : Packet.parse r (Packet.encode ⟨h, [ofTemplates ts], []⟩) = _ :=
      Packet.parse_of_built version (List.forall_mem_singleton.2 built) (by simp) (by simp)
    rw [parsed]

/-- **A template set tells its size up to 65535 bytes.** Whatever the templates, the set is written as ID 0,
its length field and the templates in their order, each with its field count and its fields. The length
field is the size modulo 2¹⁶, and every field count is the number of the fields modulo 2¹⁶. So a number is
right if and only if it is at most 65535, a right length makes all field counts right, and a packet of the
set is read back exactly where the length is right. -/
theorem ofTemplates_tells (ts : List Template) :
    let s := ofTemplates ts
    let size := 4 + total (ts.map Template.size)
    s.templates = ts ∧ s.encode.length = size ∧ Spells s.encode s ∧
      s.length.toNat = size % 65536 ∧ (s.length.toNat = s.encode.length ↔ size ≤ 65535) ∧
      (∀ t ∈ ts, t.fieldCount.toNat = t.fields.length % 65536 ∧
        (t.fieldCount.toNat = t.fields.length ↔ t.fields.length ≤ 65535) ∧
        (s.length.toNat = s.encode.length → t.fieldCount.toNat = t.fields.length)) ∧
      ∀ (r : Registry) (h : Header),
        (Packet.parse r (Packet.encode ⟨h, [s], []⟩)).1 = .ok ⟨h, [s], []⟩ ↔
          h.version = version ∧ s.length.toNat = s.encode.length ∧ ∀ t ∈ ts, minDataId ≤ t.id := by
  intro s size
  have written : s.encode.length = size := length_encode_ofTemplates ts
  have told : s.length.toNat = s.encode.length ↔ size ≤ 65535 := by
    rw [written]
    exact toNat_ofNat_eq_iff
  refine ⟨rfl, written, s.spells_encode, toNat_length_ofTemplates ts, told, ?_, ?_⟩
  · intro t ht
    refine ⟨UInt16.toNat_ofNat', toNat_ofNat_eq_iff, ?_⟩
    intro right
    exact toNat_ofNat_eq_iff.2 (fields_le_of_size_le ht (told.1 right))
  · intro r h
    rw [parse_ofTemplates_iff, built_ofTemplates_iff, told]

theorem ofTemplates_tells_both :
    let s := ofTemplates [Schema.https.template, ⟨300, []⟩]
    s.length.toNat = 68 ∧ s.encode.length = 68 ∧ Schema.https.template.fieldCount.toNat = 14 ∧
      (Packet.parse .empty (Packet.encode ⟨{}, [s], []⟩)).1 = .ok ⟨{}, [s], []⟩ := by
  intro s
  obtain ⟨-, written, -, -, told, counts, read⟩ :=
    ofTemplates_tells [Schema.https.template, ⟨300, []⟩]
  have size : s.encode.length = 68 := written
  have right := told.2 (by decide)
  obtain ⟨-, -, count⟩ := counts Schema.https.template List.mem_cons_self
  exact ⟨right.trans size, size, count right, (read .empty {}).2 ⟨rfl, right, by decide⟩⟩

def wide (n : Nat) : Template := ⟨256, List.replicate n ⟨Code.inBytes, 4⟩⟩

theorem length_wide (n : Nat) : (wide n).fields.length = n := List.length_replicate

theorem size_wide (n : Nat) : (wide n).size = 4 + 4 * n := by
  unfold Template.size
  rw [length_wide]

/-- The set has 65540 bytes and tells 4, and the template has 65536 fields and tells none. -/
theorem ofTemplates_wraps :
    let s := ofTemplates [wide 8191, wide 8191]
    s.length.toNat = 4 ∧ s.encode.length = 65540 ∧
      (wide 65536).fieldCount.toNat = 0 ∧ (wide 65536).fields.length = 65536 := by
  have size : 4 + total ([wide 8191, wide 8191].map Template.size) = 65540 := by
    simp only [List.map_cons, List.map_nil, total_cons, total_nil, size_wide]
  refine ⟨?_, ?_, ?_, length_wide _⟩
  · rw [toNat_length_ofTemplates, size]
  · rw [length_encode_ofTemplates, size]
  · unfold Template.fieldCount
    rw [length_wide]
    rfl

end TemplateSet

end FlowTraffic.Netflow
