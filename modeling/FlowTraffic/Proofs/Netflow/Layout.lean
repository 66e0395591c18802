import FlowTraffic.Netflow.Member
import FlowTraffic.Proofs.Netflow.Codec

/-!
# Records read by their template

A template names a code and a width for every field. A reader that knows nothing else finds in a record
that was written exactly its members, each under its code, and what it finds at the front of any bytes
makes up the record that is decoded from them.
-/

namespace FlowTraffic.Netflow

open Bytes

/-! ## Reading by a template -/

/-- One number after the other, as wide as the field says and under the field's code. -/
def Field.readMany : List Field → Reader (List (UInt16 × Nat))
  | [] => return []
  | f :: fs => do
    let value ← number f.length.toNat
    return (f.code, value) :: (← readMany fs)

def Template.read (t : Template) : Reader (List (UInt16 × Nat)) := Field.readMany t.fields

/-! ## Members under their codes -/

theorem lookup_eq_some_iff {found : List (UInt16 × Nat)} (once : (found.map (·.1)).Nodup)
    {code : UInt16} {value : Nat} : found.lookup code = some value ↔ (code, value) ∈ found := by
  induction found with
  | nil => simp
  | cons e found ih =>
    obtain ⟨c, v⟩ := e
    rw [List.map_cons, List.nodup_cons] at once
    rw [List.lookup_cons, List.mem_cons, Prod.mk.injEq]
    by_cases hc : code = c
    · subst hc
      -- The code does not come again, so its first value is its only one.
      have hgone : (code, value) ∉ found := by
        intro hmem
        apply once.1
        exact List.mem_map_of_mem (f := (·.1)) hmem
      simp [hgone, eq_comm]
    · rw [beq_false_of_ne hc]
      simp only [hc, false_and, false_or]
      exact ih once.2

theorem Schema.nodup_codes (s : Schema) : (s.fields.map (·.code)).Nodup := by
  cases s <;> decide

namespace Flow

/-- The numbers found are exactly the members of the record, each under its code. -/
def Holds (x : Flow) (found : List (UInt16 × Nat)) : Prop :=
  ∀ code value, (code, value) ∈ found ↔ x.member? code = some value

theorem codes_members (x : Flow) : x.members.map (·.1) = x.schema.fields.map (·.code) := by
  cases x <;> rfl

theorem holds_members (x : Flow) : x.Holds x.members := by
  intro code value
  have hnodup : (x.members.map (·.1)).Nodup := by
    rw [codes_members]
    exact x.schema.nodup_codes
  exact (lookup_eq_some_iff hnodup).symm

theorem Holds.unique {x y : Flow} {found : List (UInt16 × Nat)} (hx : x.Holds found)
    (hy : y.Holds found) (hschema : x.schema = y.schema) : x = y := by
  have hmember : ∀ code, x.member? code = y.member? code := by
    intro code
    apply Option.ext
    intro value
    rw [← hx code value, hy code value]
  rw [← ofMembers_members x, ← ofMembers_members y, hschema]
  simp only [hmember]

/-! ## Records on the wire -/

theorem read_template_append (x : Flow) (rest : Bytes) :
    x.schema.template.read (x.encode ++ rest) = (x.members, rest) := by
  unfold Template.read
  cases x <;> simp only [schema, Schema.template, Schema.fields, Field.readMany, encode, encodeAddr,
    List.append_assoc, reader_bind, reader_pure, UInt16.reduceToNat, number_ofWord8,
    number_ofWord16, number_ofWord32, members, Ipv4.toNat]

theorem decode_drop {s : Schema} {b : Bytes} (h : s.recordSize ≤ b.length) :
    (decode s b).1.encode = b.take s.recordSize ∧ (decode s b).2 = b.drop s.recordSize := by
  have hback := encode_decode h
  have hlen : (decode s b).1.encode.length = s.recordSize := by
    rw [length_encode, size, schema_decode]
  have htake : ((decode s b).1.encode ++ (decode s b).2).take s.recordSize =
      (decode s b).1.encode := List.take_left' hlen
  have hdrop : ((decode s b).1.encode ++ (decode s b).2).drop s.recordSize =
      (decode s b).2 := List.drop_left' hlen
  rw [hback] at htake hdrop
  exact ⟨htake.symm, hdrop.symm⟩

theorem read_template_decode {s : Schema} {b : Bytes} (h : s.recordSize ≤ b.length) :
    s.template.read b = ((decode s b).1.members, (decode s b).2) := by
  have hread := read_template_append (decode s b).1 (decode s b).2
  rwa [schema_decode, encode_decode h] at hread

/-- **Layout.** A record is written in the size of its schema, and a reader of the template alone finds
exactly its members there. From enough bytes such a reader finds the members of one record only, the one
that is decoded from the same bytes and that is written as them. -/
theorem read_by_template :
    (∀ x : Flow, x.encode.length = x.schema.recordSize ∧
        (x.schema.template.read x.encode).2 = [] ∧
        x.Holds (x.schema.template.read x.encode).1) ∧
      ∀ (s : Schema) (b : Bytes), s.recordSize ≤ b.length →
        (∀ x : Flow, x.schema = s ∧ x.Holds (s.template.read b).1 ↔ x = (decode s b).1) ∧
          (s.template.read b).2 = b.drop s.recordSize ∧
          (decode s b).2 = b.drop s.recordSize ∧
          (decode s b).1.encode = b.take s.recordSize := by
  constructor
  · intro x
    have hread := read_template_append x []
    rw [List.append_nil] at hread
    rw [hread]
    exact ⟨length_encode x, rfl, holds_members x⟩
  · intro s b h
    obtain ⟨hfront, hrest⟩ := decode_drop h
    rw [read_template_decode h]
    refine ⟨?_, hrest, hrest, hfront⟩
    intro x
    constructor
    · rintro ⟨hschema, hholds⟩
      apply hholds.unique (holds_members _)
      rw [hschema, schema_decode]
    · rintro rfl
      exact ⟨schema_decode s b, holds_members _⟩

/-- Forty bytes, no two of them the same. -/
def counting : Bytes := (List.range 40).map UInt8.ofNat

theorem read_by_template_counting :
    Schema.generic.recordSize ≤ counting.length ∧
      (∀ x : Flow, x.schema = .generic ∧ x.Holds (Schema.generic.template.read counting).1 ↔
        x = (decode .generic counting).1) ∧
      (Schema.generic.template.read counting).2 = [37, 38, 39] ∧
      (decode .generic counting).2 = [37, 38, 39] ∧
      (decode .generic counting).1.encode = (List.range 37).map UInt8.ofNat := by
  have h : Schema.generic.recordSize ≤ counting.length := by decide
  exact ⟨h, read_by_template.2 .generic counting h⟩

end Flow

end FlowTraffic.Netflow
