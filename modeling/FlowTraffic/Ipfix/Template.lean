import FlowTraffic.Bytes.Fault
import FlowTraffic.Total

/-!
# IPFIX template records

A template record lists field specifiers. The top bit of a specifier's ID says whether an
enterprise number follows it. A record with the ID 0 has a scope field count as well.
-/

namespace FlowTraffic.Ipfix

structure FieldSpecifier where
  id : UInt16
  length : UInt16
  enterprise : Option UInt32
  deriving DecidableEq, Repr

structure TemplateRecord where
  id : UInt16
  scopeFieldCount : UInt16
  fields : List FieldSpecifier
  deriving DecidableEq, Repr

/-- The top bit of a specifier's ID on the wire. -/
def enterpriseBit : UInt16 := 0x8000

namespace FieldSpecifier

def size (f : FieldSpecifier) : Nat := if f.enterprise.isSome then 8 else 4

def encode (f : FieldSpecifier) : Bytes :=
  match f.enterprise with
  | some n =>
    Bytes.ofWord16 (f.id ||| enterpriseBit) ++ Bytes.ofWord16 f.length ++ Bytes.ofWord32 n
  | none => Bytes.ofWord16 f.id ++ Bytes.ofWord16 f.length

@[simp] theorem length_encode (f : FieldSpecifier) : f.encode.length = f.size := by
  unfold encode size
  split <;> simp_all

/-- The specifier in front and the bytes after it. -/
def decode : Bytes → Except Shortage (FieldSpecifier × Bytes)
  | i :: i' :: l :: l' :: rest =>
    let rawId := Bytes.join16 i i'
    let length := Bytes.join16 l l'
    if rawId < enterpriseBit then .ok (⟨rawId, length, none⟩, rest)
    else
      match rest with
      | n₁ :: n₂ :: n₃ :: n₄ :: rest =>
        let n := (Bytes.word32.run [n₁, n₂, n₃, n₄]).1
        .ok (⟨rawId - enterpriseBit, length, some n⟩, rest)
      | short => .error ⟨.ipfixEnterpriseNumber, 4, short.length⟩
  | short => .error ⟨.ipfixFieldSpecifier, 4, short.length⟩

/-- So many specifiers in a row and the bytes after them. -/
def decodeMany : Nat → Bytes → Except Shortage (List FieldSpecifier × Bytes)
  | 0, b => .ok ([], b)
  | n + 1, b => do
    let (f, b) ← decode b
    let (fs, b) ← decodeMany n b
    return (f :: fs, b)

theorem length_le_of_decode {b rest : Bytes} {f : FieldSpecifier}
    (h : decode b = .ok (f, rest)) : rest.length ≤ b.length := by
  rw [decode.eq_def] at h
  split at h
  · dsimp only at h
    split at h
    · cases h
      simp only [List.length_cons]
      omega
    · split at h
      · cases h
        simp only [List.length_cons]
        omega
      · cases h
  · cases h

theorem length_le_of_decodeMany {n : Nat} {b rest : Bytes} {fs : List FieldSpecifier}
    (h : decodeMany n b = .ok (fs, rest)) : rest.length ≤ b.length := by
  induction n generalizing b fs with
  | zero =>
    cases h
    exact Nat.le_refl _
  | succ n ih =>
    unfold decodeMany at h
    obtain ⟨⟨f, later⟩, hf, h⟩ := exists_of_bind h
    obtain ⟨⟨fs, last⟩, hm, h⟩ := exists_of_bind h
    cases h
    exact Nat.le_trans (ih hm) (length_le_of_decode hf)

end FieldSpecifier

namespace TemplateRecord

/-- Whether the record carries a scope field count. -/
def isScoped (r : TemplateRecord) : Bool := r.id == 0

def size (r : TemplateRecord) : Nat :=
  (if r.isScoped then 6 else 4) + total (r.fields.map FieldSpecifier.size)

/-- The record on the wire. Its field count is modulo 2¹⁶. -/
def encode (r : TemplateRecord) : Bytes :=
  Bytes.ofWord16 r.id ++ Bytes.ofWord16 (UInt16.ofNat r.fields.length) ++
    (if r.isScoped then Bytes.ofWord16 r.scopeFieldCount else []) ++
    r.fields.flatMap FieldSpecifier.encode

/-- The scope field count of a record with this ID, and the bytes after it. -/
def scopeCount (id : UInt16) (b : Bytes) : Except Shortage (UInt16 × Bytes) :=
  if id = 0 then
    match b with
    | s :: s' :: rest => .ok (Bytes.join16 s s', rest)
    | short => .error ⟨.ipfixScopeFieldCount, 2, short.length⟩
  else .ok (0, b)

theorem length_le_of_scopeCount {id n : UInt16} {b rest : Bytes}
    (h : scopeCount id b = .ok (n, rest)) : rest.length ≤ b.length := by
  unfold scopeCount at h
  split at h
  · split at h
    · cases h
      simp only [List.length_cons]
      omega
    · cases h
  · cases h
    exact Nat.le_refl _

/-- The record in front and the bytes after it. -/
def decode : Bytes → Except Shortage (TemplateRecord × Bytes)
  | i :: i' :: c :: c' :: rest => do
    let id := Bytes.join16 i i'
    let (scope, rest) ← scopeCount id rest
    let (fields, rest) ← FieldSpecifier.decodeMany (Bytes.join16 c c').toNat rest
    return (⟨id, scope, fields⟩, rest)
  | short => .error ⟨.ipfixTemplateHeader, 4, short.length⟩

theorem length_lt_of_decode {b rest : Bytes} {r : TemplateRecord}
    (h : decode b = .ok (r, rest)) : rest.length < b.length := by
  rw [decode.eq_def] at h
  split at h
  · rename_i i i' c c' tail
    obtain ⟨⟨scope, later⟩, hs, h⟩ := exists_of_bind h
    obtain ⟨⟨fields, last⟩, hf, h⟩ := exists_of_bind h
    cases h
    have h₁ := length_le_of_scopeCount hs
    have h₂ := FieldSpecifier.length_le_of_decodeMany hf
    simp only [List.length_cons]
    omega
  · cases h

/-- What stands at one place in a row of records: a record and how many bytes follow it, or why
there is none. -/
abbrev Found := Except Shortage (TemplateRecord × Nat)

/-- Reads records to the end of the bytes or to the first that cannot be read; at least once. -/
def decodeAll (b : Bytes) : List Found :=
  match _h : decode b with
  | .error e => [.error e]
  | .ok (r, rest) =>
    .ok (r, rest.length) :: if rest = [] then [] else decodeAll rest
termination_by b.length
decreasing_by exact length_lt_of_decode _h

end TemplateRecord

end FlowTraffic.Ipfix
