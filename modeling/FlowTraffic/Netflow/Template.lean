import FlowTraffic.Bytes.Fault
import FlowTraffic.Total

/-!
# Templates

A template announces under an ID which fields a record has and how wide each one is. On the wire
it is the ID, the number of fields and four bytes for each field.
-/

namespace FlowTraffic.Netflow

/-- One field of a record: what it means and how many bytes it takes. -/
structure Field where
  code : UInt16
  length : UInt16
  deriving DecidableEq, Repr

/-- An ordered list of fields under an ID. -/
structure Template where
  id : UInt16
  fields : List Field
  deriving DecidableEq, Repr

/-- Why a packet cannot be read. -/
inductive DecodeError
  | short (shortage : Shortage)
  | version (found : UInt16)
  | flowSetLength (id length : UInt16)
  | unknownTemplate (id : UInt16)
  | unsupportedTemplate (id : UInt16)
  | reservedFlowSet (id : UInt16)
  deriving DecidableEq, Repr

def version : UInt16 := 9

def DecodeError.message : DecodeError → String
  | short s => s.message
  | version found => s!"unexpected version {found}, expected {Netflow.version}"
  | flowSetLength id length => s!"flow set {id} declares invalid length {length}"
  | unknownTemplate id => s!"no template registered for flow set {id}"
  | unsupportedTemplate id => s!"template {id} does not describe a supported flow schema"
  | reservedFlowSet id => s!"flow set id {id} is reserved"

namespace Field

def encode (f : Field) : Bytes := Bytes.ofWord16 f.code ++ Bytes.ofWord16 f.length

def decode : Bytes.Reader Field := do return { code := ← Bytes.word16, length := ← Bytes.word16 }

def decodeMany : Nat → Bytes.Reader (List Field)
  | 0 => return []
  | n + 1 => do
    let f ← decode
    return f :: (← decodeMany n)

@[simp] theorem length_encode (f : Field) : f.encode.length = 4 := by simp [encode]

end Field

namespace Template

/-- The number of fields as the wire carries it, modulo 2¹⁶. -/
def fieldCount (t : Template) : UInt16 := UInt16.ofNat t.fields.length

def size (t : Template) : Nat := 4 + 4 * t.fields.length

/-- The size of a record that the template describes. -/
def recordSize (t : Template) : Nat := total (t.fields.map (·.length.toNat))

def encode (t : Template) : Bytes :=
  Bytes.ofWord16 t.id ++ Bytes.ofWord16 t.fieldCount ++ t.fields.flatMap Field.encode

@[simp] theorem length_encode (t : Template) : t.encode.length = t.size := by
  have h : ∀ fs : List Field, (fs.flatMap Field.encode).length = 4 * fs.length := by
    intro fs
    induction fs with
    | nil => rfl
    | cons f fs ih => simp only [List.flatMap_cons, List.length_append, ih, Field.length_encode,
        List.length_cons]; omega
  simp only [encode, size, List.length_append, Bytes.length_ofWord16, h]

/-- The templates that the bytes hold one after the other. Fewer than four bytes at the end are
filler. -/
def decodeAll : Bytes → Except DecodeError (List Template)
  | i :: i' :: c :: c' :: rest =>
    let count := (Bytes.join16 c c').toNat
    let needed := 4 * count
    let fields := rest.take needed
    if fields.length < needed then
      throw (.short ⟨.templateFields, needed, rest.length⟩)
    else do
      let t : Template := ⟨Bytes.join16 i i', ((Field.decodeMany count).run fields).1⟩
      return t :: (← decodeAll (rest.drop needed))
  | _ => return []
termination_by b => b.length
decreasing_by simp only [List.length_drop, List.length_cons]; omega

end Template

end FlowTraffic.Netflow
