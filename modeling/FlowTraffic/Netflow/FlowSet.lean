import FlowTraffic.Netflow.Flow

/-!
# Flow sets

A packet's body is a row of flow sets. Each starts with an ID and its own length. ID 0 carries
templates; an ID from 256 up carries records laid out by the template of that ID, filled up with
zero bytes to a multiple of four.
-/

namespace FlowTraffic.Netflow

/-- The smallest ID that a template, and so a data set, may have. -/
def minDataId : UInt16 := 256

/-- The size of the ID and the length in front of every flow set. -/
def setHeaderSize : Nat := 4

/-- How many bytes reach the next multiple of four. -/
def paddingFor (n : Nat) : Nat := (4 - n % 4) % 4

theorem paddingFor_lt (n : Nat) : paddingFor n < 4 := Nat.mod_lt _ (by omega)

theorem add_paddingFor_mod (n : Nat) : (n + paddingFor n) % 4 = 0 := by
  simp only [paddingFor]; omega

/-! ## Templates -/

structure TemplateSet where
  length : UInt16
  templates : List Template
  deriving DecidableEq, Repr

namespace TemplateSet

/-- The set of these templates. Its length is their size modulo 2¹⁶. -/
def ofTemplates (templates : List Template) : TemplateSet :=
  ⟨UInt16.ofNat (setHeaderSize + total (templates.map Template.size)), templates⟩

def encode (s : TemplateSet) : Bytes :=
  Bytes.ofWord16 0 ++ Bytes.ofWord16 s.length ++ s.templates.flatMap Template.encode

end TemplateSet

/-! ## Records -/

structure DataSet where
  id : UInt16
  length : UInt16
  records : List Flow
  padding : UInt8
  deriving DecidableEq, Repr

namespace DataSet

/-- The size of the ID, the length and the records, before padding. -/
def unpaddedSize (records : List Flow) : Nat := setHeaderSize + total (records.map Flow.size)

def paddedSize (records : List Flow) : Nat :=
  unpaddedSize records + paddingFor (unpaddedSize records)

/-- The largest size that a length field holds. -/
def maxSize : Nat := 65535

/-- The set of these records, if its size fits the length field. -/
def ofRecords (id : UInt16) (records : List Flow) : Except TooLarge DataSet :=
  if paddedSize records ≤ maxSize then
    .ok ⟨id, UInt16.ofNat (paddedSize records), records,
      UInt8.ofNat (paddingFor (unpaddedSize records))⟩
  else
    .error ⟨paddedSize records, maxSize⟩

def encode (s : DataSet) : Bytes :=
  Bytes.ofWord16 s.id ++ Bytes.ofWord16 s.length ++ s.records.flatMap Flow.encode ++
    List.replicate s.padding.toNat 0

/-- Reads a body as records of the schema: as many as fit, and the rest is padding. -/
def decode (id length : UInt16) (schema : Schema) (body : Bytes) : DataSet :=
  let size := body.length
  ⟨id, length, ((Flow.decodeMany schema (size / schema.recordSize)).run body).1,
    UInt8.ofNat (size % schema.recordSize)⟩

end DataSet

/-! ## Either -/

/-- A flow set of either kind. -/
inductive FlowSet
  | templates (set : TemplateSet)
  | data (set : DataSet)
  deriving DecidableEq, Repr

namespace FlowSet

def templates? : FlowSet → Option TemplateSet
  | templates s => some s
  | data _ => none

def data? : FlowSet → Option DataSet
  | templates _ => none
  | data s => some s

end FlowSet

end FlowTraffic.Netflow
