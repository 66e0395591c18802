import FlowTraffic.Netflow.Template
import FlowTraffic.Net.Ipv4

/-!
# Flows and their schemas

A flow record is laid out by one of two schemas. A schema fixes a template, and so the order and
width of the fields; a template belongs to a schema when its fields are exactly the schema's.
-/

namespace FlowTraffic.Netflow

/-! ## Field codes -/

namespace Code

def inBytes : UInt16 := 1
def inPackets : UInt16 := 2
def protocol : UInt16 := 4
def srcTos : UInt16 := 5
def tcpFlags : UInt16 := 6
def srcPort : UInt16 := 7
def srcAddr : UInt16 := 8
def srcMask : UInt16 := 9
def inputInterface : UInt16 := 10
def dstPort : UInt16 := 11
def dstAddr : UInt16 := 12
def dstMask : UInt16 := 13
def outputInterface : UInt16 := 14
def lastSwitched : UInt16 := 21
def firstSwitched : UInt16 := 22
def outBytes : UInt16 := 23
def outPackets : UInt16 := 24
def engineType : UInt16 := 38
def engineId : UInt16 := 39

end Code

/-! ## Records -/

/-- A TCP flow to port 443, with counters for both directions. -/
structure HttpsFlow where
  inBytes : UInt32 := 0
  outBytes : UInt32 := 0
  inPackets : UInt32 := 0
  outPackets : UInt32 := 0
  srcAddr : Ipv4 := .unspecified
  dstAddr : Ipv4 := .unspecified
  srcPort : UInt16 := 0
  dstPort : UInt16 := 0
  protocol : UInt8 := 0
  tcpFlags : UInt8 := 0
  firstSwitched : UInt32 := 0
  lastSwitched : UInt32 := 0
  engineType : UInt8 := 0
  engineId : UInt8 := 0
  deriving DecidableEq, Repr

/-- A TCP or UDP flow to a well-known port, with interfaces and masks. -/
structure GenericFlow where
  inBytes : UInt32 := 0
  inPackets : UInt32 := 0
  protocol : UInt8 := 0
  srcTos : UInt8 := 0
  tcpFlags : UInt8 := 0
  srcPort : UInt16 := 0
  srcAddr : Ipv4 := .unspecified
  srcMask : UInt8 := 0
  inputInterface : UInt16 := 0
  dstPort : UInt16 := 0
  dstAddr : Ipv4 := .unspecified
  dstMask : UInt8 := 0
  outputInterface : UInt16 := 0
  firstSwitched : UInt32 := 0
  lastSwitched : UInt32 := 0
  deriving DecidableEq, Repr

/-- A flow record of either kind. -/
inductive Flow
  | https (flow : HttpsFlow)
  | generic (flow : GenericFlow)
  deriving DecidableEq, Repr

/-! ## Schemas -/

/-- The layouts a record can have. -/
inductive Schema
  | https
  | generic
  deriving DecidableEq, Repr

/-- The name is not one of a schema. -/
structure UnknownSchema where
  name : String
  deriving DecidableEq, Repr

def UnknownSchema.message (e : UnknownSchema) : String :=
  s!"unknown flow schema '{e.name}', expected 'https' or 'generic'"

namespace Schema

/-- Every schema, in the order of their template IDs. -/
def all : List Schema := [https, generic]

def name : Schema → String
  | https => "https"
  | generic => "generic"

def ofName? (s : String) : Option Schema := all.find? (·.name == s)

/-- The schema of that name, whatever the case of its ASCII letters. -/
def parse (s : String) : Except UnknownSchema Schema :=
  match ofName? (String.ofList (s.toList.map Char.toLower)) with
  | some schema => .ok schema
  | none => .error ⟨s⟩

def templateId : Schema → UInt16
  | https => 256
  | generic => 257

/-- The fields of a record in the order of the wire. -/
def fields : Schema → List Field
  | https =>
    [⟨Code.inBytes, 4⟩, ⟨Code.outBytes, 4⟩, ⟨Code.inPackets, 4⟩, ⟨Code.outPackets, 4⟩,
      ⟨Code.srcAddr, 4⟩, ⟨Code.dstAddr, 4⟩, ⟨Code.srcPort, 2⟩, ⟨Code.dstPort, 2⟩,
      ⟨Code.protocol, 1⟩, ⟨Code.tcpFlags, 1⟩, ⟨Code.firstSwitched, 4⟩, ⟨Code.lastSwitched, 4⟩,
      ⟨Code.engineType, 1⟩, ⟨Code.engineId, 1⟩]
  | generic =>
    [⟨Code.inBytes, 4⟩, ⟨Code.inPackets, 4⟩, ⟨Code.protocol, 1⟩, ⟨Code.srcTos, 1⟩,
      ⟨Code.tcpFlags, 1⟩, ⟨Code.srcPort, 2⟩, ⟨Code.srcAddr, 4⟩, ⟨Code.srcMask, 1⟩,
      ⟨Code.inputInterface, 2⟩, ⟨Code.dstPort, 2⟩, ⟨Code.dstAddr, 4⟩, ⟨Code.dstMask, 1⟩,
      ⟨Code.outputInterface, 2⟩, ⟨Code.firstSwitched, 4⟩, ⟨Code.lastSwitched, 4⟩]

def template (s : Schema) : Template := ⟨s.templateId, s.fields⟩

def recordSize (s : Schema) : Nat := s.template.recordSize

/-- The schema whose fields are exactly these. -/
def ofFields? (fields : List Field) : Option Schema := all.find? (·.fields = fields)

@[simp] theorem recordSize_https : https.recordSize = 40 := rfl

@[simp] theorem recordSize_generic : generic.recordSize = 37 := rfl

theorem recordSize_pos (s : Schema) : 0 < s.recordSize := by cases s <;> decide

@[simp] theorem ofFields?_fields (s : Schema) : ofFields? s.fields = some s := by
  cases s <;> decide

theorem ofFields?_eq_some_iff {fields : List Field} {s : Schema} :
    ofFields? fields = some s ↔ fields = s.fields := by
  constructor
  · intro h
    have := List.find?_some h
    simpa using (of_decide_eq_true this).symm
  · rintro rfl
    exact ofFields?_fields s

end Schema

/-! ## Records on the wire -/

namespace Flow

def schema : Flow → Schema
  | https _ => .https
  | generic _ => .generic

def size (r : Flow) : Nat := r.schema.recordSize

def srcAddr : Flow → Ipv4
  | https f => f.srcAddr
  | generic f => f.srcAddr

def dstAddr : Flow → Ipv4
  | https f => f.dstAddr
  | generic f => f.dstAddr

/-- An address as it stands in a record. -/
def encodeAddr (a : Ipv4) : Bytes := Bytes.ofWord32 a.bits

def decodeAddr : Bytes.Reader Ipv4 := do return ⟨← Bytes.word32⟩

def encode : Flow → Bytes
  | https f =>
    Bytes.ofWord32 f.inBytes ++ Bytes.ofWord32 f.outBytes ++ Bytes.ofWord32 f.inPackets ++
      Bytes.ofWord32 f.outPackets ++ encodeAddr f.srcAddr ++ encodeAddr f.dstAddr ++
      Bytes.ofWord16 f.srcPort ++ Bytes.ofWord16 f.dstPort ++ Bytes.ofWord8 f.protocol ++
      Bytes.ofWord8 f.tcpFlags ++ Bytes.ofWord32 f.firstSwitched ++
      Bytes.ofWord32 f.lastSwitched ++ Bytes.ofWord8 f.engineType ++ Bytes.ofWord8 f.engineId
  | generic f =>
    Bytes.ofWord32 f.inBytes ++ Bytes.ofWord32 f.inPackets ++ Bytes.ofWord8 f.protocol ++
      Bytes.ofWord8 f.srcTos ++ Bytes.ofWord8 f.tcpFlags ++ Bytes.ofWord16 f.srcPort ++
      encodeAddr f.srcAddr ++ Bytes.ofWord8 f.srcMask ++ Bytes.ofWord16 f.inputInterface ++
      Bytes.ofWord16 f.dstPort ++ encodeAddr f.dstAddr ++ Bytes.ofWord8 f.dstMask ++
      Bytes.ofWord16 f.outputInterface ++ Bytes.ofWord32 f.firstSwitched ++
      Bytes.ofWord32 f.lastSwitched

/-- Reads one record of the schema. The bytes hold at least one. -/
def decode : Schema → Bytes.Reader Flow
  | .https => do
    return .https {
      inBytes := ← Bytes.word32, outBytes := ← Bytes.word32
      inPackets := ← Bytes.word32, outPackets := ← Bytes.word32
      srcAddr := ← decodeAddr, dstAddr := ← decodeAddr
      srcPort := ← Bytes.word16, dstPort := ← Bytes.word16
      protocol := ← Bytes.word8, tcpFlags := ← Bytes.word8
      firstSwitched := ← Bytes.word32, lastSwitched := ← Bytes.word32
      engineType := ← Bytes.word8, engineId := ← Bytes.word8 }
  | .generic => do
    return .generic {
      inBytes := ← Bytes.word32, inPackets := ← Bytes.word32
      protocol := ← Bytes.word8, srcTos := ← Bytes.word8, tcpFlags := ← Bytes.word8
      srcPort := ← Bytes.word16, srcAddr := ← decodeAddr, srcMask := ← Bytes.word8
      inputInterface := ← Bytes.word16, dstPort := ← Bytes.word16
      dstAddr := ← decodeAddr, dstMask := ← Bytes.word8
      outputInterface := ← Bytes.word16
      firstSwitched := ← Bytes.word32, lastSwitched := ← Bytes.word32 }

/-- So many records of the schema in a row. -/
def decodeMany (s : Schema) : Nat → Bytes.Reader (List Flow)
  | 0 => return []
  | n + 1 => do
    let r ← decode s
    return r :: (← decodeMany s n)

@[simp] theorem length_encode (r : Flow) : r.encode.length = r.size := by
  cases r <;> simp [encode, encodeAddr, size, schema]

end Flow

end FlowTraffic.Netflow
