import FlowTraffic.Netflow.FlowSet
import FlowTraffic.Netflow.Registry

/-!
# Packets

A packet is a header of 20 bytes and flow sets. `encode` writes it, template sets before data sets.
`parse` reads it in two steps: `cut` divides the body into frames by their lengths alone, and
`FlowSet.readAll` gives the frames their meaning, one after the other, through a registry that
learns every template on the way.
-/

namespace FlowTraffic.Netflow

/-! ## The header -/

structure Header where
  version : UInt16 := Netflow.version
  flowCount : UInt16 := 0
  sysUptime : UInt32 := 0
  unixSecs : UInt32 := 0
  sequence : UInt32 := 0
  sourceId : UInt32 := 0
  deriving DecidableEq, Repr

namespace Header

def size : Nat := 20

def encode (h : Header) : Bytes :=
  Bytes.ofWord16 h.version ++ Bytes.ofWord16 h.flowCount ++ Bytes.ofWord32 h.sysUptime ++
    Bytes.ofWord32 h.unixSecs ++ Bytes.ofWord32 h.sequence ++ Bytes.ofWord32 h.sourceId

/-- Reads a header. The bytes hold one. -/
def decode : Bytes.Reader Header := do
  return {
    version := ← Bytes.word16, flowCount := ← Bytes.word16
    sysUptime := ← Bytes.word32, unixSecs := ← Bytes.word32
    sequence := ← Bytes.word32, sourceId := ← Bytes.word32 }

@[simp] theorem length_encode (h : Header) : h.encode.length = size := by simp [encode, size]

def text (h : Header) : String :=
  s!"Version: {h.version} Count: {h.flowCount} SysUptime: {h.sysUptime} UnixSecs: {h.unixSecs} " ++
    s!"Sequence: {h.sequence} SourceID: {h.sourceId}"

end Header

/-- Whether the bytes start with the version number of a packet. Nothing else is looked at. -/
def isNetflow : Bytes → Except Shortage Bool
  | high :: low :: _ => .ok (Bytes.join16 high low == version)
  | b => .error ⟨.version, 2, b.length⟩

/-- Whether a datagram is taken for a packet. One that is too short for a version number is not. -/
def isPacket (b : Bytes) : Bool :=
  match isNetflow b with
  | .ok yes => yes
  | .error _ => false

/-! ## Packets -/

structure Packet where
  header : Header
  templateSets : List TemplateSet
  dataSets : List DataSet
  deriving DecidableEq, Repr

/-- How many bytes each section of a packet takes, by the sets' own length fields. -/
structure Sizes where
  header : Nat
  template : Nat
  data : Nat
  deriving DecidableEq, Repr

def Sizes.text (s : Sizes) : String :=
  s!"Header Size: {s.header} bytes, Template Size: {s.template} bytes, Data Size: {s.data} bytes"

namespace Packet

def sizes (p : Packet) : Sizes where
  header := Header.size
  template := total (p.templateSets.map (·.length.toNat))
  data := total (p.dataSets.map (·.length.toNat))

/-- The size of the packet by its length fields. -/
def size (p : Packet) : Nat := p.sizes.header + p.sizes.template + p.sizes.data

/-- The sections in the order of the wire: the header, the template sets, the data sets. -/
def sections (p : Packet) : List Bytes :=
  p.header.encode :: (p.templateSets.map TemplateSet.encode ++ p.dataSets.map DataSet.encode)

def encode (p : Packet) : Bytes := p.sections.flatten

end Packet

/-! ## Cutting a body into frames -/

/-- A flow set before its body is looked at. -/
structure Frame where
  id : UInt16
  length : UInt16
  body : Bytes
  deriving DecidableEq, Repr

/-- The frames found at the front of a body, and why the cutting stopped before its end. -/
structure Cut where
  frames : List Frame
  fault : Option DecodeError
  deriving DecidableEq, Repr

/-- Divides a body into frames. A frame's length counts its four bytes of ID and length, and it
must not reach past the body. -/
def cut : Bytes → Cut
  | [] => ⟨[], none⟩
  | i :: i' :: l :: l' :: rest =>
    let id := Bytes.join16 i i'
    let length := Bytes.join16 l l'
    let size := length.toNat - setHeaderSize
    let body := rest.take size
    if length.toNat < setHeaderSize ∨ body.length < size then
      ⟨[], some (.flowSetLength id length)⟩
    else
      let later := cut (rest.drop size)
      ⟨⟨id, length, body⟩ :: later.frames, later.fault⟩
  | short => ⟨[], some (.short ⟨.flowSetHeader, setHeaderSize, short.length⟩)⟩
termination_by b => b.length
decreasing_by simp only [List.length_drop, List.length_cons]; omega

/-! ## Reading frames -/

namespace FlowSet

/-- What a frame means to a collector that knows the registry, and what the collector knows
afterwards. A set with a template of a reserved ID teaches nothing. -/
def read (r : Registry) (f : Frame) : Except DecodeError (FlowSet × Registry) :=
  if f.id = 0 then do
    let ts ← Template.decodeAll f.body
    match ts.find? (·.id < minDataId) with
    | some t => throw (.reservedFlowSet t.id)
    | none => return (.templates ⟨f.length, ts⟩, r.registerAll ts)
  else if f.id < minDataId then throw (.reservedFlowSet f.id)
  else do
    let s ← r.schema f.id
    return (.data (DataSet.decode f.id f.length s f.body), r)

/-- What a collector makes of frames: the sets up to the first one it cannot read, what it knows
then, and why it stopped. -/
structure Reading where
  sets : List FlowSet
  registry : Registry
  fault : Option DecodeError

def readAll (r : Registry) : List Frame → Reading
  | [] => ⟨[], r, none⟩
  | f :: fs =>
    match read r f with
    | .error e => ⟨[], r, some e⟩
    | .ok (s, r') =>
      let later := readAll r' fs
      ⟨s :: later.sets, later.registry, later.fault⟩

end FlowSet

namespace Packet

/-- The packet of these flow sets, each kind in its order. -/
def ofSets (h : Header) (sets : List FlowSet) : Packet :=
  ⟨h, sets.filterMap FlowSet.templates?, sets.filterMap FlowSet.data?⟩

/-- Reads a packet through a registry, and gives the registry with all templates that were read
before the end or the first fault. -/
def parse (r : Registry) (b : Bytes) : Except DecodeError Packet × Registry :=
  if b.length < Header.size then (.error (.short ⟨.header, Header.size, b.length⟩), r)
  else
    let (h, body) := Header.decode.run b
    if h.version ≠ Netflow.version then (.error (.version h.version), r)
    else
      let frames := cut body
      let reading := FlowSet.readAll r frames.frames
      match reading.fault.or frames.fault with
      | some e => (.error e, reading.registry)
      | none => (.ok (ofSets h reading.sets), reading.registry)

/-- Reads a packet with no other templates than the built-in ones and its own. -/
def parseAlone (b : Bytes) : Except DecodeError Packet := (parse .builtin b).1

end Packet

end FlowTraffic.Netflow
