import FlowTraffic.Proofs.Netflow.Codec
import Mathlib.Data.List.Forall2

/-!
# The format of a packet

Which bytes are a packet, what a packet says, and where bytes stop being one, without a parser. The
flow sets after the header are taken from left to right. What the ID of a data set stands for is
decided by the templates before it, and by the registry only where there is none.
-/

namespace FlowTraffic.Netflow

/-! ## Frames on the wire -/

namespace Frame

def encode (f : Frame) : Bytes := Bytes.ofWord16 f.id ++ Bytes.ofWord16 f.length ++ f.body

/-- The frame takes as many bytes as its length says. -/
def Sized (f : Frame) : Prop := f.length.toNat = setHeaderSize + f.body.length

end Frame

/-! ## What an ID stands for -/

def latest? (seen : List Template) (id : UInt16) : Option Template :=
  seen.reverse.find? (·.id = id)

namespace Registry

/-- Data of the ID is laid out by the schema. -/
def Describes (r : Registry) (seen : List Template) (id : UInt16) (s : Schema) : Prop :=
  match latest? seen id with
  | some t => t.fields = s.fields
  | none => r.find? id = some (some s)

/-- The ID has a template, but of no schema. -/
def Unsupported (r : Registry) (seen : List Template) (id : UInt16) : Prop :=
  match latest? seen id with
  | some t => ∀ s : Schema, t.fields ≠ s.fields
  | none => r.find? id = some none

def Unknown (r : Registry) (seen : List Template) (id : UInt16) : Prop :=
  latest? seen id = none ∧ r.find? id = none

end Registry

/-! ## What a frame holds -/

/-- What the body of a frame turns out to be. -/
inductive Content
  | templates (ts : List Template)
  | records (schema : Schema)

def Content.announced : Content → List Template
  | templates ts => ts
  | records _ => []

namespace Frame

/-- After the templates seen, the frame is accepted with this content. Any body is acceptable as
records. -/
inductive Carries (r : Registry) (seen : List Template) (f : Frame) : Content → Prop
  | templates {ts : List Template} {filler : Bytes} (zero : f.id = 0)
      (body : f.body = ts.flatMap Template.encode ++ filler) (short : filler.length < 4)
      (whole : ∀ t ∈ ts, t.Whole) (ids : ∀ t ∈ ts, minDataId ≤ t.id) :
      Carries r seen f (.templates ts)
  | records {s : Schema} (id : minDataId ≤ f.id) (known : r.Describes seen f.id s) :
      Carries r seen f (.records s)

/-- After the templates seen, the frame is refused. -/
inductive Refused (r : Registry) (seen : List Template) (f : Frame) : DecodeError → Prop
  /-- The last template claims more fields than the body has. -/
  | truncated {ts : List Template} {id count : UInt16} {tail : Bytes} (zero : f.id = 0)
      (body : f.body = ts.flatMap Template.encode ++
        (Bytes.ofWord16 id ++ Bytes.ofWord16 count ++ tail))
      (whole : ∀ t ∈ ts, t.Whole) (torn : tail.length < 4 * count.toNat) :
      Refused r seen f (.short ⟨.templateFields, 4 * count.toNat, tail.length⟩)
  /-- The first template of a reserved ID is named, wherever it stands. -/
  | reservedTemplate {before after : List Template} {t : Template} {filler : Bytes}
      (zero : f.id = 0)
      (body : f.body = (before ++ t :: after).flatMap Template.encode ++ filler)
      (short : filler.length < 4) (whole : ∀ u ∈ before ++ t :: after, u.Whole)
      (ids : ∀ u ∈ before, minDataId ≤ u.id) (reserved : t.id < minDataId) :
      Refused r seen f (.reservedFlowSet t.id)
  | reservedSet (nonzero : f.id ≠ 0) (reserved : f.id < minDataId) :
      Refused r seen f (.reservedFlowSet f.id)
  | unknown (id : minDataId ≤ f.id) (unknown : r.Unknown seen f.id) :
      Refused r seen f (.unknownTemplate f.id)
  | unsupported (id : minDataId ≤ f.id) (unsupported : r.Unsupported seen f.id) :
      Refused r seen f (.unsupportedTemplate f.id)

end Frame

/-! ## Rows of accepted frames -/

structure Piece where
  frame : Frame
  content : Content

namespace Piece

def encode (x : Piece) : Bytes := x.frame.encode

def announced (x : Piece) : List Template := x.content.announced

/-- What the piece says: the templates, or as many records as the body has room for. -/
inductive Shows : Piece → FlowSet → Prop
  | templates {f : Frame} {ts : List Template} :
      Shows ⟨f, .templates ts⟩ (.templates ⟨f.length, ts⟩)
  | data {f : Frame} {s : Schema} {records : List Flow} {padding : UInt8} {filler : Bytes}
      (body : f.body = records.flatMap Flow.encode ++ filler)
      (layout : ∀ x ∈ records, x.schema = s)
      (count : records.length = f.body.length / s.recordSize)
      (left : padding.toNat = f.body.length % s.recordSize) :
      Shows ⟨f, .records s⟩ (.data ⟨f.id, f.length, records, padding⟩)

end Piece

/-- Each piece is sized and accepted after the templates seen and those of the pieces before it. -/
def Legal (r : Registry) : List Template → List Piece → Prop
  | _, [] => True
  | seen, x :: xs =>
    x.frame.Sized ∧ x.frame.Carries r seen x.content ∧ Legal r (seen ++ x.announced) xs

/-- No frame can be cut off the front of the bytes. -/
inductive Torn : Bytes → DecodeError → Prop
  | header {b : Bytes} (nonempty : b ≠ []) (short : b.length < setHeaderSize) :
      Torn b (.short ⟨.flowSetHeader, setHeaderSize, b.length⟩)
  | length {id length : UInt16} {rest : Bytes}
      (bad : length.toNat < setHeaderSize ∨ setHeaderSize + rest.length < length.toNat) :
      Torn (Bytes.ofWord16 id ++ Bytes.ofWord16 length ++ rest) (.flowSetLength id length)

/-- After the templates seen, the flow set at the front of the bytes is not accepted. -/
inductive Stuck (r : Registry) (seen : List Template) : Bytes → DecodeError → Prop
  | torn {b : Bytes} {e : DecodeError} (torn : Torn b e) : Stuck r seen b e
  | refused {f : Frame} {rest : Bytes} {e : DecodeError} (sized : f.Sized)
      (refused : f.Refused r seen e) : Stuck r seen (f.encode ++ rest) e

/-! ## Packets -/

/-- The bytes are a packet: a header of the right version, and pieces to the end. -/
structure Spelled (r : Registry) (b : Bytes) (h : Header) (pieces : List Piece) : Prop where
  bytes : b = h.encode ++ pieces.flatMap Piece.encode
  version : h.version = Netflow.version
  legal : Legal r [] pieces

/-- The packet says what the pieces show, each kind of set in the order of the wire. -/
structure Packet.ReadOff (p : Packet) (h : Header) (pieces : List Piece) : Prop where
  header : p.header = h
  sets : ∃ sets : List FlowSet, List.Forall₂ Piece.Shows pieces sets ∧
    p.templateSets = sets.filterMap FlowSet.templates? ∧
    p.dataSets = sets.filterMap FlowSet.data?

/-- What reading the bytes comes to, and the templates of the sets that were accepted on the way. -/
inductive Leaves (r : Registry) : Bytes → Except DecodeError Packet → List Template → Prop
  | noHeader {b : Bytes} (short : b.length < Header.size) :
      Leaves r b (.error (.short ⟨.header, Header.size, b.length⟩)) []
  | wrongVersion {h : Header} {body : Bytes} (version : h.version ≠ Netflow.version) :
      Leaves r (h.encode ++ body) (.error (.version h.version)) []
  | whole {b : Bytes} {h : Header} {pieces : List Piece} {p : Packet}
      (spelled : Spelled r b h pieces) (read : p.ReadOff h pieces) :
      Leaves r b (.ok p) (pieces.flatMap Piece.announced)
  | stuck {h : Header} {pieces : List Piece} {rest : Bytes} {e : DecodeError}
      (version : h.version = Netflow.version) (legal : Legal r [] pieces)
      (stuck : Stuck r (pieces.flatMap Piece.announced) rest e) :
      Leaves r (h.encode ++ pieces.flatMap Piece.encode ++ rest) (.error e)
        (pieces.flatMap Piece.announced)

end FlowTraffic.Netflow
