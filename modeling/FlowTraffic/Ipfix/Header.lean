import FlowTraffic.Bytes.Fault

/-!
# IPFIX message headers

A header is 16 bytes. Reading one checks nothing but that the bytes are there; `isValid` tells
whether its values are those of an IPFIX message.
-/

namespace FlowTraffic.Ipfix

def version : UInt16 := 10

structure Header where
  version : UInt16 := 0
  length : UInt16 := 0
  exportTime : UInt32 := 0
  sequence : UInt32 := 0
  domainId : UInt32 := 0
  deriving DecidableEq, Repr

namespace Header

def size : Nat := 16

/-- Whether the version is that of IPFIX and the length covers at least the header. -/
def isValid (h : Header) : Bool := h.version == Ipfix.version && size ≤ h.length.toNat

def encode (h : Header) : Bytes :=
  Bytes.ofWord16 h.version ++ Bytes.ofWord16 h.length ++ Bytes.ofWord32 h.exportTime ++
    Bytes.ofWord32 h.sequence ++ Bytes.ofWord32 h.domainId

/-- The fields of a header, read off bytes that hold one. -/
def fields : Bytes.Reader Header := do
  return {
    version := ← Bytes.word16, length := ← Bytes.word16, exportTime := ← Bytes.word32
    sequence := ← Bytes.word32, domainId := ← Bytes.word32 }

/-- The header in front and the bytes after it. -/
def decode (b : Bytes) : Except Shortage (Header × Bytes) :=
  if b.length < size then .error ⟨.ipfixHeader, size, b.length⟩ else .ok (fields.run b)

end Header

end FlowTraffic.Ipfix
