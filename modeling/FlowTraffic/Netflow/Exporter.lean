import FlowTraffic.Bytes.Sink
import FlowTraffic.Netflow.Generate
import FlowTraffic.Netflow.Packet

/-!
# Exporters

An exporter plays one source of flows: it draws records of one schema, and numbers its packets. The
flow count of a packet is the number of its templates and records together.
-/

namespace FlowTraffic.Netflow

/-! ## Time -/

/-- A reading of the clock: nanoseconds since the exporter's start, which may lie ahead, and
seconds since 1970. -/
structure Moment where
  elapsed : Int := 0
  unixSecs : UInt32 := 0
  deriving DecidableEq, Repr

/-- The uptime at an exporter's start, in milliseconds. -/
def startUptime : UInt32 := 1000

/-- Milliseconds of uptime, modulo 2³². Before the start no time has passed. -/
def Moment.uptime (m : Moment) : UInt32 :=
  UInt32.ofNat (m.elapsed.toNat / 1000000) + startUptime

/-! ## Numbering -/

/-- The number after this one. Zero is never given out. -/
def nextSequence (n : UInt32) : UInt32 := if n = 0xFFFFFFFF then 1 else n + 1

/-! ## Profiles -/

def maxDatagram : Nat := 65507

/-- The size of a packet that holds nothing but so many records. -/
def dataPacketSize (schema : Schema) (count : Nat) : Nat :=
  let unpadded := setHeaderSize + count * schema.recordSize
  Header.size + unpadded + paddingFor unpadded

structure Profile where
  schema : Schema
  flowsPerPacket : UInt16
  src : Cidr
  dst : Cidr
  deriving DecidableEq

/-- The profile of traffic with so many records to a packet. -/
def Traffic.profile (t : Traffic) (flowsPerPacket : UInt16) : Profile :=
  ⟨t.schema, flowsPerPacket, t.src, t.dst⟩

namespace Profile

/-- A profile needs at least one record to a packet, and the packet must fit a datagram. -/
def check (p : Profile) : Except TooLarge Unit :=
  let needed := dataPacketSize p.schema (max p.flowsPerPacket.toNat 1)
  if p.flowsPerPacket = 0 ∨ maxDatagram < needed then .error ⟨needed, maxDatagram⟩ else .ok ()

end Profile

/-! ## Exporters -/

/-- One source of flows. -/
structure Exporter where
  profile : Profile
  checked : profile.check = .ok ()
  sourceId : UInt32
  /-- The number of the latest packet, 0 before the first. -/
  sequence : UInt32 := 0
  /-- How many records the latest `write` is known to have written. -/
  written : Option Nat := none

/-- Why a packet was not written. -/
inductive WriteError
  | tooLarge (e : TooLarge)
  | fault (f : Fault)
  deriving DecidableEq, Repr

def WriteError.message : WriteError → String
  | tooLarge e => e.message
  | fault f => s!"IO operation failed: {f.message}"

namespace Exporter

/-- A fresh exporter, if its profile passes the check. -/
def new (profile : Profile) (sourceId : UInt32) : Except TooLarge Exporter :=
  match h : profile.check with
  | .ok () => .ok { profile, checked := h, sourceId }
  | .error e => .error e

/-- Numbers a packet: its header, and the exporter afterwards. -/
def stamp (e : Exporter) (now : Moment) (flowCount : UInt16) : Header × Exporter :=
  let sequence := nextSequence e.sequence
  ({ flowCount, sysUptime := now.uptime, unixSecs := now.unixSecs, sequence,
     sourceId := e.sourceId }, { e with sequence })

def templateSet (e : Exporter) : TemplateSet := .ofTemplates [e.profile.schema.template]

/-- Draws records and puts them into a set. -/
def dataSet (e : Exporter) (now : Moment) (count : UInt16) : Draw (Except TooLarge DataSet) := do
  let p := e.profile
  let records ← Draw.many count.toNat (p.schema.generate p.src p.dst now.uptime)
  return DataSet.ofRecords p.schema.templateId records

/-- A packet with the template alone. -/
def template (e : Exporter) (now : Moment) : Packet × Exporter :=
  let (header, e') := e.stamp now 1
  (⟨header, [e.templateSet], []⟩, e')

/-- A packet of records alone. They are drawn at one moment and sent at another. Records that do
not fit a set are drawn for nothing, and no number is used. -/
def data (e : Exporter) (drawnAt sentAt : Moment) (count : UInt16) :
    Draw (Except TooLarge Packet × Exporter) := do
  match ← e.dataSet drawnAt count with
  | .error err => return (.error err, e)
  | .ok set =>
    let (header, e) := e.stamp sentAt count
    return (.ok ⟨header, [], [set]⟩, e)

/-- A packet of the template and records. -/
def combined (e : Exporter) (drawnAt sentAt : Moment) (count : UInt16) :
    Draw (Except TooLarge Packet × Exporter) := do
  if count = 0xFFFF then return (.error ⟨count.toNat + 1, 65535⟩, e)
  match ← e.dataSet drawnAt count with
  | .error err => return (.error err, e)
  | .ok set =>
    let (header, e') := e.stamp sentAt (count + 1)
    return (.ok ⟨header, [e.templateSet], [set]⟩, e')

/-- How many records a packet of `write` holds: what the profile asks for, or what surely fits the
limit whatever the padding. -/
def writeCount (e : Exporter) (maxBytes : Nat) : Nat :=
  min e.profile.flowsPerPacket.toNat
    ((maxBytes - (Header.size + setHeaderSize + 3)) / e.profile.schema.recordSize)

/-- Writes one packet of records into a sink, within a limit of bytes. -/
def write (e : Exporter) (drawnAt sentAt : Moment) (maxBytes : Nat) (sink : Sink) :
    Draw (Except WriteError Unit × Exporter × Sink) := do
  let count := e.writeCount maxBytes
  if count = 0 then
    return (.error (.tooLarge ⟨dataPacketSize e.profile.schema 1, maxBytes⟩),
      { e with written := none }, sink)
  match ← e.data drawnAt sentAt (UInt16.ofNat count) with
  | (.error err, e) => return (.error (.tooLarge err), e, sink)
  | (.ok packet, e) =>
    match sink.writeAll packet.sections with
    | (.error f, sink) => return (.error (.fault f), e, sink)
    | (.ok (), sink) => return (.ok (), { e with written := some count }, sink)

end Exporter

end FlowTraffic.Netflow
