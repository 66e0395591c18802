import FlowTraffic.Proofs.Bytes.Writers
import FlowTraffic.Proofs.Netflow.Building

/-!
# A packet written field by field

A packet goes out in many small writes, and a writer may give out inside any of them. What it has taken by
then are the first bytes of the packet.
-/

namespace FlowTraffic.Netflow

open Bytes

theorem flatten_flatMap_of_eq {α : Type} {f : α → List Bytes} {g : α → Bytes}
    (h : ∀ a, (f a).flatten = g a) (as : List α) : (as.flatMap f).flatten = as.flatMap g := by
  induction as with
  | nil => rfl
  | cons a as ih => rw [List.flatMap_cons, List.flatten_append, h, ih, List.flatMap_cons]

/-! ## The single writes -/

def Header.writes (h : Header) : List Bytes :=
  [ofWord16 h.version, ofWord16 h.flowCount, ofWord32 h.sysUptime, ofWord32 h.unixSecs,
    ofWord32 h.sequence, ofWord32 h.sourceId]

theorem Header.flatten_writes (h : Header) : h.writes.flatten = h.encode := by
  simp [writes, encode]

def Field.writes (f : Field) : List Bytes := [ofWord16 f.code, ofWord16 f.length]

theorem Field.flatten_writes (f : Field) : f.writes.flatten = f.encode := by
  simp [writes, encode]

def Template.writes (t : Template) : List Bytes :=
  [ofWord16 t.id, ofWord16 t.fieldCount] ++ t.fields.flatMap Field.writes

theorem Template.flatten_writes (t : Template) : t.writes.flatten = t.encode := by
  unfold writes encode
  rw [List.flatten_append, flatten_flatMap_of_eq Field.flatten_writes]
  simp

def TemplateSet.writes (s : TemplateSet) : List Bytes :=
  [ofWord16 0, ofWord16 s.length] ++ s.templates.flatMap Template.writes

theorem TemplateSet.flatten_writes (s : TemplateSet) : s.writes.flatten = s.encode := by
  unfold writes encode
  rw [List.flatten_append, flatten_flatMap_of_eq Template.flatten_writes]
  simp

/-- Single bytes that stand side by side go out together. -/
def Flow.writes : Flow → List Bytes
  | https f =>
    [ofWord32 f.inBytes, ofWord32 f.outBytes, ofWord32 f.inPackets, ofWord32 f.outPackets,
      encodeAddr f.srcAddr, encodeAddr f.dstAddr, ofWord16 f.srcPort, ofWord16 f.dstPort,
      [f.protocol, f.tcpFlags], ofWord32 f.firstSwitched, ofWord32 f.lastSwitched,
      [f.engineType, f.engineId]]
  | generic f =>
    [ofWord32 f.inBytes, ofWord32 f.inPackets, [f.protocol, f.srcTos, f.tcpFlags],
      ofWord16 f.srcPort, encodeAddr f.srcAddr, [f.srcMask], ofWord16 f.inputInterface,
      ofWord16 f.dstPort, encodeAddr f.dstAddr, [f.dstMask], ofWord16 f.outputInterface,
      ofWord32 f.firstSwitched, ofWord32 f.lastSwitched]

theorem Flow.flatten_writes (x : Flow) : x.writes.flatten = x.encode := by
  cases x <;> simp [writes, encode, ofWord8]

/-- The padding goes out byte by byte. -/
def DataSet.writes (s : DataSet) : List Bytes :=
  [ofWord16 s.id, ofWord16 s.length] ++ s.records.flatMap Flow.writes ++
    List.replicate s.padding.toNat [0]

theorem DataSet.flatten_writes (s : DataSet) : s.writes.flatten = s.encode := by
  have zeros : (List.replicate s.padding.toNat [(0 : UInt8)]).flatten =
      List.replicate s.padding.toNat 0 := by
    rw [List.flatten_replicate_singleton]
  unfold writes encode
  rw [List.flatten_append, List.flatten_append, flatten_flatMap_of_eq Flow.flatten_writes, zeros]
  simp

namespace Packet

def writes (p : Packet) : List Bytes :=
  p.header.writes ++ p.templateSets.flatMap TemplateSet.writes ++ p.dataSets.flatMap DataSet.writes

theorem flatten_writes (p : Packet) : p.writes.flatten = p.encode := by
  unfold writes
  rw [List.flatten_append, List.flatten_append, Header.flatten_writes,
    flatten_flatMap_of_eq TemplateSet.flatten_writes, flatten_flatMap_of_eq DataSet.flatten_writes,
    encode_eq, List.append_assoc]

/-! ## A writer that gives out -/

theorem sink_write_encode (p : Packet) (w : Writer) :
    w.sink.write p.encode = ((w.writeAll p.writes).1, (w.writeAll p.writes).2.sink) := by
  rw [← w.sink_writeAll, Sink.writeAll_eq_write, flatten_writes]

end Packet

namespace Exporter

variable (e : Exporter) (drawnAt sentAt : Moment) (maxBytes : Nat) (words : Words) (w : Writer)

theorem write_of_packet {p : Packet} (built : e.packet? drawnAt sentAt maxBytes words = some p) :
    ∃ e', (e.write drawnAt sentAt maxBytes w.sink words).1 =
      ((w.writeAll p.writes).1.mapError .fault, e', (w.writeAll p.writes).2.sink) := by
  have written := p.sink_write_encode w
  have writes := e.write_writes drawnAt sentAt maxBytes w.sink words
  rw [built] at writes
  generalize (e.write drawnAt sentAt maxBytes w.sink words).1 = outcome at writes ⊢
  cases writes with
  | @done _ _ sink' room fills taken =>
    obtain ⟨result, left⟩ := Prod.mk.inj (written.symm.trans taken)
    rw [result, left]
    exact ⟨_, rfl⟩
  | @cutShort _ _ f sink' room fills taken =>
    obtain ⟨result, left⟩ := Prod.mk.inj (written.symm.trans taken)
    rw [result, left]
    exact ⟨_, rfl⟩

theorem write_of_no_packet (none : e.packet? drawnAt sentAt maxBytes words = none) :
    (∃ large, (e.write drawnAt sentAt maxBytes w.sink words).1.1 = .error (.tooLarge large)) ∧
      (e.write drawnAt sentAt maxBytes w.sink words).1.2.2 = w.sink := by
  have writes := e.write_writes drawnAt sentAt maxBytes w.sink words
  rw [none] at writes
  generalize (e.write drawnAt sentAt maxBytes w.sink words).1 = outcome at writes ⊢
  cases writes with
  | noRoom full => exact ⟨⟨_, rfl⟩, rfl⟩

end Exporter

/-- **A writer that gives out has the first bytes of the packet.** Wherever that is, in the middle of a field
or of the padding, and however few bytes the writer takes at a call: the writes succeed if and only if it
has room for the whole packet, and it has taken as many of the first bytes as there is room for. What an
exporter builds is written in this way, and where it builds nothing nothing is taken. -/
theorem Packet.first_bytes_written (w : Writer) :
    (∀ p : Packet, ({} : Sink).writeAll p.writes = (.ok (), { taken := p.encode }) ∧
      (w.writeAll p.writes).1 = (if p.encode.length ≤ w.room then .ok () else .error .shortWrite) ∧
      (w.writeAll p.writes).2.taken = w.taken ++ p.encode.take (min w.room p.encode.length)) ∧
    ∀ (e : Exporter) (drawnAt sentAt : Moment) (maxBytes : Nat) (words : Words),
      let outcome := (e.write drawnAt sentAt maxBytes w.sink words).1
      (∀ p, e.packet? drawnAt sentAt maxBytes words = some p →
        outcome.1 = (if p.encode.length ≤ w.room then .ok () else .error (.fault .shortWrite)) ∧
        outcome.2.2 = (w.writeAll p.writes).2.sink ∧
        outcome.2.2.taken = w.taken ++ p.encode.take (min w.room p.encode.length)) ∧
      (e.packet? drawnAt sentAt maxBytes words = none →
        (∃ large, outcome.1 = .error (.tooLarge large)) ∧ outcome.2.2 = w.sink) := by
  have pieces (p : Packet) :
      (w.writeAll p.writes).1 = (if p.encode.length ≤ w.room then .ok () else .error .shortWrite) ∧
        (w.writeAll p.writes).2.taken = w.taken ++ p.encode.take (min w.room p.encode.length) := by
    obtain ⟨result, left⟩ := w.writeAll_eq p.writes
    rw [p.flatten_writes] at result left
    refine ⟨result, ?_⟩
    rw [← List.take_eq_take_min]
    exact congrArg Sink.taken left
  constructor
  · intro p
    refine ⟨?_, pieces p⟩
    rw [Sink.writeAll_eq_write, p.flatten_writes]
    rfl
  · intro e drawnAt sentAt maxBytes words outcome
    refine ⟨?_, e.write_of_no_packet drawnAt sentAt maxBytes words w⟩
    intro p built
    obtain ⟨result, left⟩ := pieces p
    obtain ⟨e', written⟩ := e.write_of_packet drawnAt sentAt maxBytes words w built
    have written : outcome = _ := written
    rw [written]
    refine ⟨?_, rfl, left⟩
    show (w.writeAll p.writes).1.mapError WriteError.fault = _
    rw [result]
    split <;> rfl

/-- A packet of one record and three bytes of padding. -/
def padded : Exporter := ⟨⟨.generic, 1, .private10, .private10⟩, rfl, 618, 0, none⟩

/-- A writer that takes a byte at a call, and gives out inside the padding. -/
def stingy : Writer := { room := 62, portion := fun _ => 0 }

theorem Packet.first_bytes_written_stingy :
    ∃ p, padded.packet? {} {} 100 ⟨.ofNat, 0⟩ = some p ∧ p.encode.length = 64 ∧
      (stingy.writeAll p.writes).1 = .error .shortWrite ∧
      (padded.write {} {} 100 stingy.sink ⟨.ofNat, 0⟩).1.1 = .error (.fault .shortWrite) ∧
      (padded.write {} {} 100 stingy.sink ⟨.ofNat, 0⟩).1.2.2.taken = p.encode.take 62 := by
  have length : (padded.packet? {} {} 100 ⟨.ofNat, 0⟩).map (·.encode.length) = some 64 := by
    decide +kernel
  obtain ⟨p, built, size⟩ := Option.map_eq_some_iff.1 length
  obtain ⟨pieces, exported⟩ := Packet.first_bytes_written stingy
  obtain ⟨-, cut, -⟩ := pieces p
  obtain ⟨result, -, taken⟩ := (exported padded {} {} 100 ⟨.ofNat, 0⟩).1 p built
  rw [size] at cut result taken
  exact ⟨p, built, size, cut, result, taken⟩

end FlowTraffic.Netflow
