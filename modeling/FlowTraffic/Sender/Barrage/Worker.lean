import FlowTraffic.Metrics
import FlowTraffic.Sender.Barrage.Config
import FlowTraffic.Stats

/-!
# One worker of a barrage

A worker sends its template, then data packets at every tick of its pace, and the template again at
every tick of the refresh, at which it reports as well. It stops at the shutdown signal and at the
first send that fails, and reports once more.
-/

namespace FlowTraffic.Sender.Barrage

open Netflow

/-- Where a worker is. -/
inductive Stage
  | starting
  | running
  | stopped
  deriving DecidableEq, Repr

/-- One exporter with its random words and what it has sent. -/
structure Worker where
  id : UInt32
  exporter : Exporter
  words : Words
  stage : Stage := .starting
  sent : Amounts := {}
  delivered : List Bytes := []
  failure : Option Error := none
  /-- The report that is to go to the collector. -/
  pending : Option WorkerReport := none

/-- A datagram that is made, and what it counts for once it is sent. -/
structure Load where
  datagram : Bytes
  flows : Nat
  cycles : Nat := 0

/-- What a worker waits for. -/
inductive Tick
  | start
  | pace
  | refresh
  | shutdown
  deriving DecidableEq, Repr

/-- Whether the tick can come to a worker at this stage. -/
def Tick.comes : Tick → Stage → Bool
  | .start, .starting | .pace, .running | .refresh, .running | .shutdown, .running => true
  | _, _ => false

namespace Worker

/-- What the worker tells the collector. -/
def report (w : Worker) : WorkerReport := ⟨w.id, w.exporter.sourceId, w.sent⟩

def makeTemplate (w : Worker) (now : Moment) : Except Error Load × Worker :=
  let (packet, exporter) := w.exporter.template now
  (.ok { datagram := packet.encode, flows := 1 }, { w with exporter })

def makeData (w : Worker) (now : Moment) : Except Error Load × Worker :=
  let ((result, exporter, sink), words) := (w.exporter.write now now maxDatagram {}).run w.words
  let w := { w with exporter, words }
  match result with
  | .error e => (.error (.payload e), w)
  | .ok () => (.ok { datagram := sink.taken, flows := exporter.written.getD 0, cycles := 1 }, w)

/-- What a worker makes at a tick, and the worker that has made it. It makes nothing at the shutdown. -/
def make (w : Worker) (now : Moment) : Tick → Option (Except Error Load × Worker)
  | .start | .refresh => some (w.makeTemplate now)
  | .pace => some (w.makeData now)
  | .shutdown => none

def fail (w : Worker) (e : Error) : Worker := { w with stage := .stopped, failure := some e }

/-- Sends what was made, and counts it. The result of the send is a function of the datagram's size. -/
def deliver (w : Worker) (send : Nat → Except TransportError Unit) : Except Error Load → Worker
  | .error e => w.fail e
  | .ok load =>
    match send load.datagram.length with
    | .error e => w.fail (.transport e)
    | .ok () =>
      { w with
        sent := w.sent + ⟨load.flows, load.cycles, load.datagram.length, 1⟩
        delivered := w.delivered ++ [load.datagram] }

/-- The worker after its work at a tick. It reports at a refresh and when it has stopped. -/
def tell (w : Worker) (refreshed : Bool) : Worker :=
  { w with pending := if refreshed || w.stage = .stopped then some w.report else none }

/-- The worker after a tick. No tick comes before its time, or while a report has not gone out. -/
def step (w : Worker) (now : Moment) (send : Nat → Except TransportError Unit) (tick : Tick) :
    Option Worker :=
  if w.pending.isSome || !tick.comes w.stage then none
  else
    match w.make now tick with
    | some (made, w) => some (({ w with stage := .running }.deliver send made).tell (tick == Tick.refresh))
    | none => some ({ w with stage := .stopped }.tell false)

end Worker

end FlowTraffic.Sender.Barrage
