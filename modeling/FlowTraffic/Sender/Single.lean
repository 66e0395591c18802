import FlowTraffic.Log
import FlowTraffic.Sender.Source
import FlowTraffic.Text.HexDump

/-!
# A single run

One exporter sends its template and then a number of data packets, one after the other, to one
collector. The first send that fails ends the run.
-/

namespace FlowTraffic.Sender.Single

open Netflow

def flowsPerPacket : UInt16 := 10

structure Config where
  target : Endpoint
  srcPort : Option UInt16 := none
  count : UInt32 := 1
  hexdump : Bool := false
  traffic : Traffic := {}
  deriving DecidableEq

/-- Why a single run ends early. -/
inductive Error
  | payload (why : TooLarge)
  | transport (why : TransportError)
  deriving DecidableEq, Repr

def Error.message : Error → String
  | payload why => s!"Payload generation failed: {why.message}"
  | transport why => why.message

/-- What a run has sent. -/
structure Report where
  source : UInt32
  packets : Nat := 0
  bytes : Nat := 0
  deriving DecidableEq, Repr

/-- A run on its way. -/
structure Progress where
  exporter : Exporter
  report : Report
  delivered : List Packet := []
  log : List LogLine := []

/-- Sends one packet; the number of packets before it is the number of the send. -/
def send (net : Network) (config : Config) (kind : String) (packet : Packet) (p : Progress) :
    Except Error Unit × Progress :=
  let bytes := packet.encode
  let log := p.log ++ [.info s!"Sending {kind} flow, {packet.sizes.text}"] ++
    (if config.hexdump then [.info ("\n" ++ Text.HexDump.render bytes)] else [])
  match Transport.send net p.report.packets config.target bytes.length with
  | .error e => (.error (.transport e), { p with log })
  | .ok n =>
    (.ok (), { p with
      log := log ++ [.info s!"Wrote {n} bytes to {config.target.text}"]
      delivered := p.delivered ++ [packet]
      report := { p.report with packets := p.report.packets + 1, bytes := p.report.bytes + n } })

def sendData (net : Network) (clock : Clock) (config : Config) :
    Nat → Progress → Draw (Except Error Unit × Progress)
  | 0, p => return (.ok (), p)
  | n + 1, p => do
    let k := p.report.packets
    match ← p.exporter.data (clock.drawn k) (clock.sent k) flowsPerPacket with
    | (.error e, exporter) => return (.error (.payload e), { p with exporter })
    | (.ok packet, exporter) =>
      match send net config "data" packet { p with exporter } with
      | (.error e, p) => return (.error e, p)
      | (.ok (), p) => sendData net clock config n p

def sendAll (net : Network) (clock : Clock) (config : Config) (p : Progress) :
    Draw (Except Error Unit × Progress) :=
  let (template, exporter) := p.exporter.template (clock.sent 0)
  match send net config "template" template { p with exporter } with
  | (.error e, p) => return (.error e, p)
  | (.ok (), p) => sendData net clock config config.count.toNat p

/-- What a run comes to: its report, or why it failed; and how far it got, if it got to send. -/
structure Outcome where
  result : Except Error Report
  progress : Option Progress := none

/-- Draws a source ID, binds the socket and sends. -/
def run (net : Network) (clock : Clock) (config : Config) : Draw Outcome := do
  let source ← drawSource
  match Exporter.new (config.traffic.profile flowsPerPacket) source with
  | .error e => return { result := .error (.payload e) }
  | .ok exporter =>
    match ← Transport.bindSender net config.target config.srcPort with
    | .error e => return { result := .error (.transport e) }
    | .ok _ =>
      let (result, p) ← sendAll net clock config { exporter, report := { source } }
      return { result := result.map fun _ => p.report, progress := some p }

end FlowTraffic.Sender.Single
