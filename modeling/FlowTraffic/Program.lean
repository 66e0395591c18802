import FlowTraffic.CommandLine.Command
import FlowTraffic.Host.Disk
import FlowTraffic.Receiver.Proxy
import FlowTraffic.Receiver.Record
import FlowTraffic.Sender.Barrage.Run
import FlowTraffic.Sender.Replay.Run
import FlowTraffic.Sender.Single
import FlowTraffic.TargetFile

/-!
# The program

What each command does on a machine, from the arguments to the last line of the log.
-/

namespace FlowTraffic.Program

open CommandLine Receiver Sender

/-! ## What a command meets and what it leaves -/

/-- The machine that a command runs on. -/
structure Machine where
  network : Network
  lookup : String → Except Fault (List IpAddr) := Transport.noNames
  disk : Disk := {}

/-- What happens while a command runs: the datagrams that arrive, and the time in microseconds
until the shutdown signal. -/
structure Course where
  arriving : List Bytes := []
  time : Nat := 0
  unixSecs : UInt32 := 0

/-- Why a command fails. -/
inductive Error
  | single (why : Single.Error)
  | barrage (why : Barrage.Error)
  | replay (why : Replay.Error)
  | record (why : Record.Error)
  | proxy (why : Proxy.Error)
  | targetFile (why : TargetFile.Error)
  | store (why : StoreError)
  | transport (why : TransportError)
  /-- No free source ID came up in all the draws that are made for one worker. -/
  | noFreeSource
  deriving DecidableEq, Repr

/-- What is said of every failed sender. -/
def senderText (why : String) : String := "Flowgre generator returned an error: " ++ why

def receiverText (why : String) : String := "Flowgre ingest returned an error: " ++ why

def Error.message : Error → String
  | single why => senderText why.message
  | barrage why => senderText why.message
  | replay why => senderText why.message
  | record why => receiverText why.message
  | proxy why => receiverText why.message
  | targetFile why => "Failed to load config file: " ++ why.message
  | store why => "Failed to open store: " ++ why.message
  | transport why => why.message
  | noFreeSource => senderText "no source ID is free"

/-- What a command leaves behind, also when it fails. -/
structure Trace where
  log : List LogLine := []
  /-- The datagrams sent, with where they went. -/
  sent : List (Endpoint × Bytes) := []
  disk : Disk

/-- Work that leaves a trace. -/
abbrev Work := ExceptT Error (StateT Trace Draw)

def tell (lines : List LogLine) : Work Unit := modify fun t => { t with log := t.log ++ lines }

def noteSent (sent : List (Endpoint × Bytes)) : Work Unit :=
  modify fun t => { t with sent := t.sent ++ sent }

/-- Goes on with a result, or fails for its reason. -/
def orFail {ε α : Type} (cause : ε → Error) (result : Except ε α) : Work α :=
  liftM (result.mapError cause)

/-- Opens the store in a directory of the disk. -/
def openStore (path : String) : Work FileStore := do
  let (result, disk) := (← get).disk.openStore path
  modify fun t => { t with disk }
  orFail .store result

def closeStore (s : FileStore) : Work Unit := modify fun t => { t with disk := t.disk.closeStore s }

def draw {α : Type} (d : Draw α) : Work α := liftM (m := Draw) d

/-! ## Commands -/

def resolve (m : Machine) (s : Server) : Work Endpoint :=
  orFail .transport (Transport.resolve m.lookup s.host s.port)

def runSingle (m : Machine) (a : SingleArgs) : Work Unit := do
  let target ← resolve m a.server
  let outcome ← draw <| Single.run m.network {} {
    target
    srcPort := if a.srcPort = 0 then none else some a.srcPort
    count := a.count
    hexdump := a.hexdump
    traffic := a.traffic }
  if let some p := outcome.progress then
    tell p.log
    noteSent (p.delivered.map fun packet => (target, packet.encode))
  let report ← orFail .single outcome.result
  tell [.info s!"Sent {report.packets} packets, {report.bytes} bytes, as Source ID {report.source}"]

/-- What a barrage is to do. A target file stands in for all arguments but the schema. -/
def barrageConfig (m : Machine) (a : BarrageArgs) : Work Barrage.Config := do
  match a.config with
  | some path =>
    tell [.info s!"Reading config file {Text.quoted path}, ignoring any other given arguments"]
    let (name, t) ← orFail .targetFile (TargetFile.load m.disk.read path)
    tell [.info (s!"target: {name} ip: {t.host} port: {t.port} workers: {t.workers} " ++
      s!"delay: {t.delayMillis}")]
    orFail (.targetFile ∘ .transport) (t.barrage m.lookup a.traffic.schema)
  | none => return {
      target := ← resolve m a.server
      workers := a.workers
      delay := 1000 * a.delayMillis
      traffic := a.traffic
      dashboard := if a.web then some { ip := a.webIp, port := a.webPort } else none }

/-- How often a source ID is drawn for one worker. -/
def drawLimit : Nat := 1048576

def runBarrage (m : Machine) (course : Course) (a : BarrageArgs) : Work Unit := do
  let config ← barrageConfig m a
  match ← draw (Barrage.prepare m.network {} config drawLimit .seeded) with
  | none => throw .noFreeSource
  | some run =>
    let run ← orFail .barrage run
    let run := run.steps m.network config
      (Barrage.lockstep config.workers.toNat config.delay course.time)
    noteSent (run.workers.flatMap fun w => w.delivered.map fun b => (config.target, b))
    tell [.info run.snapshot.totalsLine]

def runRecord (m : Machine) (course : Course) (a : RecordArgs) : Work Unit := do
  let store ← openStore a.directory
  let _ ← orFail .record (Record.bind m.network a.listener.endpoint)
  tell [.info s!"Recording to {a.directory}"]
  let run ← orFail .record (Record.prepare {} store)
  let run := run.steps (course.arriving.flatMap Record.datagramMoves ++ Record.closingMoves)
  tell run.intake.validator.log
  closeStore run.persister.store
  let recording ← orFail .record run.result
  tell [.info s!"{recording.counts.text} Persisted: {recording.persisted}"]

def runReplay (m : Machine) (course : Course) (a : ReplayArgs) : Work Unit := do
  let store ← openStore a.directory
  tell [.info s!"Reading from {a.directory}"]
  let config : Replay.Config := {
    target := ← resolve m a.server
    workers := a.workers
    delay := 1000 * a.delayMillis
    looping := a.looping
    updateTimestamps := a.updateTimestamps }
  let run ← orFail .replay (← draw (Replay.prepare m.network {} config store))
  let run := run.steps m.network config (Replay.rounds a.workers.toNat course.unixSecs
    (Store.size store + a.workers.toNat + 2))
  noteSent (run.delivered.map fun b => (config.target, b))
  let snapshot ← orFail .replay run.result
  tell [.info (s!"replay finished, {run.reader.count} payloads read and " ++
    s!"{snapshot.totals.packets} packets sent")]

def runProxy (m : Machine) (course : Course) (a : ProxyArgs) : Work Unit := do
  let config : Proxy.Config := { listen := a.listener.endpoint, targets := a.targets }
  let run ← orFail .proxy (← draw (Proxy.bind m.network config))
  let run ← orFail .proxy (Proxy.prepare {} run)
  let n := a.targets.length
  let run := run.steps m.network
    (course.arriving.flatMap (Proxy.datagramMoves n 0) ++ Proxy.closingMoves n)
  tell run.intake.validator.log
  noteSent (run.outlets.flatMap fun o => o.delivered.map fun b => (o.target, b))
  tell [.info s!"Proxy finished, forwarded {run.summary.forwarded}"]

def versionText : String := "flowgre 0.1.0\n"

def runCommand (m : Machine) (course : Course) : CommandLine.Command → Work Unit
  | .single a => runSingle m a
  | .barrage a => runBarrage m course a
  | .record a => runRecord m course a
  | .replay a => runReplay m course a
  | .proxy a => runProxy m course a
  | .version => return ()

/-- Runs a command: how it went, and what it left. -/
def run (m : Machine) (course : Course) (c : CommandLine.Command) :
    Draw (Except Error Unit × Trace) :=
  (runCommand m course c).run.run { disk := m.disk }

end FlowTraffic.Program
