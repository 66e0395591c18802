import FlowTraffic.Metrics
import FlowTraffic.Queue
import FlowTraffic.Sender.Replay.Config
import FlowTraffic.Sender.Replay.Reader
import FlowTraffic.Stats

/-!
# A replay as a whole

The reader fills a bounded queue and the workers empty it. A worker takes a payload and sends it; it
stops at the first send that fails, at the signal, and once the queue is drained. The queue closes
when the last worker has stopped.
-/

namespace FlowTraffic.Sender.Replay

/-! ## Workers -/

inductive WorkerStage
  | waiting
  | holding (payload : Bytes)
  | stopped
  deriving DecidableEq, Repr

/-- One worker, with the payloads that it has taken off the queue and what it has sent. -/
structure Worker where
  id : UInt32
  stage : WorkerStage := .waiting
  taken : List Bytes := []
  sent : Amounts := {}
  failure : Option TransportError := none
  deriving DecidableEq

/-- What a worker reports at its end. Replayed packets keep their own source IDs. -/
def Worker.report (w : Worker) : WorkerReport := { worker := w.id, sent := w.sent }

/-! ## Moves -/

def queueCapacity : Nat := 1024

/-- The state of a replay. Sends are numbered in the order they happen. -/
structure Run where
  reader : Reader
  queue : Queue Bytes := { capacity := queueCapacity }
  workers : List Worker
  signalled : Bool := false
  /-- The payloads that left the queue, in their order. -/
  taken : List Bytes := []
  /-- The datagrams that were sent, in their order. -/
  delivered : List Bytes := []
  reports : List WorkerReport := []
  metrics : Metrics := .empty
  sends : Nat := 0
  /-- Why the store could not be read. -/
  trouble : Option StoreError := none

inductive Move
  | signal
  | look
  | offer
  | take (worker : Nat)
  | send (worker : Nat) (unixSecs : UInt32)
  | quit (worker : Nat)
  | finish (worker : Nat)
  deriving DecidableEq, Repr

def labels : List (String × String) := Metrics.component "generator" "replay"

namespace Run

/-- The run with a worker that has stopped. -/
def stop (r : Run) (i : Nat) (w : Worker) : Run :=
  let workers := r.workers.set i { w with stage := .stopped }
  let queue := if workers.all (·.stage = .stopped) then r.queue.close else r.queue
  { r with workers, queue, reports := r.reports ++ [w.report] }

/-- Sends a datagram for a worker. -/
def attempt (net : Network) (config : Config) (r : Run) (i : Nat) (w : Worker) (datagram : Bytes) :
    Run :=
  let n := r.sends
  let r := { r with sends := n + 1 }
  match Transport.send net n config.target datagram.length with
  | .ok size =>
    let sent := w.sent + { cycles := 1, bytes := size, packets := 1 }
    { r with
      workers := r.workers.set i { w with sent, stage := .waiting }
      delivered := r.delivered ++ [datagram]
      metrics := r.metrics.sent labels size }
  | .error e =>
    { r with metrics := r.metrics.failed (labels ++ [("error", e.message)]) }.stop i
      { w with failure := some e }

/-- One move, if it can happen. -/
def step (net : Network) (config : Config) (r : Run) : Move → Option Run
  | .signal => some { r with signalled := true }
  | .look =>
    if r.reader.stage = .looking then some { r with reader := r.reader.look r.signalled } else none
  | .offer => do
    let payload ← r.reader.offer?
    if r.queue.isOpen then
      return { r with queue := ← r.queue.push? payload, reader := r.reader.accepted }
    else return { r with reader := r.reader.stop }
  | .take i => do
    let w ← r.workers[i]?
    if w.stage ≠ .waiting then none
    let (payload, queue) ← r.queue.pop?
    return { r with
      queue
      taken := r.taken ++ [payload]
      workers := r.workers.set i
        { w with stage := .holding payload, taken := w.taken ++ [payload] } }
  | .send i unixSecs => do
    let w ← r.workers[i]?
    match w.stage with
    | .holding payload => return r.attempt net config i w (config.datagram unixSecs payload)
    | _ => none
  | .quit i => do
    let w ← r.workers[i]?
    if w.stage = .waiting && r.signalled then return r.stop i w else none
  | .finish i => do
    let w ← r.workers[i]?
    if w.stage = .waiting && r.queue.isEmpty && r.reader.stage = .done then return r.stop i w
    else none

/-- Moves one after the other; those that cannot happen are left out. -/
def steps (net : Network) (config : Config) (r : Run) (moves : List Move) : Run :=
  moves.foldl (fun r m => (r.step net config m).getD r) r

def isFinished (r : Run) : Bool :=
  r.reader.stage = .done && r.workers.all (·.stage = .stopped)

def result (r : Run) : Except Error Snapshot :=
  match r.trouble with
  | some e => .error (.store e)
  | none => .ok (.ofReports r.reports)

end Run

/-! ## From start to end -/

def bindSockets (net : Network) (target : Endpoint) : Nat → Draw (Except TransportError Unit)
  | 0 => return .ok ()
  | n + 1 => do
    match ← Transport.bindSender net target none with
    | .ok _ => bindSockets net target n
    | .error e => return .error e

/-- The replay before its first move. A store that cannot be read gives the reader nothing. -/
def Run.start (config : Config) (contents : Except StoreError Table) : Run where
  reader :=
    match contents with
    | .ok table => .start table.values config.looping
    | .error _ => (Reader.start [] config.looping).stop
  workers := (List.range config.workers.toNat).map fun i => { id := UInt32.ofNat (i + 1) }
  trouble :=
    match contents with
    | .ok _ => none
    | .error e => some e

/-- Gets a replay ready: the configuration, the sockets, then the watchers. -/
def prepare {σ : Type} [Store σ] (net : Network) (shutdown : Shutdown.Watcher) (config : Config)
    (store : σ) : Draw (Except Error Run) := do
  if let .error e := config.check then return .error e
  if let .error e ← bindSockets net config.target config.workers.toNat then
    return .error (.transport e)
  return do
    let _ ← shutdown.register.mapError .registration
    return Run.start config (Store.contents store)

/-- The moves in which the reader offers one payload and every worker sends one if there is one. -/
def round (workers : Nat) (unixSecs : UInt32) : List Move :=
  [.look, .offer] ++ (List.range workers).flatMap fun i =>
    [.take i, .send i unixSecs, .quit i, .finish i]

/-- So many rounds, and one more after the signal. -/
def rounds (workers : Nat) (unixSecs : UInt32) (n : Nat) : List Move :=
  (List.replicate n (round workers unixSecs)).flatten ++ .signal :: round workers unixSecs

end FlowTraffic.Sender.Replay
