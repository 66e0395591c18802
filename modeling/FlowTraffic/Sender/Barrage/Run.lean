import FlowTraffic.Queue
import FlowTraffic.Sender.Barrage.Worker

/-!
# A barrage as a whole

The workers run side by side; their reports go through one bounded queue to the collector. `Run` is
the state between two moves, and a move is a tick of one worker, its report going into the queue, or the
collector taking a report.
-/

namespace FlowTraffic.Sender.Barrage

open Netflow

/-! ## Getting ready -/

/-- Draws a source ID that is not taken, within so many draws. -/
def drawFresh (taken : List UInt32) : Nat → Draw (Option UInt32)
  | 0 => return none
  | fuel + 1 => do
    let source ← drawSource
    if source ∈ taken then drawFresh taken fuel else return some source

/-- Draws the source IDs of so many workers, none of them taken and no two the same, and with every ID
the row of words that is forked off for its worker. -/
def drawSources (fork : Draw Words) (fuel : Nat) :
    Nat → List UInt32 → Draw (Option (List (UInt32 × Words)))
  | 0, _ => return some []
  | n + 1, taken => do
    match ← drawFresh taken fuel with
    | none => return none
    | some source =>
      let words ← fork
      match ← drawSources fork fuel n (source :: taken) with
      | none => return none
      | some later => return some ((source, words) :: later)

/-- A worker with its socket bound. -/
def recruit (net : Network) (config : Config) (id : Nat) (source : UInt32) (words : Words) :
    Except Error Worker := do
  let (bound, words) := (Transport.bindSender net config.target none).run words
  match bound with
  | .error e => throw (.transport e)
  | .ok _ =>
    match Exporter.new config.profile source with
    | .error e => throw (.payload (.tooLarge e))
    | .ok exporter => return { id := UInt32.ofNat id, exporter, words }

def recruitAll (net : Network) (config : Config) : Nat → List (UInt32 × Words) →
    Except Error (List Worker)
  | _, [] => .ok []
  | id, (source, words) :: rest => do
    let w ← recruit net config id source words
    return w :: (← recruitAll net config (id + 1) rest)

/-! ## Running -/

/-- The state of a barrage. Sends are numbered in the order they happen. -/
structure Run where
  workers : List Worker
  reports : Queue WorkerReport
  snapshot : Snapshot := {}
  metrics : Metrics := .empty
  sends : Nat := 0

inductive Move
  | tick (worker : Nat) (tick : Tick) (now : Moment)
  | report (worker : Nat)
  | collect

def labels : List (String × String) := Metrics.component "generator" "barrage"

/-- What the counters make of a worker's step. -/
def count (m : Metrics) (before after : Worker) : Metrics :=
  match after.failure with
  | some (.transport e) =>
    if before.failure.isSome then m else m.failed (labels ++ [("error", e.message)])
  | _ =>
    if before.sent.packets < after.sent.packets then
      m.sent labels (after.sent.bytes - before.sent.bytes)
    else m

namespace Run

def start (config : Config) (workers : List Worker) : Run where
  workers := workers
  reports := { capacity := config.workers.toNat + 20 }

/-- One move. A report needs room in the queue, and the collector needs a report. -/
def step (net : Network) (config : Config) (r : Run) : Move → Option Run
  | .tick i tick now => do
    let before ← r.workers[i]?
    let send (size : Nat) := (Transport.send net r.sends config.target size).map fun _ => ()
    let after ← before.step now send tick
    return { r with
      workers := r.workers.set i after
      metrics := count r.metrics before after
      sends := if tick = .shutdown then r.sends else r.sends + 1 }
  | .report i => do
    let w ← r.workers[i]?
    let report ← w.pending
    let reports ← r.reports.push? report
    return { r with workers := r.workers.set i { w with pending := none }, reports }
  | .collect => do
    let (report, reports) ← r.reports.pop?
    return { r with reports, snapshot := r.snapshot.record report }

/-- Moves one after the other; those that cannot happen are left out. -/
def steps (net : Network) (config : Config) (r : Run) (moves : List Move) : Run :=
  moves.foldl (fun r m => (r.step net config m).getD r) r

/-- Whether all workers have stopped and the collector has all their reports. -/
def isFinished (r : Run) : Bool :=
  r.workers.all (fun w => w.stage = .stopped && w.pending.isNone) && r.reports.isEmpty

end Run

/-! ## From start to end -/

/-- Gets a barrage ready: the configuration, the sockets, then the dashboard and the watchers. It is
`none` if the draws of a source ID do not come to an end. How a worker gets a row of words of its own
is up to the generator of the words. -/
def prepare (net : Network) (shutdown : Shutdown.Watcher) (config : Config) (fuel : Nat)
    (fork : Draw Words := Draw.seeded) : Draw (Option (Except Error Run)) := do
  if let .error e := config.check then return some (.error e)
  match ← drawSources fork fuel config.workers.toNat [] with
  | none => return none
  | some sources => return some do
    let workers ← recruitAll net config 1 sources
    if let some addr := config.dashboard then
      let _ ← shutdown.register.mapError .registration
      (net.listen addr).mapError (.dashboard addr)
    let _ ← shutdown.register.mapError .registration
    return Run.start config workers

/-- Microseconds between a worker's templates. -/
def refreshDelay : Nat := 30000000

/-- A worker's ticks within a time, in their order. -/
def schedule (delay time : Nat) : List (Nat × Tick) :=
  let paces := (List.range (time / delay + 1)).map fun k => (k * delay, Tick.pace)
  let refreshes := (List.range (time / refreshDelay)).map fun k =>
    ((k + 1) * refreshDelay, Tick.refresh)
  (0, .start) :: (paces ++ refreshes).mergeSort (fun a b => a.1 ≤ b.1) ++ [(time, .shutdown)]

/-- The moves in which all workers tick at the same times and reports are taken at once. -/
def lockstep (workers delay time : Nat) : List Move :=
  (schedule delay time).flatMap fun (now, tick) =>
    (List.range workers).flatMap fun i =>
      [.tick i tick { elapsed := 1000 * now, unixSecs := UInt32.ofNat (now / 1000000) }, .report i,
        .collect]

end FlowTraffic.Sender.Barrage
