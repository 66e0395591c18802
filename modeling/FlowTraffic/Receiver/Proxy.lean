import FlowTraffic.Host.Transport
import FlowTraffic.Receiver.Fanout
import FlowTraffic.Receiver.Intake
import FlowTraffic.Shutdown

/-!
# The proxy

A proxy sends every packet of the intake to each of its targets. A send that fails is counted, and
its packet is left out for that target alone.
-/

namespace FlowTraffic.Receiver.Proxy

/-! ## Configuration -/

def maxTargets : Nat := 10

/-- Where a proxy listens and where it sends to. -/
structure Config where
  listen : Endpoint
  targets : List Endpoint
  deriving DecidableEq

/-- Why a proxy does not start. -/
inductive Error
  | transport (why : TransportError)
  | registration (why : Shutdown.Refusal)
  | targetCount (count : Nat)
  deriving DecidableEq, Repr

def Error.message : Error → String
  | transport why => why.message
  | registration why => s!"Failed to register shutdown watcher: {why.message}"
  | targetCount count => s!"proxy needs between 1 and {maxTargets} targets, got {count}"

def Config.check (c : Config) : Except Error Unit :=
  if c.targets.isEmpty ∨ maxTargets < c.targets.length then .error (.targetCount c.targets.length)
  else .ok ()

/-! ## Running -/

def labels : List (String × String) := Metrics.component "ingest" "proxy"

/-- The sender to one target, with the packets that it has tried to send and those it has sent. -/
structure Outlet where
  target : Endpoint
  attempted : List Bytes := []
  delivered : List Bytes := []
  isDone : Bool := false
  deriving DecidableEq

namespace Outlet

def forwarded (o : Outlet) : Nat := o.delivered.length

def labels (o : Outlet) : List (String × String) :=
  Proxy.labels ++ [("target", o.target.text)]

end Outlet

/-- The state of a proxy. Sends are numbered in the order they happen. -/
structure Run where
  intake : Intake := { labels }
  fanout : Fanout
  outlets : List Outlet
  sends : Nat := 0
  /-- How many packets the outlets that are done have sent, each under the outlet's number, in the
  order in which they came to an end. -/
  results : List (Nat × Nat) := []

inductive Move
  | intake (move : IntakeMove)
  | take
  | offer
  | drain
  | forward (outlet : Nat)
  | leave (outlet : Nat)
  deriving DecidableEq, Repr

/-- What a proxy has counted when it is over, the packets sent in the order of the targets. -/
structure Summary where
  counts : Counts
  forwarded : List Nat
  deriving DecidableEq, Repr

namespace Run

def start (config : Config) : Run where
  fanout := .start config.targets.length queueCapacity
  outlets := config.targets.map fun target => { target }

/-- Sends a packet to the target of an outlet. -/
def forward (net : Network) (r : Run) (i : Nat) (o : Outlet) (payload : Bytes) : Run :=
  let o := { o with attempted := o.attempted ++ [payload] }
  let metrics := r.intake.metrics
  let (o, metrics) :=
    match Transport.send net r.sends o.target payload.length with
    | .ok size =>
      ({ o with delivered := o.delivered ++ [payload] }, metrics.sent o.labels size)
    | .error _ => (o, metrics.failed o.labels)
  { r with
    intake := { r.intake with metrics }
    outlets := r.outlets.set i o
    sends := r.sends + 1 }

def step (net : Network) (r : Run) : Move → Option Run
  | .intake move => do return { r with intake := ← r.intake.step move }
  | .take => do
    if !r.fanout.isIdle then none
    let (payload, outbox) ← r.intake.outbox.pop?
    return { r with intake := { r.intake with outbox }, fanout := r.fanout.take payload }
  | .offer => do
    let fanout ← r.fanout.offer
    if fanout.isDone then
      let intake := { r.intake with outbox := r.intake.outbox.close }
      return { r with fanout, intake }
    else return { r with fanout }
  | .drain =>
    if r.fanout.isIdle && r.intake.isDrained then
      some { r with fanout := { r.fanout with isDone := true } }
    else none
  | .forward i => do
    let o ← r.outlets[i]?
    let (payload, fanout) ← r.fanout.pop i
    return { r with fanout }.forward net i o payload
  | .leave i => do
    let o ← r.outlets[i]?
    let queue ← r.fanout.queues[i]?
    if r.fanout.isDone && queue.isEmpty && !o.isDone then
      return { r with
        outlets := r.outlets.set i { o with isDone := true }
        results := r.results ++ [(i, o.forwarded)] }
    else none

/-- Moves one after the other; those that cannot happen are left out. -/
def steps (net : Network) (r : Run) (moves : List Move) : Run :=
  moves.foldl (fun r m => (r.step net m).getD r) r

def isFinished (r : Run) : Bool :=
  r.intake.validator.isDone && r.fanout.isDone && r.outlets.all (·.isDone)

/-- The results in the order of the targets. -/
def forwarded (r : Run) : List Nat :=
  r.results.foldl (fun sent (i, n) => sent.set i n) (List.replicate r.outlets.length 0)

def summary (r : Run) : Summary := ⟨r.intake.validator.counts, r.forwarded⟩

end Run

/-! ## From start to end -/

def bindTargets (net : Network) : List Endpoint → Draw (Except TransportError Unit)
  | [] => return .ok ()
  | target :: targets => do
    match ← Transport.bindSender net target none with
    | .ok _ => bindTargets net targets
    | .error e => return .error e

def bind (net : Network) (config : Config) : Draw (Except Error Run) := do
  match config.check with
  | .error e => return .error e
  | .ok () =>
    match Transport.bind net 0 config.listen with
    | .error e => return .error (.transport e)
    | .ok _ => return ((← bindTargets net config.targets).mapError .transport).map fun _ =>
        Run.start config

/-- Lets the listener watch for the shutdown signal. -/
def prepare (shutdown : Shutdown.Watcher) (r : Run) : Except Error Run := do
  let _ ← shutdown.register.mapError .registration
  return r

/-- The moves that take one datagram all the way. -/
def datagramMoves (targets now : Nat) (datagram : Bytes) : List Move :=
  [.intake (.read datagram), .intake .hand, .intake (.validate now), .intake .pass, .take] ++
    List.replicate targets .offer ++ (List.range targets).map .forward

def closingMoves (targets : Nat) : List Move :=
  [.intake .signal, .intake .stop, .intake .finish, .drain] ++ (List.range targets).map .leave

/-- The reports of the validator after a time and up to another. -/
def reportMoves (after upTo : Nat) : List Move :=
  (List.range (upTo / reportInterval)).filterMap fun k =>
    let now := (k + 1) * reportInterval
    if after < now then some (.intake (.tick now)) else none

/-- The moves of datagrams that come at once, followed by a time in which nothing comes. -/
def phaseMoves (targets now idle : Nat) (datagrams : List Bytes) : List Move :=
  datagrams.flatMap (datagramMoves targets now) ++ reportMoves now (now + idle)

end FlowTraffic.Receiver.Proxy
