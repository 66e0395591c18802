import FlowTraffic.Host.Transport
import FlowTraffic.Receiver.Intake
import FlowTraffic.Receiver.Persister
import FlowTraffic.Shutdown

/-!
# Recording

A recording puts the packets of the intake into a store.
-/

namespace FlowTraffic.Receiver.Record

inductive Error
  | transport (why : TransportError)
  | store (why : StoreError)
  | registration (why : Shutdown.Refusal)
  deriving DecidableEq, Repr

def Error.message : Error → String
  | transport why => why.message
  | store why => why.message
  | registration why => s!"Failed to register shutdown watcher: {why.message}"

def labels : List (String × String) := Metrics.component "ingest" "record"

structure Run (σ : Type) where
  intake : Intake := { labels }
  persister : Persister σ
  /-- How the store's flush at the end went. -/
  flushed : Option (Except StoreError Unit) := none

inductive Move
  | intake (move : IntakeMove)
  | persist
  | flush
  deriving DecidableEq, Repr

/-- What a recording has when it is over. -/
structure Recording (σ : Type) where
  store : σ
  counts : Counts
  persisted : Nat

namespace Run

variable {σ : Type} [Store σ]

/-- The counters after the persister has tried to put a payload. -/
def count (before after : Persister σ) (m : Metrics) : Metrics :=
  if before.persisted < after.persisted then m.add ⟨"packets_persisted", labels⟩ 1
  else m.failed labels

/-- One move, if it can happen. When the keys are used up, nothing more is taken. -/
def step (r : Run σ) : Move → Option (Run σ)
  | .intake move => do return { r with intake := ← r.intake.step move }
  | .persist => do
    if r.persister.isExhausted || r.flushed.isSome then none
    let (payload, outbox) ← r.intake.outbox.pop?
    let persister := r.persister.put payload
    return { r with
      intake := { r.intake with outbox, metrics := count r.persister persister r.intake.metrics }
      persister }
  | .flush =>
    if r.flushed.isNone && (r.persister.isExhausted || r.intake.isDrained) then
      let (result, persister) := r.persister.finish
      let intake := { r.intake with outbox := r.intake.outbox.close }
      some { r with intake, persister, flushed := some result }
    else none

/-- Moves one after the other; those that cannot happen are left out. -/
def steps (r : Run σ) (moves : List Move) : Run σ :=
  moves.foldl (fun r m => (r.step m).getD r) r

def isFinished (r : Run σ) : Bool := r.flushed.isSome && r.intake.validator.isDone

def result (r : Run σ) : Except Error (Recording σ) := do
  (r.flushed.getD (.ok ())).mapError .store
  return ⟨r.persister.store, r.intake.validator.counts, r.persister.persisted⟩

end Run

/-- The moves that take one datagram all the way. -/
def datagramMoves (datagram : Bytes) : List Move :=
  [.intake (.read datagram), .intake .hand, .intake (.validate 0), .intake .pass, .persist]

def closingMoves : List Move :=
  [.intake .signal, .intake .stop, .intake .finish, .flush]

def prepare {σ : Type} (shutdown : Shutdown.Watcher) (store : σ) : Except Error (Run σ) := do
  let _ ← shutdown.register.mapError .registration
  return { persister := { store } }

def bind (net : Network) (listen : Endpoint) : Except Error Endpoint :=
  (Transport.bind net 0 listen).mapError .transport

end FlowTraffic.Receiver.Record
