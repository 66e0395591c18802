/-!
# The shutdown signal

One broadcaster, any number of watchers. The signal fires once. A registered watcher holds up the
broadcaster's wait until it has seen the signal or is gone; a copy of a watcher holds up nothing.
`Board` is the state that all of them share, and `Board.step` is one operation on it. A wait does
nothing before it is polled, so starting one and polling it are two operations; `recv` and
`signalAndWait` are both at once. The broadcaster's wait owns the broadcaster, so dropping the one drops
the other.
-/

namespace FlowTraffic.Shutdown

/-- The watcher has seen the signal before. -/
inductive Refusal
  | signalReceived
  deriving DecidableEq, Repr

def Refusal.message : Refusal → String
  | signalReceived => "signal has been received"

/-- What a watcher remembers. -/
structure Watcher where
  /-- It has told its holder of the signal. -/
  seen : Bool := false
  /-- The broadcaster waits for it. -/
  registered : Bool := true
  /-- It has left the count of peers. -/
  loggedOff : Bool := false
  deriving DecidableEq, Repr

namespace Watcher

/-- Whether the watcher still stands in the count of peers. -/
def counts (w : Watcher) : Bool := w.registered && !w.loggedOff

/-- Takes the watcher out of the count of peers, if it stands there. The count stays at zero rather
than wrap. -/
def logOff (w : Watcher) (peers : UInt32) : Watcher × UInt32 :=
  if w.counts then ({ w with loggedOff := true }, if peers = 0 then 0 else peers - 1)
  else (w, peers)

/-- A watcher that the broadcaster waits for. No peer joins through a watcher that has seen the
signal. -/
def register (w : Watcher) : Except Refusal Watcher :=
  if w.seen then .error .signalReceived else .ok {}

/-- A copy remembers whether the signal was seen, and is not waited for. -/
def copy (w : Watcher) : Watcher := { seen := w.seen, registered := false }

end Watcher

/-- A wait for the signal. It owns its watcher. -/
structure Wait where
  watcher : Watcher
  /-- It has been polled before. -/
  polled : Bool := false
  deriving DecidableEq, Repr

/-- Where the broadcaster is. -/
inductive Broadcaster
  | idle
  | waiting
  | gone
  deriving DecidableEq, Repr

/-- The shared state. Watchers and waits are numbered in the order they came up; a place is empty
once its watcher or wait is gone. -/
structure Board where
  fired : Bool := false
  broadcaster : Broadcaster := .idle
  peers : UInt32 := 1
  watchers : List (Option Watcher) := [some {}]
  waits : List (Option Wait) := []
  deriving DecidableEq, Repr

inductive Poll
  | pending
  | ready
  | done
  deriving DecidableEq, Repr

inductive Step
  | register (watcher : Nat)
  | clone (watcher : Nat)
  | drop (watcher : Nat)
  | tryRecv (watcher : Nat)
  | startRecv (watcher : Nat)
  | recv (watcher : Nat)
  | pollRecv (wait : Nat)
  | dropRecv (wait : Nat)
  | signal
  | dropBroadcaster
  | startWait
  | signalAndWait
  | pollWait
  | dropWait
  deriving DecidableEq, Repr

inductive Answer
  | nothing
  | watcher (number : Nat)
  | seen (yes : Bool)
  | refused (why : Refusal)
  | wait (number : Nat) (poll : Poll)
  | poll (poll : Poll)
  deriving DecidableEq, Repr

namespace Board

def watcher? (b : Board) (i : Nat) : Option Watcher := b.watchers[i]?.join

def wait? (b : Board) (i : Nat) : Option Wait := b.waits[i]?.join

/-- The board with a new watcher, which gets the next number. -/
def add (b : Board) (w : Watcher) : Answer × Board :=
  (.watcher b.watchers.length, { b with watchers := b.watchers ++ [some w] })

/-- A new watcher that the broadcaster waits for. -/
def register (b : Board) (w : Watcher) : Answer × Board :=
  match w.register with
  | .error e => (.refused e, b)
  | .ok new => ({ b with peers := b.peers + 1 } : Board).add new

def drop (b : Board) (i : Nat) (w : Watcher) : Board :=
  { b with peers := (w.logOff b.peers).2, watchers := b.watchers.set i none }

def tryRecv (b : Board) (i : Nat) (w : Watcher) : Answer × Board :=
  if w.seen then (.refused .signalReceived, b)
  else if b.fired then
    let (w, peers) := w.logOff b.peers
    (.seen true, { b with peers, watchers := b.watchers.set i (some { w with seen := true }) })
  else (.seen false, b)

/-- Polls a wait. A wait whose watcher has seen the signal before is ready
at its second poll, so that it does not starve the others. -/
def pollRecv (b : Board) (i : Nat) (wait : Wait) : Poll × Board :=
  if (if wait.watcher.seen then wait.polled else b.fired) then
    (.ready, { b with
      peers := (wait.watcher.logOff b.peers).2
      waits := b.waits.set i none })
  else
    (.pending, { b with waits := b.waits.set i (some { wait with polled := true }) })

/-- Turns a watcher into a wait, which gets the next number. -/
def startRecv (b : Board) (i : Nat) (w : Watcher) : Board :=
  { b with watchers := b.watchers.set i none, waits := b.waits ++ [some { watcher := w }] }

/-- Turns a watcher into a wait and polls it. -/
def recv (b : Board) (i : Nat) (w : Watcher) : Answer × Board :=
  let n := b.waits.length
  let (poll, b) := (b.startRecv i w).pollRecv n { watcher := w }
  (.wait n poll, b)

def dropRecv (b : Board) (i : Nat) (wait : Wait) : Board :=
  { b with peers := (wait.watcher.logOff b.peers).2, waits := b.waits.set i none }

/-- Polls the broadcaster's wait. The first poll fires the signal, and the wait is over once no peer is
left. -/
def pollWait (b : Board) : Answer × Board :=
  match b.broadcaster with
  | .waiting =>
    if b.peers = 0 then (.poll .ready, { b with fired := true, broadcaster := .gone })
    else (.poll .pending, { b with fired := true })
  | _ => (.poll .done, b)

/-- One operation. On a watcher, wait or broadcaster that is gone it does nothing. -/
def step (b : Board) : Step → Answer × Board
  | .register i => (b.watcher? i).elim (.nothing, b) b.register
  | .clone i => (b.watcher? i).elim (.nothing, b) fun w => b.add w.copy
  | .drop i => (.nothing, (b.watcher? i).elim b (b.drop i))
  | .tryRecv i => (b.watcher? i).elim (.nothing, b) (b.tryRecv i)
  | .startRecv i => (.nothing, (b.watcher? i).elim b (b.startRecv i))
  | .recv i => (b.watcher? i).elim (.nothing, b) (b.recv i)
  | .pollRecv i =>
    (b.wait? i).elim (.poll .done, b) fun wait =>
      let (poll, b) := b.pollRecv i wait
      (.poll poll, b)
  | .dropRecv i => (.nothing, (b.wait? i).elim b (b.dropRecv i))
  | .signal | .dropBroadcaster =>
    if b.broadcaster = .idle then (.nothing, { b with fired := true, broadcaster := .gone })
    else (.nothing, b)
  | .startWait =>
    if b.broadcaster = .idle then (.nothing, { b with broadcaster := .waiting }) else (.nothing, b)
  | .signalAndWait =>
    if b.broadcaster = .idle then ({ b with broadcaster := .waiting } : Board).pollWait
    else (.nothing, b)
  | .pollWait => b.pollWait
  | .dropWait =>
    if b.broadcaster = .waiting then (.nothing, { b with fired := true, broadcaster := .gone })
    else (.nothing, b)

/-- Operations one after the other: their answers and the board after them. -/
def run (b : Board) : List Step → List Answer × Board
  | [] => ([], b)
  | s :: ss =>
    let (answer, b) := b.step s
    let (answers, b) := b.run ss
    (answer :: answers, b)

/-- The number of peers, as long as somebody outside a wait can ask for it. -/
def visiblePeers (b : Board) : Option Nat :=
  if b.broadcaster = .idle ∨ b.watchers.any Option.isSome then some b.peers.toNat else none

end Board

end FlowTraffic.Shutdown
