import FlowTraffic.Proofs.Receiver.Fanout
import FlowTraffic.Proofs.Runs
import FlowTraffic.Receiver.Proxy

/-!
# Moves of a fan out

A fan out takes a payload, offers it to the next outlet, and finds the end of its payloads. Its outlets
read their queues, and may close them at any moment. What a proxy does with its fan out are such moves
(`Proxy.Run.exists_fanout_moves`).
-/

namespace FlowTraffic.Receiver

namespace Fanout

/-! ## What is seen of a fan out -/

/-- What can happen to a fan out next. -/
inductive Move
  | take (payload : Bytes)
  | offer
  | pop (outlet : Nat)
  | close (outlet : Nat)
  | finish
  deriving DecidableEq

/-- What can be seen of it. -/
inductive Event
  | taken (payload : Bytes)
  | offered (outlet : Nat) (payload : Bytes) (accepted : Bool)
  | popped (outlet : Nat) (payload : Bytes)
  | closed (outlet : Nat)
  | finished
  deriving DecidableEq

/-- One move, if it can happen. A payload is taken, and the end of the payloads found, with none at
hand. -/
def step (f : Fanout) : Move → Option Fanout
  | .take payload => if f.isIdle then some (f.take payload) else none
  | .offer => f.offer
  | .pop k => (f.pop k).map Prod.snd
  | .close k => some (f.close k)
  | .finish => if f.isIdle then some { f with isDone := true } else none

/-- What a move shows. -/
def event? (f : Fanout) : Move → Option Event
  | .take payload => some (.taken payload)
  | .offer => do
    let (payload, place) ← f.current
    let k ← f.outlets[place]?
    let q ← f.queues[k]?
    return .offered k payload q.isOpen
  | .pop k => (f.pop k).map fun (payload, _) => .popped k payload
  | .close k => some (.closed k)
  | .finish => some .finished

def ofQueues (queues : List (Queue Bytes)) : Fanout where
  queues := queues
  outlets := List.range queues.length

def after (f : Fanout) (moves : List Move) : Fanout := moves.foldl (fun f m => (f.step m).getD f) f

theorem after_concat (f : Fanout) (moves : List Move) (m : Move) :
    f.after (moves ++ [m]) = ((f.after moves).step m).getD (f.after moves) := by
  rw [after, List.foldl_append]
  rfl

def events (f : Fanout) (moves : List Move) : List Event := observe step event? f moves

def Event.taken? : Event → Option Bytes
  | .taken payload => some payload
  | _ => none

/-- The payload that the outlet is offered, and whether its queue takes it. -/
def Event.offer? (k : Nat) : Event → Option (Bytes × Bool)
  | .offered j payload accepted => if j = k then some (payload, accepted) else none
  | _ => none

def Event.popped? (k : Nat) : Event → Option Bytes
  | .popped j payload => if j = k then some payload else none
  | _ => none

def takenIn (log : List Event) : List Bytes := log.filterMap Event.taken?

def offersTo (k : Nat) (log : List Event) : List (Bytes × Bool) := log.filterMap (Event.offer? k)

/-- The payloads that are read from the queue of an outlet, in their order. -/
def poppedFrom (k : Nat) (log : List Event) : List Bytes := log.filterMap (Event.popped? k)

@[simp]
theorem takenIn_concat (log : List Event) (e : Event) :
    takenIn (log ++ [e]) = takenIn log ++ e.taken?.toList :=
  filterMap_concat ..

@[simp]
theorem offersTo_concat (k : Nat) (log : List Event) (e : Event) :
    offersTo k (log ++ [e]) = offersTo k log ++ (e.offer? k).toList :=
  filterMap_concat ..

@[simp]
theorem poppedFrom_concat (k : Nat) (log : List Event) (e : Event) :
    poppedFrom k (log ++ [e]) = poppedFrom k log ++ (e.popped? k).toList :=
  filterMap_concat ..

/-- What is seen before the queue of an outlet closes. -/
def beforeClosing (k : Nat) (log : List Event) : List Event := log.takeWhile (· ≠ .closed k)

/-! ## One move -/

/-- The cases of a move, with what they show. -/
inductive Change (f : Fanout) : Move → Option Event → Fanout → Prop
  | takes {payload : Bytes} (free : f.current = none) (running : f.isDone = false) :
      Change f (.take payload) (some (.taken payload)) (f.take payload)
  | runsOut {payload : Bytes} {place : Nat} (current : f.current = some (payload, place))
      (past : f.outlets.length ≤ place) :
      Change f .offer none (f.moveOn payload place)
  | gives {payload : Bytes} {place k : Nat} {q : Queue Bytes}
      (current : f.current = some (payload, place)) (turn : f.outlets[place]? = some k)
      (queue : f.queues[k]? = some q) (isOpen : q.isOpen = true) :
      Change f .offer (some (.offered k payload true))
        (moveOn { f with queues := f.queues.set k { q with items := q.items ++ [payload] } }
          payload (place + 1))
  | drops {payload : Bytes} {place k : Nat} {q : Queue Bytes}
      (current : f.current = some (payload, place)) (turn : f.outlets[place]? = some k)
      (queue : f.queues[k]? = some q) (closed : q.isOpen = false) :
      Change f .offer (some (.offered k payload false))
        (moveOn { f with outlets := swapRemove f.outlets place } payload place)
  | pops {payload : Bytes} {k : Nat} {q : Queue Bytes} {items : List Bytes}
      (queue : f.queues[k]? = some q) (first : q.items = payload :: items) :
      Change f (.pop k) (some (.popped k payload)) { f with queues := f.queues.set k { q with items } }
  | closes {k : Nat} : Change f (.close k) (some (.closed k)) (f.close k)
  | finishes (free : f.current = none) (running : f.isDone = false) :
      Change f .finish (some .finished) { f with isDone := true }

variable {f f' : Fanout} {m : Move}

theorem isIdle_iff : f.isIdle = true ↔ f.current = none ∧ f.isDone = false := by
  simp [isIdle]

theorem change_of_step (h : f.step m = some f') : Change f m (f.event? m) f' := by
  cases m with
  | take payload =>
    simp only [step] at h
    split at h
    · rename_i idle
      cases h
      obtain ⟨free, running⟩ := isIdle_iff.1 idle
      exact .takes free running
    · cases h
  | offer =>
    obtain ⟨⟨payload, place⟩, current, h⟩ := Option.bind_eq_some_iff.1 h
    simp only at h
    split at h
    · rename_i past
      cases h
      have hevent : f.event? .offer = none := by simp [event?, current, past]
      rw [hevent]
      exact .runsOut current (List.getElem?_eq_none_iff.1 past)
    · rename_i k turn
      obtain ⟨q, queue, h⟩ := Option.bind_eq_some_iff.1 h
      split at h
      · rename_i isOpen
        obtain ⟨q', pushed, h⟩ := Option.bind_eq_some_iff.1 h
        obtain ⟨-, -, rfl⟩ := Queue.push?_eq_some_iff.1 pushed
        cases h
        have hevent : f.event? .offer = some (.offered k payload true) := by
          simp [event?, current, turn, queue, isOpen]
        rw [hevent]
        exact .gives current turn queue isOpen
      · rename_i closed
        cases h
        have hevent : f.event? .offer = some (.offered k payload false) := by
          simp [event?, current, turn, queue, closed]
        rw [hevent]
        exact .drops current turn queue (by simpa using closed)
  | pop k =>
    obtain ⟨⟨payload, f''⟩, popped, rfl⟩ := Option.map_eq_some_iff.1 h
    obtain ⟨q, items, queue, first, rfl⟩ := exists_of_pop popped
    have hevent : f.event? (.pop k) = some (.popped k payload) := by simp [event?, popped]
    rw [hevent]
    exact .pops queue first
  | close k =>
    cases h
    exact .closes
  | finish =>
    simp only [step] at h
    split at h
    · rename_i idle
      cases h
      obtain ⟨free, running⟩ := isIdle_iff.1 idle
      exact .finishes free running
    · cases h

end Fanout

/-! ## The fan out of a proxy -/

namespace Proxy.Run

theorem start_fanout (config : Config) :
    (start config).fanout =
      .ofQueues (List.replicate config.targets.length { capacity := queueCapacity }) := by
  simp [start, Fanout.start, Fanout.ofQueues]

theorem fanout_of_step {net : Network} {r r' : Run} {m : Move} (h : r.step net m = some r') :
    r'.fanout = r.fanout ∨ ∃ m' : Fanout.Move, r.fanout.step m' = some r'.fanout := by
  cases m with
  | intake m =>
    obtain ⟨i, -, h⟩ := Option.bind_eq_some_iff.1 h
    cases h
    exact .inl rfl
  | take =>
    simp only [step] at h
    split at h
    · cases h
    · rename_i idle
      obtain ⟨⟨payload, outbox⟩, -, h⟩ := Option.bind_eq_some_iff.1 h
      cases h
      exact .inr ⟨.take payload, if_pos (by simpa using idle)⟩
  | offer =>
    obtain ⟨fanout, offered, h⟩ := Option.bind_eq_some_iff.1 h
    refine .inr ⟨.offer, offered.trans ?_⟩
    split at h <;> cases h <;> rfl
  | drain =>
    simp only [step] at h
    split at h
    · rename_i ready
      cases h
      exact .inr ⟨.finish, if_pos (Bool.and_eq_true_iff.1 ready).1⟩
    · cases h
  | forward k =>
    obtain ⟨o, -, h⟩ := Option.bind_eq_some_iff.1 h
    obtain ⟨⟨payload, fanout⟩, popped, h⟩ := Option.bind_eq_some_iff.1 h
    cases h
    refine .inr ⟨.pop k, ?_⟩
    simp only [Fanout.step, popped, Option.map_some]
    rfl
  | leave k =>
    obtain ⟨o, -, h⟩ := Option.bind_eq_some_iff.1 h
    obtain ⟨q, -, h⟩ := Option.bind_eq_some_iff.1 h
    split at h
    · cases h
      exact .inl rfl
    · cases h

/-- Whatever a proxy does, its fan out gets where moves of its own bring it. -/
theorem exists_fanout_moves (net : Network) (config : Config) (moves : List Move) :
    ∃ moves' : List Fanout.Move, ((start config).steps net moves).fanout =
      (Fanout.ofQueues (List.replicate config.targets.length { capacity := queueCapacity })).after
        moves' := by
  refine foldl_induction (P := fun r : Run => ∃ moves' : List Fanout.Move, r.fanout =
    (Fanout.ofQueues (List.replicate config.targets.length { capacity := queueCapacity })).after moves')
    (fun r m _ r' => ?_) ⟨[], start_fanout config⟩
  rintro ⟨moves', hmoves⟩ hstep
  rcases fanout_of_step hstep with same | ⟨m', hm'⟩
  · exact ⟨moves', same.trans hmoves⟩
  · refine ⟨moves' ++ [m'], ?_⟩
    rw [Fanout.after_concat, ← hmoves, hm', Option.getD_some]

end Proxy.Run

end FlowTraffic.Receiver
