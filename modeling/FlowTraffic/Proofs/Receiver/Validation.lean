import FlowTraffic.Proofs.Counters
import FlowTraffic.Proofs.Receiver.Intake
import FlowTraffic.Proofs.Runs
import FlowTraffic.Receiver.Proxy
import FlowTraffic.Receiver.Record

/-!
# The validator and its neighbours

Payloads come to the validator from the listener. The stage behind it takes packets from the outbox, and may
go away at any moment. All the while other counters are added to. Whatever a recording or a proxy does, that
is all that happens to their intake (`Record.Run.reaches_steps`, `Proxy.Run.reaches_steps`).
-/

namespace FlowTraffic.Receiver

namespace Validation

/-- What can happen around a validator. -/
inductive Move
  | intake (move : IntakeMove)
  | pop
  | close
  | count (counter : Counter) (n : Nat)
  deriving DecidableEq

/-- What can be seen of it. -/
inductive Event
  | came (payload : Bytes)
  | took (payload : Bytes)
  | offered (payload : Bytes) (accepted : Bool)
  | popped (payload : Bytes)
  | closed
  deriving DecidableEq

/-- The counter of the payloads that are no packets. -/
def invalidCounter (labels : List (String × String)) : Counter := ⟨"packets_invalid", labels⟩

/-- One move, if it can happen. Nobody else adds to the validator's counter. -/
def step (i : Intake) : Move → Option Intake
  | .intake m => i.step m
  | .pop => i.outbox.pop?.map fun (_, outbox) => { i with outbox }
  | .close => some { i with outbox := i.outbox.close }
  | .count c n =>
    if c.text = (invalidCounter i.labels).text then none
    else some { i with metrics := i.metrics.add c n }

def event? (i : Intake) : Move → Option Event
  | .intake .hand => if i.inbox.isOpen then i.held.map .came else none
  | .intake (.validate _) => i.inbox.items.head?.map .took
  | .intake .pass => i.validator.holding.map (.offered · i.outbox.isOpen)
  | .pop => i.outbox.items.head?.map .popped
  | .close => some .closed
  | _ => none

def after (i : Intake) (moves : List Move) : Intake := moves.foldl (fun i m => (step i m).getD i) i

def events (i : Intake) (moves : List Move) : List Event := observe step event? i moves

/-! ## Histories -/

def Event.came? : Event → Option Bytes
  | .came payload => some payload
  | _ => none

def Event.took? : Event → Option Bytes
  | .took payload => some payload
  | _ => none

def Event.passed? : Event → Option Bytes
  | .offered payload true => some payload
  | _ => none

def Event.refused? : Event → Option Bytes
  | .offered payload false => some payload
  | _ => none

def Event.popped? : Event → Option Bytes
  | .popped payload => some payload
  | _ => none

/-- The payloads that come to the validator, in their order. -/
def cameIn (log : List Event) : List Bytes := log.filterMap Event.came?

/-- The payloads that the validator takes, in their order. -/
def tookIn (log : List Event) : List Bytes := log.filterMap Event.took?

/-- The packets that are passed on, in their order. -/
def passedIn (log : List Event) : List Bytes := log.filterMap Event.passed?

/-- The packets that nobody takes any more when they are to be passed on. -/
def refusedIn (log : List Event) : List Bytes := log.filterMap Event.refused?

/-- The packets that the stage behind gets, in their order. -/
def poppedIn (log : List Event) : List Bytes := log.filterMap Event.popped?

/-- What is seen before the stage behind goes away. -/
def beforeClosing (log : List Event) : List Event := log.takeWhile (· ≠ .closed)

section

variable (log : List Event) (e : Event)

@[simp]
theorem cameIn_concat : cameIn (log ++ [e]) = cameIn log ++ e.came?.toList := filterMap_concat ..

@[simp]
theorem tookIn_concat : tookIn (log ++ [e]) = tookIn log ++ e.took?.toList := filterMap_concat ..

@[simp]
theorem passedIn_concat : passedIn (log ++ [e]) = passedIn log ++ e.passed?.toList := filterMap_concat ..

@[simp]
theorem refusedIn_concat : refusedIn (log ++ [e]) = refusedIn log ++ e.refused?.toList := filterMap_concat ..

@[simp]
theorem poppedIn_concat : poppedIn (log ++ [e]) = poppedIn log ++ e.popped?.toList := filterMap_concat ..

end

section

variable {log : List Event}

theorem beforeClosing_of_notMem (h : .closed ∉ log) : beforeClosing log = log := by
  have happend := takeWhile_ne_append_of_notMem h []
  simpa [beforeClosing] using happend

theorem beforeClosing_concat_closed (h : .closed ∉ log) : beforeClosing (log ++ [.closed]) = log := by
  unfold beforeClosing
  rw [takeWhile_ne_append_of_notMem h]
  simp

theorem beforeClosing_concat_of_mem (h : .closed ∈ log) (e : Event) :
    beforeClosing (log ++ [e]) = beforeClosing log :=
  takeWhile_ne_append_of_mem h [e]

end

/-! ## One move -/

/-- The cases of a move, with what they show. -/
inductive Change (i : Intake) : Option Event → Intake → Prop
  | signals : Change i none { i with signalled := true }
  | reads {d : Bytes} : Change i none
      { i with
        held := some d
        received := i.received ++ [d]
        metrics := (i.metrics.add ⟨"packets_received", i.labels⟩ 1).add
          ⟨"bytes_received", i.labels⟩ d.length }
  | comes {d : Bytes} (held : i.held = some d) : Change i (some (.came d))
      { i with inbox := { i.inbox with items := i.inbox.items ++ [d] }, held := none }
  | loses {d : Bytes} (held : i.held = some d) (closed : i.inbox.isOpen = false) :
      Change i none { i with isListening := false, held := none }
  | stops : Change i none { i with isListening := false }
  | takes {now : Nat} {d : Bytes} {items : List Bytes} (idle : i.validator.isIdle = true)
      (first : i.inbox.items = d :: items) : Change i (some (.took d))
        { i with
          inbox := { i.inbox with items }
          validator := i.validator.receive now d
          metrics := i.countPayload d }
  | passes {p : Bytes} (holding : i.validator.holding = some p) (isOpen : i.outbox.isOpen = true) :
      Change i (some (.offered p true))
        { i with
          outbox := { i.outbox with items := i.outbox.items ++ [p] }
          validator := i.validator.passed }
  | abandons {p : Bytes} (holding : i.validator.holding = some p) (closed : i.outbox.isOpen = false) :
      Change i (some (.offered p false)) { i with validator := i.validator.abandoned }
  | ticks {now : Nat} : Change i none { i with validator := i.validator.tick now }
  | finishes (idle : i.validator.isIdle = true) (stopped : i.isListening = false)
      (empty : i.inbox.items = []) :
      Change i none { i with validator := i.validator.finish, inbox := i.inbox.close }
  | pops {p : Bytes} {items : List Bytes} (first : i.outbox.items = p :: items) :
      Change i (some (.popped p)) { i with outbox := { i.outbox with items } }
  | closes : Change i (some .closed) { i with outbox := i.outbox.close }
  | counts {c : Counter} {n : Nat} (other : c.text ≠ (invalidCounter i.labels).text) :
      Change i none { i with metrics := i.metrics.add c n }

theorem change_of_intake {i i' : Intake} {m : IntakeMove} (h : i.step m = some i') :
    Change i (event? i (.intake m)) i' := by
  unfold Intake.step at h
  cases m with
  | signal =>
    cases h
    exact .signals
  | read d =>
    simp only at h
    split at h
    · cases h
      exact .reads
    · cases h
  | hand =>
    obtain ⟨d, held, h⟩ := Option.bind_eq_some_iff.1 h
    split at h
    · rename_i isOpen
      obtain ⟨inbox, pushed, h⟩ := Option.bind_eq_some_iff.1 h
      obtain ⟨-, -, rfl⟩ := Queue.push?_eq_some_iff.1 pushed
      cases h
      have hevent : event? i (.intake .hand) = some (.came d) := by simp [event?, isOpen, held]
      rw [hevent]
      exact .comes held
    · rename_i closed
      cases h
      have hevent : event? i (.intake .hand) = none := by simp [event?, closed]
      rw [hevent]
      exact .loses held (by simpa using closed)
  | stop =>
    simp only at h
    split at h
    · cases h
      exact .stops
    · cases h
  | validate now =>
    simp only at h
    split at h
    · cases h
    · rename_i idle
      obtain ⟨⟨d, inbox⟩, popped, h⟩ := Option.bind_eq_some_iff.1 h
      obtain ⟨items, first, rfl⟩ := Queue.pop?_eq_some_iff.1 popped
      cases h
      have hevent : event? i (.intake (.validate now)) = some (.took d) := by simp [event?, first]
      rw [hevent]
      exact .takes (by simpa using idle) first
  | pass =>
    obtain ⟨p, holding, h⟩ := Option.bind_eq_some_iff.1 h
    split at h
    · rename_i isOpen
      obtain ⟨outbox, pushed, h⟩ := Option.bind_eq_some_iff.1 h
      obtain ⟨-, -, rfl⟩ := Queue.push?_eq_some_iff.1 pushed
      cases h
      have hevent : event? i (.intake .pass) = some (.offered p true) := by
        simp [event?, holding, isOpen]
      rw [hevent]
      exact .passes holding isOpen
    · rename_i closed
      cases h
      simp only [Bool.not_eq_true] at closed
      have hevent : event? i (.intake .pass) = some (.offered p false) := by
        simp [event?, holding, closed]
      rw [hevent]
      exact .abandons holding closed
  | tick now =>
    simp only at h
    split at h
    · cases h
      exact .ticks
    · cases h
  | finish =>
    simp only at h
    split at h
    · rename_i ready
      simp only [Bool.and_eq_true, Bool.not_eq_true', Queue.isEmpty, List.isEmpty_iff] at ready
      cases h
      exact .finishes ready.1.1 ready.1.2 ready.2
    · cases h

theorem change_of_step {i i' : Intake} {m : Move} (h : step i m = some i') :
    Change i (event? i m) i' := by
  unfold step at h
  cases m with
  | intake m => exact change_of_intake h
  | pop =>
    obtain ⟨⟨p, outbox⟩, popped, rfl⟩ := Option.map_eq_some_iff.1 h
    obtain ⟨items, first, rfl⟩ := Queue.pop?_eq_some_iff.1 popped
    have hevent : event? i .pop = some (.popped p) := by simp [event?, first]
    rw [hevent]
    exact .pops first
  | close =>
    cases h
    exact .closes
  | count c n =>
    simp only at h
    split at h
    · cases h
    · rename_i other
      cases h
      exact .counts other

/-! ## What moves bring about -/

/-- Moves bring listener and validator from one state to the other. -/
def Reaches (i i' : Intake) : Prop := ∃ moves, after i moves = i'

theorem Reaches.refl (i : Intake) : Reaches i i := ⟨[], rfl⟩

theorem Reaches.trans {i i' i'' : Intake} (h : Reaches i i') (h' : Reaches i' i'') : Reaches i i'' := by
  obtain ⟨moves, rfl⟩ := h
  obtain ⟨moves', rfl⟩ := h'
  exact ⟨moves ++ moves', List.foldl_append⟩

theorem Reaches.of_step {i i' : Intake} {m : Move} (h : step i m = some i') : Reaches i i' := by
  refine ⟨[m], ?_⟩
  simp [after, h]

theorem Reaches.pop {i : Intake} {p : Bytes} {outbox : Queue Bytes} (h : i.outbox.pop? = some (p, outbox)) :
    Reaches i { i with outbox } :=
  .of_step (m := .pop) (by simp [step, h])

theorem Reaches.close (i : Intake) : Reaches i { i with outbox := i.outbox.close } :=
  .of_step (m := .close) rfl

theorem text_ne_invalidCounter {name : String} (other : name ≠ "packets_invalid")
    (plain : '\x7b' ∉ name.toList) (labels labels' : List (String × String)) :
    (Counter.mk name labels).text ≠ (invalidCounter labels').text := by
  have hinvalid : '\x7b' ∉ "packets_invalid".toList := by decide
  exact Counter.text_ne other plain hinvalid

theorem Reaches.count {name : String} (other : name ≠ "packets_invalid") (plain : '\x7b' ∉ name.toList)
    (i : Intake) (labels : List (String × String)) (n : Nat) :
    Reaches i { i with metrics := i.metrics.add ⟨name, labels⟩ n } :=
  .of_step (m := .count ⟨name, labels⟩ n) (if_neg (text_ne_invalidCounter other plain _ _))

theorem Reaches.failed (i : Intake) (labels : List (String × String)) :
    Reaches i { i with metrics := i.metrics.failed labels } :=
  .count (by decide) (by decide) i labels 1

theorem Reaches.sent (i : Intake) (labels : List (String × String)) (bytes : Nat) :
    Reaches i { i with metrics := i.metrics.sent labels bytes } :=
  (Reaches.count (by decide) (by decide) i labels bytes).trans
    (.count (by decide) (by decide) _ labels 1)

end Validation

theorem Record.Run.reaches_of_step {σ : Type} [Store σ] {r r' : Record.Run σ} {m : Record.Move}
    (h : r.step m = some r') : Validation.Reaches r.intake r'.intake := by
  unfold Record.Run.step at h
  cases m with
  | intake m =>
    obtain ⟨i, hi, h⟩ := Option.bind_eq_some_iff.1 h
    cases h
    exact .of_step (m := .intake m) hi
  | persist =>
    simp only at h
    split at h
    · cases h
    · obtain ⟨⟨payload, outbox⟩, popped, h⟩ := Option.bind_eq_some_iff.1 h
      cases h
      apply (Validation.Reaches.pop popped).trans
      simp only [Record.Run.count]
      split
      · exact .count (by decide) (by decide) _ _ 1
      · exact .failed _ _
  | flush =>
    simp only at h
    split at h
    · cases h
      exact .close _
    · cases h

theorem Proxy.Run.reaches_of_step {net : Network} {r r' : Proxy.Run} {m : Proxy.Move}
    (h : r.step net m = some r') : Validation.Reaches r.intake r'.intake := by
  unfold Proxy.Run.step at h
  cases m with
  | intake m =>
    obtain ⟨i, hi, h⟩ := Option.bind_eq_some_iff.1 h
    cases h
    exact .of_step (m := .intake m) hi
  | take =>
    simp only at h
    split at h
    · cases h
    · obtain ⟨⟨payload, outbox⟩, popped, h⟩ := Option.bind_eq_some_iff.1 h
      cases h
      exact .pop popped
  | offer =>
    obtain ⟨fanout, -, h⟩ := Option.bind_eq_some_iff.1 h
    split at h
    · cases h
      exact .close _
    · cases h
      exact .refl _
  | drain =>
    simp only at h
    split at h
    · cases h
      exact .refl _
    · cases h
  | forward k =>
    obtain ⟨o, -, h⟩ := Option.bind_eq_some_iff.1 h
    obtain ⟨⟨payload, fanout⟩, -, h⟩ := Option.bind_eq_some_iff.1 h
    cases h
    simp only [Proxy.Run.forward]
    split
    · exact .sent _ _ _
    · exact .failed _ _
  | leave k =>
    obtain ⟨o, -, h⟩ := Option.bind_eq_some_iff.1 h
    obtain ⟨q, -, h⟩ := Option.bind_eq_some_iff.1 h
    split at h
    · cases h
      exact .refl _
    · cases h

theorem Record.Run.reaches_steps {σ : Type} [Store σ] (r : Record.Run σ) (moves : List Record.Move) :
    Validation.Reaches r.intake (r.steps moves).intake :=
  foldl_induction (P := fun r' : Record.Run σ => Validation.Reaches r.intake r'.intake)
    (fun _ _ _ _ h hs => h.trans (reaches_of_step hs)) (.refl _)

theorem Proxy.Run.reaches_steps (net : Network) (r : Proxy.Run) (moves : List Proxy.Move) :
    Validation.Reaches r.intake (r.steps net moves).intake :=
  foldl_induction (P := fun r' : Proxy.Run => Validation.Reaches r.intake r'.intake)
    (fun _ _ _ _ h hs => h.trans (reaches_of_step hs)) (.refl _)

end FlowTraffic.Receiver
