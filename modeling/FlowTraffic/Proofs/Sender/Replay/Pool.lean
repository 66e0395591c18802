import FlowTraffic.Proofs.Runs
import FlowTraffic.Sender.Replay.Run
import FlowTraffic.Total

/-!
# The workers of a replay

What is seen of a replay is that its workers take payloads and try to send them. A worker tries to send
each payload that it takes, one at a time, and nothing is seen of it after the first attempt that fails
(`Pool`). This depends on no other worker, so it is enough to look at the worker that moves (`Pool.set`).
-/

namespace FlowTraffic.Sender.Replay

/-! ## What is seen of a replay -/

/-- A worker takes a payload off the queue. -/
structure Take where
  worker : Nat
  payload : Bytes
  deriving DecidableEq

/-- A worker tries to send a payload, as a datagram that may have another time in it. -/
structure Attempt where
  worker : Nat
  payload : Bytes
  datagram : Bytes
  accepted : Bool
  deriving DecidableEq

/-- What a worker does with the queue or the network. -/
inductive Event
  | take (take : Take)
  | attempt (attempt : Attempt)
  deriving DecidableEq

namespace Event

def worker : Event → Nat
  | .take t => t.worker
  | .attempt a => a.worker

def take? : Event → Option Take
  | .take t => some t
  | .attempt _ => none

def attempt? : Event → Option Attempt
  | .take _ => none
  | .attempt a => some a

def isFailure : Event → Bool
  | .take _ => false
  | .attempt a => !a.accepted

end Event

/-- What the workers take, in the order in which they take it. -/
def takesIn (log : List Event) : List Take := log.filterMap Event.take?

/-- What the workers try to send, in the order in which they do. -/
def attemptsIn (log : List Event) : List Attempt := log.filterMap Event.attempt?

/-- The datagrams that were accepted, in their order. -/
def deliveredIn (log : List Event) : List Bytes := ((attemptsIn log).filter (·.accepted)).map (·.datagram)

def takesOf (i : Nat) (log : List Event) : List Take := (takesIn log).filter (·.worker = i)

def attemptsOf (i : Nat) (log : List Event) : List Attempt := (attemptsIn log).filter (·.worker = i)

section

variable {log log' : List Event} {i : Nat}

@[simp] theorem takesIn_append : takesIn (log ++ log') = takesIn log ++ takesIn log' :=
  List.filterMap_append ..

@[simp] theorem attemptsIn_append : attemptsIn (log ++ log') = attemptsIn log ++ attemptsIn log' :=
  List.filterMap_append ..

@[simp] theorem takesOf_append : takesOf i (log ++ log') = takesOf i log ++ takesOf i log' := by
  simp [takesOf]

@[simp] theorem attemptsOf_append :
    attemptsOf i (log ++ log') = attemptsOf i log ++ attemptsOf i log' := by
  simp [attemptsOf]

@[simp] theorem deliveredIn_append :
    deliveredIn (log ++ log') = deliveredIn log ++ deliveredIn log' := by
  simp [deliveredIn]

theorem mem_takesIn {t : Take} : t ∈ takesIn log ↔ .take t ∈ log := by
  refine List.mem_filterMap.trans ⟨?_, fun ht => ⟨_, ht, rfl⟩⟩
  rintro ⟨e, he, ht⟩
  cases e <;> cases ht
  exact he

theorem mem_attemptsIn {a : Attempt} : a ∈ attemptsIn log ↔ .attempt a ∈ log := by
  refine List.mem_filterMap.trans ⟨?_, fun ha => ⟨_, ha, rfl⟩⟩
  rintro ⟨e, he, ha⟩
  cases e <;> cases ha
  exact he

theorem takesOf_concat_take {t : Take} (mine : t.worker = i) :
    takesOf i (log ++ [.take t]) = takesOf i log ++ [t] := by
  simp [takesOf, takesIn, Event.take?, mine]

theorem attemptsOf_concat_take (t : Take) : attemptsOf i (log ++ [.take t]) = attemptsOf i log := by
  simp [attemptsOf, attemptsIn, Event.attempt?]

theorem takesOf_concat_attempt (a : Attempt) : takesOf i (log ++ [.attempt a]) = takesOf i log := by
  simp [takesOf, takesIn, Event.take?]

theorem attemptsOf_concat_attempt {a : Attempt} (mine : a.worker = i) :
    attemptsOf i (log ++ [.attempt a]) = attemptsOf i log ++ [a] := by
  simp [attemptsOf, attemptsIn, Event.attempt?, mine]

theorem eq_nil_of_absent (absent : ∀ e ∈ log, e.worker ≠ i) :
    takesOf i log = [] ∧ attemptsOf i log = [] := by
  refine ⟨List.filter_eq_nil_iff.2 fun t ht => ?_, List.filter_eq_nil_iff.2 fun a ha => ?_⟩
  · exact fun mine => absent _ (mem_takesIn.1 ht) (of_decide_eq_true mine)
  · exact fun mine => absent _ (mem_attemptsIn.1 ha) (of_decide_eq_true mine)

end

/-! ## One worker -/

def amountsOf (attempts : List Attempt) : Amounts where
  cycles := attempts.countP (·.accepted)
  bytes := total ((attempts.filter (·.accepted)).map (·.datagram.length))
  packets := attempts.countP (·.accepted)

theorem amountsOf_accepted {a : Attempt} (accepted : a.accepted = true) (attempts : List Attempt) :
    amountsOf (attempts ++ [a]) =
      amountsOf attempts + { cycles := 1, bytes := a.datagram.length, packets := 1 } := by
  simp only [amountsOf, List.countP_append, List.filter_append, List.map_append, total_append,
    List.countP_singleton, List.filter_cons, List.filter_nil, accepted, if_true]
  rfl

theorem amountsOf_failed {a : Attempt} (failed : a.accepted = false) (attempts : List Attempt) :
    amountsOf (attempts ++ [a]) = amountsOf attempts := by
  simp [amountsOf, failed]

namespace Worker

/-- The payload that a worker has taken and not yet tried to send. -/
def held (w : Worker) : List Bytes :=
  match w.stage with
  | .holding payload => [payload]
  | _ => []

/-- What a worker has taken, holds and has counted is what is seen of it. -/
structure Tells (w : Worker) (takes : List Take) (attempts : List Attempt) : Prop where
  taken_eq : w.taken = takes.map (·.payload)
  takes_eq : takes.map (·.payload) = attempts.map (·.payload) ++ w.held
  sent_eq : w.sent = amountsOf attempts
  fine : w.failure = none → ∀ a ∈ attempts, a.accepted = true

variable {w w' : Worker} {takes : List Take} {attempts : List Attempt}

theorem Tells.take (h : w.Tells takes attempts) {t : Take} (before : w.held = [])
    (after : w'.held = [t.payload]) (htaken : w'.taken = w.taken ++ [t.payload])
    (hsent : w'.sent = w.sent) (hfailure : w'.failure = w.failure) :
    w'.Tells (takes ++ [t]) attempts where
  taken_eq := by simp [htaken, h.taken_eq]
  takes_eq := by simp [h.takes_eq, before, after]
  sent_eq := hsent.trans h.sent_eq
  fine := hfailure ▸ h.fine

theorem Tells.attempt (h : w.Tells takes attempts) {a : Attempt} (before : w.held = [a.payload])
    (after : w'.held = []) (htaken : w'.taken = w.taken) (hsent : w'.sent = if a.accepted then
      w.sent + { cycles := 1, bytes := a.datagram.length, packets := 1 } else w.sent)
    (hfailure : w'.failure = none → w.failure = none ∧ a.accepted = true) :
    w'.Tells takes (attempts ++ [a]) where
  taken_eq := htaken.trans h.taken_eq
  takes_eq := by simp [h.takes_eq, before, after]
  sent_eq := by
    rw [hsent, h.sent_eq]
    cases haccepted : a.accepted with
    | true => exact (amountsOf_accepted haccepted attempts).symm
    | false => exact (amountsOf_failed haccepted attempts).symm
  fine fine b hb := by
    obtain ⟨before, accepted⟩ := hfailure fine
    rcases List.mem_append.1 hb with hb | hb
    · exact h.fine before b hb
    · rwa [List.mem_singleton.1 hb]

end Worker

/-! ## All workers -/

/-- What holds of the workers of whom some things were seen. -/
structure Pool (n : Nat) (log : List Event) (ws : List Worker) : Prop where
  ids : ws.map (·.id) = (List.range n).map fun i => UInt32.ofNat (i + 1)
  known : ∀ e ∈ log, e.worker < n
  tells : ∀ (i : Nat) (w : Worker), ws[i]? = some w → w.Tells (takesOf i log) (attemptsOf i log)
  stopped : ∀ e ∈ log, e.isFailure = true → ∃ w, ws[e.worker]? = some w ∧ w.stage = .stopped
  /-- After a failure the worker is not seen again. -/
  silent : log.Pairwise fun e e' => e.isFailure = true → e'.worker ≠ e.worker

namespace Pool

variable {n i : Nat} {log : List Event} {ws : List Worker} {w w' : Worker}

theorem length_eq (h : Pool n log ws) : ws.length = n := by
  simpa using congrArg List.length h.ids

theorem start (n : Nat) :
    Pool n [] ((List.range n).map fun i => { id := UInt32.ofNat (i + 1) }) where
  ids := by simp
  known := nofun
  tells i w hw := by
    obtain ⟨j, -, rfl⟩ := List.mem_map.1 (List.mem_of_getElem? hw)
    exact ⟨rfl, rfl, rfl, nofun⟩
  stopped := nofun
  silent := .nil

theorem worker_ne_of_isFailure (h : Pool n log ws) (hw : ws[i]? = some w) (awake : w.stage ≠ .stopped)
    {e : Event} (he : e ∈ log) (failure : e.isFailure = true) : e.worker ≠ i := by
  rintro rfl
  obtain ⟨w', hw', hstopped⟩ := h.stopped e he failure
  obtain rfl : w = w' := Option.some.inj (hw.symm.trans hw')
  exact awake hstopped

theorem set (h : Pool n log ws) (hw : ws[i]? = some w) (awake : w.stage ≠ .stopped) (e? : Option Event)
    (mine : ∀ e ∈ e?, e.worker = i) (hid : w'.id = w.id)
    (htells : w'.Tells (takesOf i (log ++ e?.toList)) (attemptsOf i (log ++ e?.toList)))
    (hstops : ∀ e ∈ e?, e.isFailure = true → w'.stage = .stopped) :
    Pool n (log ++ e?.toList) (ws.set i w') where
  ids := (map_set_of_eq hw hid).trans h.ids
  known e he := by
    rcases List.mem_append.1 he with he | he
    · exact h.known e he
    · rw [mine e (by simpa using he), ← h.length_eq]
      exact (List.getElem?_eq_some_iff.1 hw).1
  tells j v hv := by
    rcases getElem?_set_cases hv with ⟨rfl, rfl⟩ | ⟨hj, hv⟩
    · exact htells
    · -- The event is not about any other worker.
      have absent : ∀ e ∈ e?.toList, e.worker ≠ j := fun e he =>
        mine e (by simpa using he) ▸ Ne.symm hj
      obtain ⟨htakes, hattempts⟩ := eq_nil_of_absent absent
      rw [takesOf_append, attemptsOf_append, htakes, hattempts, List.append_nil, List.append_nil]
      exact h.tells j v hv
  stopped e he failure := by
    rcases List.mem_append.1 he with he | he
    · have hne := h.worker_ne_of_isFailure hw awake he failure
      rw [List.getElem?_set_ne (Ne.symm hne)]
      exact h.stopped e he failure
    · have he : e ∈ e? := by simpa using he
      rw [mine e he, List.getElem?_set_self (List.getElem?_eq_some_iff.1 hw).1]
      exact ⟨w', rfl, hstops e he failure⟩
  silent := by
    refine List.pairwise_append.2 ⟨h.silent, ?_, fun e he e' he' failure => ?_⟩
    · cases e? <;> simp
    · rw [mine e' (by simpa using he')]
      exact (h.worker_ne_of_isFailure hw awake he failure).symm

end Pool

end FlowTraffic.Sender.Replay
