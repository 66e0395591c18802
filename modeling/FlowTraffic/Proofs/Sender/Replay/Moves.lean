import FlowTraffic.Proofs.Sender.Replay.Pool
import Mathlib.Data.List.Basic

/-!
# The moves of a replay

What a move shows of the queue and the network, and what it makes of a replay (`change_of_step`).
-/

namespace FlowTraffic.Sender.Replay

/-! ## The reader -/

theorem Reader.look_cases {r : Reader} (looking : r.stage = .looking) (once : r.looping = false)
    (signalled : Bool) :
    r.rest ≠ [] ∧ r.look signalled = { r with stage := .offering } ∨
      (r.rest = [] ∨ signalled = true) ∧ r.look signalled = r.stop := by
  unfold look
  rw [if_neg (by simp [looking]), once]
  split
  · rename_i spent
    exact .inr ⟨.inl (List.isEmpty_iff.1 spent), rfl⟩
  · rename_i more
    split
    · rename_i signal
      exact .inr ⟨.inr signal, rfl⟩
    · exact .inl ⟨mt List.isEmpty_iff.2 more, rfl⟩

theorem Reader.rest_of_offer? {r : Reader} {payload : Bytes} (offered : r.offer? = some payload) :
    r.rest = payload :: r.rest.tail := by
  unfold offer? at offered
  split at offered
  · exact List.eq_cons_of_mem_head? offered
  · cases offered

/-! ## All moves -/

namespace Run

variable {net : Network} {config : Config} {r r' : Run} {m : Move}

/-- What a move does with the queue or the network. -/
def event? (net : Network) (config : Config) (r : Run) : Move → Option Event
  | .take i => do
    let (payload, _) ← r.queue.pop?
    return .take { worker := i, payload }
  | .send i unixSecs => do
    let w ← r.workers[i]?
    let payload ← w.held.head?
    let datagram := config.datagram unixSecs payload
    let accepted := (net.send r.sends config.target datagram.length).isOk
    return .attempt { worker := i, payload, datagram, accepted }
  | _ => none

/-- What a row of moves does with the queue and the network. -/
def events (net : Network) (config : Config) (r : Run) (moves : List Move) : List Event :=
  observe (step net config) (event? net config) r moves

/-- What a move makes of a replay, and what it shows. -/
inductive Change (net : Network) (config : Config) (r : Run) : Move → Option Event → Run → Prop
  | signal : Change net config r .signal none { r with signalled := true }
  | look (looking : r.reader.stage = .looking) :
    Change net config r .look none { r with reader := r.reader.look r.signalled }
  | offer {payload : Bytes} (offered : r.reader.offer? = some payload) (isOpen : r.queue.isOpen = true) :
    Change net config r .offer none { r with
      queue := { r.queue with items := r.queue.items ++ [payload] }, reader := r.reader.accepted }
  | refuse {payload : Bytes} (offered : r.reader.offer? = some payload)
      (closed : r.queue.isOpen = false) :
    Change net config r .offer none { r with reader := r.reader.stop }
  | take {w : Worker} {items : List Bytes} (t : Take)
      (hw : r.workers[t.worker]? = some w) (waiting : w.stage = .waiting)
      (first : r.queue.items = t.payload :: items) :
    Change net config r (.take t.worker) (some (.take t)) { r with
      queue := { r.queue with items }
      taken := r.taken ++ [t.payload]
      workers := r.workers.set t.worker
        { w with stage := .holding t.payload, taken := w.taken ++ [t.payload] } }
  | sent {w : Worker} {unixSecs : UInt32} {metrics : Metrics}
      (a : Attempt) (hw : r.workers[a.worker]? = some w) (holding : w.stage = .holding a.payload)
      (stamped : a.datagram = config.datagram unixSecs a.payload)
      (answer : (net.send r.sends config.target a.datagram.length).isOk = a.accepted)
      (accepted : a.accepted = true) :
    Change net config r (.send a.worker unixSecs) (some (.attempt a)) { r with
      workers := r.workers.set a.worker { w with
        sent := w.sent + { cycles := 1, bytes := a.datagram.length, packets := 1 }
        stage := .waiting }
      delivered := r.delivered ++ [a.datagram], metrics, sends := r.sends + 1 }
  | failed {w : Worker} {unixSecs : UInt32} {metrics : Metrics}
      {why : TransportError} (a : Attempt) (hw : r.workers[a.worker]? = some w)
      (holding : w.stage = .holding a.payload)
      (stamped : a.datagram = config.datagram unixSecs a.payload)
      (answer : (net.send r.sends config.target a.datagram.length).isOk = a.accepted)
      (failed : a.accepted = false) :
    Change net config r (.send a.worker unixSecs) (some (.attempt a))
      ({ r with metrics, sends := r.sends + 1 }.stop a.worker { w with failure := some why })
  | quit {i : Nat} {w : Worker} (hw : r.workers[i]? = some w) (waiting : w.stage = .waiting)
      (signalled : r.signalled = true) : Change net config r (.quit i) none (r.stop i w)
  | finish {i : Nat} {w : Worker} (hw : r.workers[i]? = some w) (waiting : w.stage = .waiting)
      (empty : r.queue.items = []) (done : r.reader.stage = .done) :
    Change net config r (.finish i) none (r.stop i w)

@[simp] theorem items_stop (r : Run) (i : Nat) (w : Worker) :
    (r.stop i w).queue.items = r.queue.items := by
  unfold stop
  dsimp only
  split <;> rfl

theorem change_of_send {i : Nat} {w : Worker} {payload : Bytes} (unixSecs : UInt32)
    (hw : r.workers[i]? = some w) (holding : w.stage = .holding payload) :
    Change net config r (.send i unixSecs) (r.event? net config (.send i unixSecs))
      (r.attempt net config i w (config.datagram unixSecs payload)) := by
  have hevent : r.event? net config (.send i unixSecs) = some (.attempt {
      worker := i, payload, datagram := config.datagram unixSecs payload
      accepted := (net.send r.sends config.target (config.datagram unixSecs payload).length).isOk
      }) := by
    simp [event?, hw, Worker.held, holding]
  rw [hevent]
  simp only [attempt, Transport.send]
  cases answer : net.send r.sends config.target (config.datagram unixSecs payload).length with
  | ok =>
    refine .sent { worker := i, payload, datagram := _, accepted := true } hw holding rfl ?_ rfl
    exact congrArg Except.isOk answer
  | error why =>
    refine .failed { worker := i, payload, datagram := _, accepted := false } hw holding rfl ?_ rfl
    exact congrArg Except.isOk answer

theorem change_of_step (hs : r.step net config m = some r') :
    Change net config r m (r.event? net config m) r' := by
  cases m with
  | signal =>
    cases hs
    exact .signal
  | look =>
    simp only [step] at hs
    split at hs
    · rename_i looking
      cases hs
      exact .look looking
    · cases hs
  | offer =>
    obtain ⟨payload, offered, hs⟩ := Option.bind_eq_some_iff.1 hs
    split at hs
    · obtain ⟨q, pushed, hs⟩ := Option.bind_eq_some_iff.1 hs
      obtain ⟨isOpen, -, rfl⟩ := Queue.push?_eq_some_iff.1 pushed
      cases hs
      exact .offer offered isOpen
    · rename_i closed
      cases hs
      exact .refuse offered (by simpa using closed)
  | take i =>
    obtain ⟨w, hw, hs⟩ := Option.bind_eq_some_iff.1 hs
    split at hs
    · cases hs
    · rename_i waiting
      obtain ⟨⟨payload, q⟩, popped, hs⟩ := Option.bind_eq_some_iff.1 hs
      simp only [event?, popped]
      obtain ⟨items, first, rfl⟩ := Queue.pop?_eq_some_iff.1 popped
      cases hs
      exact .take { worker := i, payload } hw (by simpa using waiting) first
  | send i unixSecs =>
    obtain ⟨w, hw, hs⟩ := Option.bind_eq_some_iff.1 hs
    split at hs
    · rename_i payload holding
      cases hs
      exact change_of_send unixSecs hw holding
    · cases hs
  | quit i =>
    obtain ⟨w, hw, hs⟩ := Option.bind_eq_some_iff.1 hs
    split at hs
    · rename_i ready
      simp only [Bool.and_eq_true, decide_eq_true_eq] at ready
      cases hs
      exact .quit hw ready.1 ready.2
    · cases hs
  | finish i =>
    obtain ⟨w, hw, hs⟩ := Option.bind_eq_some_iff.1 hs
    split at hs
    · rename_i ready
      simp only [Bool.and_eq_true, decide_eq_true_eq, Queue.isEmpty, List.isEmpty_iff] at ready
      cases hs
      exact .finish hw ready.1.1 ready.1.2 ready.2
    · cases hs

theorem Change.signalled_eq {e? : Option Event} (h : Change net config r m e? r') (hm : m ≠ .signal) :
    r'.signalled = r.signalled := by
  cases h with
  | signal => exact absurd rfl hm
  | _ => rfl

theorem signalled_steps {moves : List Move} (quiet : .signal ∉ moves) (r : Run) :
    (r.steps net config moves).signalled = r.signalled := by
  have keeps : ∀ s : Run, ∀ m ∈ moves, ∀ s', s.signalled = r.signalled →
      s.step net config m = some s' → s'.signalled = r.signalled := by
    intro s m hm s' h hs
    have notSignal : m ≠ .signal := fun signal => quiet (signal ▸ hm)
    exact ((change_of_step hs).signalled_eq notSignal).trans h
  exact foldl_induction keeps rfl

end Run

end FlowTraffic.Sender.Replay
