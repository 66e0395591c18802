import FlowTraffic.Proofs.Shutdown.Steps

/-!
# When the signal has fired

A broadcaster fires the signal when it signals, when it is gone, and at the first poll of its wait or when
that is dropped. So the operations alone tell whether the signal has fired (`rung`), and the board agrees with them
(`fired_after`).
-/

namespace FlowTraffic.Shutdown

/-- Whether the signal has fired or the broadcaster is gone after the operations. The broadcaster is there
until the first of them that takes it, and a wait that it is moved into fires at its first poll or when it
is dropped. -/
def rung : List Step → Bool
  | [] => false
  | .signal :: _ | .dropBroadcaster :: _ | .signalAndWait :: _ => true
  | .startWait :: ss => ss.contains .pollWait || ss.contains .dropWait
  | _ :: ss => rung ss

namespace Board

/-- What is to come of a broadcaster. -/
def rings : Broadcaster → List Step → Bool
  | .idle, ss => rung ss
  | .waiting, ss => ss.contains .pollWait || ss.contains .dropWait
  | .gone, _ => false

theorem pollRecv_frame (b : Board) (n : Nat) (wait : Wait) :
    (b.pollRecv n wait).2.fired = b.fired ∧ (b.pollRecv n wait).2.broadcaster = b.broadcaster ∧
      (b.pollRecv n wait).2.watchers = b.watchers := by
  simp only [pollRecv]
  cases (if wait.watcher.seen then wait.polled else b.fired) <;> exact ⟨rfl, rfl, rfl⟩

/-- The operation is one of the broadcaster's. -/
def Rings (s : Step) : Prop :=
  s ∈ [Step.signal, .dropBroadcaster, .startWait, .signalAndWait, .pollWait, .dropWait]

theorem signal_step (b : Board) {s : Step} (watchers : ¬ Rings s) :
    (b.step s).2.fired = b.fired ∧ (b.step s).2.broadcaster = b.broadcaster := by
  cases s with
  | signal | dropBroadcaster | startWait | signalAndWait | pollWait | dropWait =>
    simp [Rings] at watchers
  | clone i | drop i | startRecv i =>
    simp only [step]
    cases b.watcher? i <;> exact ⟨rfl, rfl⟩
  | dropRecv n =>
    simp only [step]
    cases b.wait? n <;> exact ⟨rfl, rfl⟩
  | register i =>
    simp only [step]
    cases b.watcher? i with
    | none => exact ⟨rfl, rfl⟩
    | some w =>
      simp only [Option.elim_some, register]
      cases w.register <;> exact ⟨rfl, rfl⟩
  | tryRecv i =>
    simp only [step]
    cases b.watcher? i with
    | none => exact ⟨rfl, rfl⟩
    | some w =>
      simp only [Option.elim_some, tryRecv]
      split
      · exact ⟨rfl, rfl⟩
      split <;> exact ⟨rfl, rfl⟩
  | recv i =>
    simp only [step]
    cases b.watcher? i with
    | none => exact ⟨rfl, rfl⟩
    | some w =>
      obtain ⟨hfired, hsame, -⟩ := (b.startRecv i w).pollRecv_frame b.waits.length { watcher := w }
      exact ⟨hfired, hsame⟩
  | pollRecv n =>
    simp only [step]
    cases b.wait? n with
    | none => exact ⟨rfl, rfl⟩
    | some wait =>
      obtain ⟨hfired, hsame, -⟩ := b.pollRecv_frame n wait
      exact ⟨hfired, hsame⟩

theorem pollWait_of_waiting {b : Board} (h : b.broadcaster = .waiting) :
    b.pollWait.2.fired = true := by
  simp only [pollWait, h]
  split <;> rfl

theorem rings_step (b : Board) (s : Step) (ss : List Step) :
    ((b.step s).2.fired || rings (b.step s).2.broadcaster ss) =
      (b.fired || rings b.broadcaster (s :: ss)) := by
  cases s with
  | signal | dropBroadcaster | startWait | dropWait =>
    cases hb : b.broadcaster <;> simp [step, hb, rings, rung]
  | signalAndWait =>
    cases hb : b.broadcaster with
    | idle =>
      have hfired := pollWait_of_waiting (b := { b with broadcaster := .waiting }) rfl
      simp [step, hb, hfired, rings, rung]
    | waiting | gone => simp [step, hb, rings]
  | pollWait =>
    cases hb : b.broadcaster with
    | waiting => simp [step, pollWait_of_waiting hb, rings]
    | idle | gone => simp [step, pollWait, hb, rings, rung]
  | _ =>
    rw [(b.signal_step (by simp [Rings])).1, (b.signal_step (by simp [Rings])).2]
    cases b.broadcaster <;> rfl

theorem fired_run (b : Board) (ss : List Step) :
    (b.after ss).fired = (b.fired || rings b.broadcaster ss) := by
  induction ss generalizing b with
  | nil => cases hb : b.broadcaster <;> simp [rings, rung]
  | cons s ss ih => rw [after_cons, ih, rings_step]

theorem fired_after (ss : List Step) : (after {} ss).fired = rung ss := fired_run {} ss

theorem fired_step {b : Board} (h : b.fired = true) (s : Step) : (b.step s).2.fired = true := by
  have hrun := fired_run b [s]
  rwa [h, Bool.true_or] at hrun

end Board

end FlowTraffic.Shutdown
