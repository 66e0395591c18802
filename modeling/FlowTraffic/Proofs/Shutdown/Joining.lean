import FlowTraffic.Proofs.Shutdown.Accounting

/-!
# Joining after the wait

Once the broadcaster's wait is over, no peer is left. A watcher refuses to register another one when it
has seen the signal itself, and that the signal has fired is not enough for that. So the count stays at
zero until a watcher that has not looked yet registers another one, and no longer.
-/

namespace FlowTraffic.Shutdown

namespace Board

variable {b b' : Board} {s : Step}

theorem logOff_zero (w : Watcher) : (w.logOff 0).2 = 0 := by
  unfold Watcher.logOff
  split <;> rfl

theorem Change.peers_eq_zero (hc : Change b s b') (h : b.peers = 0) (hs : ∀ i, s ≠ .register i) :
    b'.peers = 0 := by
  induction hc with
  | quiet _ _ hpeers _ => exact hpeers.trans h
  | @joins _ i _ _ _ => exact absurd rfl (hs i)
  | copies _ => exact h
  | moves _ => exact h
  | receives _ _ ih => exact ih h nofun
  | waits _ => exact h
  | leaves _ _ _ _ =>
    simp only [h]
    exact logOff_zero _

theorem peers_register (h : b.peers = 0) (i : Nat) :
    (b.step (.register i)).2.peers = 0 ↔ ∀ w, b.watcher? i = some w → w.seen = true := by
  simp only [step]
  cases hw : b.watcher? i with
  | none => simpa using h
  | some w => cases hseen : w.seen <;> simp [register, Watcher.register, add, h, hseen]

/-- With no peer left, an operation brings one if and only if it asks a watcher to register another one
that has not seen the signal. -/
theorem peers_step (h : b.peers = 0) (s : Step) :
    (b.step s).2.peers = 0 ↔
      ∀ i w, s = .register i → b.watcher? i = some w → w.seen = true := by
  by_cases hs : ∃ i, s = .register i
  · obtain ⟨i, rfl⟩ := hs
    rw [peers_register h]
    exact ⟨fun hseen _ w hi => by cases hi; exact hseen w, fun hseen w => hseen i w rfl⟩
  · refine iff_of_true ((step_change b s).peers_eq_zero h fun i hi => hs ⟨i, hi⟩) ?_
    exact fun i _ hi => absurd ⟨i, hi⟩ hs

theorem peers_run (h : b.peers = 0) (ss : List Step) :
    (∀ pre, pre <+: ss → (b.after pre).peers = 0) ↔
      ∀ before i rest w, before ++ .register i :: rest = ss →
        (b.after before).watcher? i = some w → w.seen = true := by
  induction ss generalizing b with
  | nil => simpa using h
  | cons s ss ih =>
    constructor
    · intro hzero before i rest w hsplit hw
      have hs : (b.step s).2.peers = 0 := hzero [s] (by simp)
      cases before with
      | nil =>
        obtain ⟨rfl, -⟩ := List.cons.inj hsplit
        exact (peers_step h _).1 hs i w rfl hw
      | cons s' before =>
        obtain ⟨rfl, hrest⟩ := List.cons.inj hsplit
        refine (ih hs).1 (fun pre hpre => ?_) before i rest w hrest hw
        exact hzero (s' :: pre) (by simpa using hpre)
    · intro hseen pre hpre
      have hs : (b.step s).2.peers = 0 :=
        (peers_step h s).2 fun i w hi hw => hseen [] i ss w (by rw [hi]; rfl) hw
      cases pre with
      | nil => exact h
      | cons s' pre =>
        obtain ⟨rfl, hrest⟩ := List.cons_prefix_cons.1 hpre
        refine (ih hs).2 (fun before i rest w hsplit hw => ?_) pre hrest
        exact hseen (s' :: before) i rest w (by rw [← hsplit]; rfl) hw

/-- **No peer joins after the wait, but for watchers that have not looked.** Once a poll of the
broadcaster's wait is ready, the count is zero in every later state if and only if whoever is asked to
register a watcher has seen the signal itself by then. -/
theorem peers_after_wait {before : List Step} {s : Step} (polls : (after {} before).PollsWait s)
    (ready : ((after {} before).step s).1 = .poll .ready) (ss : List Step) :
    (∀ pre, pre <+: ss → (((after {} before).step s).2.after pre).peers = 0) ↔
      ∀ done i rest w, done ++ .register i :: rest = ss →
        (((after {} before).step s).2.after done).watcher? i = some w → w.seen = true := by
  have hzero : (after {} before).peers = 0 := (step_ready_iff polls).1 ready
  refine peers_run ((step_change _ s).peers_eq_zero hzero ?_) ss
  rintro i rfl
  exact polls

theorem peers_after_wait_looked :
    (after {} [.clone 0, .drop 0]).PollsWait .signalAndWait ∧
      ((after {} [.clone 0, .drop 0]).step .signalAndWait).1 = .poll .ready ∧
      ∀ pre, pre <+: [.tryRecv 1, .register 1] →
        (((after {} [.clone 0, .drop 0]).step .signalAndWait).2.after pre).peers = 0 := by
  have polls : (after {} [.clone 0, .drop 0]).PollsWait .signalAndWait := rfl
  refine ⟨polls, by decide, (peers_after_wait polls (by decide) _).2 ?_⟩
  rintro (_ | ⟨_, _ | ⟨_, done⟩⟩) i rest w hsplit hw
  · cases hsplit
  · cases hsplit
    cases hw
    rfl
  · simp at hsplit

/-- The copy is asked before it looks, and a peer joins. -/
theorem peers_after_wait_unlooked :
    ((after {} [.clone 0, .drop 0]).step .signalAndWait).1 = .poll .ready ∧
      ((after {} [.clone 0, .drop 0, .signalAndWait]).step (.register 1)).1 = .watcher 2 ∧
      (after {} [.clone 0, .drop 0, .signalAndWait, .register 1]).peers = 1 := by
  decide

end Board

end FlowTraffic.Shutdown
