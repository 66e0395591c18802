import FlowTraffic.Proofs.Shutdown.Told

/-!
# How a watcher tells of the signal

A watcher that is asked for the signal says that there is none until it has fired or the broadcaster is
gone, then once that there is, and refuses from then on. A wait is pending and then ready in the same way.
What both have in common is told of two phases that a watcher or a wait goes through (`Phases`), the
second of which begins with the answer that shows the signal.
-/

namespace FlowTraffic.Shutdown

namespace Board

/-! ## What is seen of a run -/

/-- The last of the operations makes the watcher, or there are none and it is the first one. It has told of
the signal already if it is a copy of one that has. -/
inductive Comes : List Step → Nat → Prop → Prop
  | first : Comes [] 0 False
  | registers {before : List Step} {i k : Nat}
      (answer : ((after {} before).step (.register i)).1 = .watcher k) :
      Comes (before ++ [.register i]) k False
  | clones {before : List Step} {i k : Nat}
      (answer : ((after {} before).step (.clone i)).1 = .watcher k) :
      Comes (before ++ [.clone i]) k (Told before i)

/-- What is seen of the operations that come after others, each time with whether the signal had fired by
then or the broadcaster was gone. -/
def moments {α : Type} (see : Step → Answer → Option α) (before : List Step) :
    List Step → List (Bool × α)
  | [] => []
  | s :: ss =>
    ((see s ((after {} before).step s).1).map (rung before, ·)).toList ++
      moments see (before ++ [s]) ss

/-- The answer of a watcher that is there, when it is asked for the signal. -/
def look? (k : Nat) (s : Step) (a : Answer) : Option Answer :=
  if s = .tryRecv k ∧ a ≠ .nothing then some a else none

def poll? (n : Nat) : Step → Answer → Option Poll
  | .pollRecv m, .poll p => if m = n then some p else none
  | .recv _, .wait m p => if m = n then some p else none
  | _, _ => none

/-- One thing is seen for as long as there is no signal, another the first time that there is, and a third
from then on. -/
inductive OnceFired {α : Type} (waiting first later : α) : List (Bool × α) → Prop
  | nil : OnceFired waiting first later []
  | waits {l : List (Bool × α)} (rest : OnceFired waiting first later l) :
      OnceFired waiting first later ((false, waiting) :: l)
  | fires (m : Nat) : OnceFired waiting first later ((true, first) :: List.replicate m (true, later))

/-! ## Before the signal and after it -/

section

variable {α : Type} (see : Step → Answer → Option α) (waiting first later : α)
  (allowed : Step → Prop) (fresh past : Board → Prop)

/-- In the first phase an operation shows nothing, or that there is no signal yet, or it is the first to
show the signal and ends the phase. -/
inductive Shows (b : Board) (s : Step) : Prop
  | nothing (unseen : see s (b.step s).1 = none) (stays : fresh (b.step s).2)
  | waits (unfired : b.fired = false) (seen : see s (b.step s).1 = some waiting)
      (stays : fresh (b.step s).2)
  | fires (fired : b.fired = true) (seen : see s (b.step s).1 = some first) (ends : past (b.step s).2)

/-- What is seen of the signal has two phases, and the second one is never left. -/
structure Phases : Prop where
  fresh (b : Board) (s : Step) (hs : allowed s) (hb : fresh b) : Shows see waiting first fresh past b s
  past (b : Board) (s : Step) (hs : allowed s) (hb : past b) :
    past (b.step s).2 ∧ ∀ x, see s (b.step s).1 = some x → x = later

end

section

variable {α : Type} {see : Step → Answer → Option α} {waiting first later : α}
  {allowed : Step → Prop} {fresh past : Board → Prop} {before rest : List Step}

theorem moments_cons (s : Step) :
    moments see before (s :: rest) =
      ((see s ((after {} before).step s).1).map ((after {} before).fired, ·)).toList ++
        moments see (before ++ [s]) rest := by
  rw [moments, fired_after]

theorem Phases.moments_past (h : Phases see waiting first later allowed fresh past)
    (start : past (after {} before)) (fired : (after {} before).fired = true)
    (hrest : ∀ s ∈ rest, allowed s) :
    ∃ m, moments see before rest = List.replicate m (true, later) := by
  induction rest generalizing before with
  | nil => exact ⟨0, rfl⟩
  | cons s rest ih =>
    obtain ⟨hs, hrest⟩ := List.forall_mem_cons.1 hrest
    obtain ⟨hpast, hlater⟩ := h.past _ s hs start
    have hfired := fired_step fired s
    rw [← after_concat] at hpast hfired
    obtain ⟨m, hm⟩ := ih hpast hfired hrest
    rw [moments_cons, hm, fired]
    cases hsee : see s ((after {} before).step s).1 with
    | none => exact ⟨m, rfl⟩
    | some x =>
      obtain rfl := hlater x hsee
      exact ⟨m + 1, rfl⟩

theorem Phases.onceFired_of_shows (h : Phases see waiting first later allowed fresh past) {s : Step}
    (shows : Shows see waiting first fresh past (after {} before) s) (hrest : ∀ s ∈ rest, allowed s)
    (ih : fresh (after {} (before ++ [s])) →
      OnceFired waiting first later (moments see (before ++ [s]) rest)) :
    OnceFired waiting first later (moments see before (s :: rest)) := by
  rw [after_concat] at ih
  rw [moments_cons]
  cases shows with
  | nothing unseen stays =>
    rw [unseen]
    exact ih stays
  | waits unfired seen stays =>
    rw [seen, unfired]
    exact .waits (ih stays)
  | fires fired seen ends =>
    have hstill := fired_step fired s
    rw [← after_concat] at ends hstill
    obtain ⟨m, hm⟩ := h.moments_past ends hstill hrest
    rw [seen, fired, hm]
    exact .fires m

theorem Phases.onceFired (h : Phases see waiting first later allowed fresh past)
    (start : fresh (after {} before)) (hrest : ∀ s ∈ rest, allowed s) :
    OnceFired waiting first later (moments see before rest) := by
  induction rest generalizing before with
  | nil => exact .nil
  | cons s rest ih =>
    obtain ⟨hs, hrest⟩ := List.forall_mem_cons.1 hrest
    exact h.onceFired_of_shows (h.fresh _ s hs start) hrest fun stays => ih stays hrest

end

/-! ### Watchers that are asked -/

section

variable {b : Board} {s : Step} {k : Nat}

theorem told?_step_or (hk : k < b.watchers.length) (hs : s ≠ .tryRecv k) :
    (b.step s).2.told? k = b.told? k ∨ (b.step s).2.told? k = none := by
  by_cases taken : s.Takes k
  · exact .inr (told?_taken taken)
  · exact .inl (told?_step hk (mt place?_eq_handle_iff.1 (not_or_intro hs taken)))

theorem lt_step (hk : k < b.watchers.length) : k < (b.step s).2.watchers.length :=
  Nat.lt_of_lt_of_le hk (step_change b s).length_watchers.1

theorem look?_phases (k : Nat) :
    Phases (look? k) (.seen false) (.seen true) (.refused .signalReceived) (fun _ => True)
      (fun b => k < b.watchers.length ∧ b.told? k ≠ some true)
      (fun b => k < b.watchers.length ∧ b.told? k ≠ some false) where
  fresh b s _ := by
    rintro ⟨hk, htold⟩
    by_cases hs : s = .tryRecv k
    · subst hs
      have htold' := told?_tryRecv b k
      have hanswer := tryRecv_answer b k
      rcases hx : b.told? k with _ | _ | _ <;> rw [hx] at htold' hanswer
      · exact .nothing (by simp [look?, hanswer]) ⟨lt_step hk, by simp [htold']⟩
      · cases hfired : b.fired with
        | false =>
          exact .waits hfired (by simp [look?, hanswer, hfired]) ⟨lt_step hk, by simp [htold', hfired]⟩
        | true =>
          exact .fires hfired (by simp [look?, hanswer, hfired]) ⟨lt_step hk, by simp [htold', hfired]⟩
      · exact absurd hx htold
    · refine .nothing (if_neg fun h => hs h.1) ⟨lt_step hk, ?_⟩
      rcases told?_step_or hk hs with h | h <;> rw [h]
      · exact htold
      · nofun
  past b s _ := by
    rintro ⟨hk, htold⟩
    by_cases hs : s = .tryRecv k
    · subst hs
      simp only [look?, told?_tryRecv, tryRecv_answer]
      rcases hx : b.told? k with _ | _ | _
      · exact ⟨⟨lt_step hk, nofun⟩, nofun⟩
      · exact absurd hx htold
      · refine ⟨⟨lt_step hk, nofun⟩, ?_⟩
        rintro _ ⟨⟩
        rfl
    · refine ⟨⟨lt_step hk, ?_⟩, fun x hx => ?_⟩
      · rcases told?_step_or hk hs with h | h <;> rw [h]
        · exact htold
        · nofun
      · rw [look?, if_neg fun h => hs h.1] at hx
        cases hx

end

/-! ### Waits that are polled -/

section

variable {b : Board} {s : Step} {n : Nat} {w : Watcher}

theorem poll?_of_ne (hn : n < b.waits.length) (hs : s ≠ .pollRecv n) : poll? n s (b.step s).1 = none := by
  cases s with
  | pollRecv m =>
    simp only [step]
    cases b.wait? m with
    | none => exact if_neg fun h : m = n => hs (congrArg _ h)
    | some wait => exact if_neg fun h : m = n => hs (congrArg _ h)
  | recv i =>
    simp only [step]
    cases b.watcher? i with
    | none => rfl
    | some w => exact if_neg (Nat.ne_of_gt hn)
  | _ => rfl

theorem place?_eq_wait_iff : s.place? = some (.wait n) ↔ s = .pollRecv n ∨ s = .dropRecv n := by
  cases s <;> simp [Step.place?]

theorem follow_wait : b.follow s (.wait n) = .wait n := by
  cases s <;> simp [follow]

theorem pollRecv_eq {wait : Wait} (hwait : b.wait? n = some wait) (hseen : wait.watcher.seen = false) :
    b.step (.pollRecv n) =
      if b.fired then
        (.poll .ready, { b.put none (.wait n) with peers := (wait.watcher.logOff b.peers).2 })
      else (.poll .pending, b.put (some wait.watcher) (.wait n)) := by
  simp only [step, hwait, Option.elim_some, pollRecv, hseen, Bool.false_eq_true, if_false]
  split <;> rfl

theorem poll?_phases (n : Nat) :
    Phases (poll? n) .pending .ready .done (· ≠ .dropRecv n)
      (fun b => ∃ w, b.at? (.wait n) = some w ∧ w.seen = false)
      (fun b => n < b.waits.length ∧ b.at? (.wait n) = none) where
  fresh b s hs := by
    rintro ⟨w, hw, hseen⟩
    have hmade := made_of_at? hw
    by_cases hpoll : s = .pollRecv n
    · subst hpoll
      obtain ⟨wait, hwait, rfl⟩ := Option.map_eq_some_iff.1 hw
      have hstep := pollRecv_eq hwait hseen
      cases hfired : b.fired with
      | false =>
        rw [hfired, if_neg Bool.false_ne_true] at hstep
        refine .waits hfired (by simp [poll?, hstep]) ⟨wait.watcher, ?_, hseen⟩
        rw [hstep, at?_put hmade, if_pos rfl]
      | true =>
        rw [hfired, if_pos rfl] at hstep
        refine .fires hfired (by simp [poll?, hstep]) (hstep ▸ ⟨made_put.2 hmade, ?_⟩)
        exact (at?_congr rfl rfl _).trans ((at?_put (o := none) hmade).trans (if_pos rfl))
    · refine .nothing (poll?_of_ne hmade hpoll) ⟨w, ?_, hseen⟩
      rw [at?_step hmade fun h => (place?_eq_wait_iff.1 h).elim hpoll hs, hw]
  past b s hs := by
    rintro ⟨hmade, hgone⟩
    have hmade' : (b.step s).2.Made (.wait n) := by
      have h := ((step_change b s).traced (p := .wait n) hmade).1
      rwa [follow_wait] at h
    by_cases hpoll : s = .pollRecv n
    · subst hpoll
      have hwait : b.wait? n = none := Option.map_eq_none_iff.1 hgone
      simp only [step, hwait, Option.elim_none] at hmade' ⊢
      refine ⟨⟨hmade, hgone⟩, fun x hx => ?_⟩
      simpa [poll?] using hx.symm
    · refine ⟨⟨hmade', ?_⟩, fun x hx => ?_⟩
      · rw [at?_step (p := .wait n) hmade fun h => (place?_eq_wait_iff.1 h).elim hpoll hs, hgone]
      · rw [poll?_of_ne hmade hpoll] at hx
        cases hx

end

/-! ## All that a watcher tells -/

section

variable {before rest ss : List Step} {k : Nat} {told : Prop}

theorem Comes.told? (h : Comes before k told) :
    ∃ x, (after {} before).told? k = some x ∧ (x = true ↔ told) := by
  cases h with
  | first => exact ⟨false, rfl, by simp⟩
  | registers answer =>
    refine ⟨false, ?_, by simp⟩
    rw [after_concat, told?, register_answer answer]
    rfl
  | @clones before i k answer =>
    obtain ⟨hi, rfl⟩ := clone_answer_iff.1 answer
    obtain ⟨w, hw, -⟩ := Option.map_eq_some_iff.1 (Option.eq_some_of_isSome hi)
    have htold : (after {} before).told? i = some w.seen := congrArg _ hw
    refine ⟨w.seen, ?_, told_iff htold⟩
    simp only [after_concat, step, hw, Option.elim_some, told?_add, if_true]
    rfl

theorem onceFired_recv {s : Step} {later : List Step} (h : (after {} ss).told? k = some false)
    (hs : s = .startRecv k ∨ s = .recv k) (kept : .dropRecv (after {} ss).waits.length ∉ later) :
    OnceFired .pending .ready .done (moments (poll? (after {} ss).waits.length) ss (s :: later)) := by
  obtain ⟨w, hw, hseen⟩ := Option.map_eq_some_iff.1 h
  have hlater : ∀ s ∈ later, s ≠ .dropRecv (after {} ss).waits.length :=
    fun s hs hdrop => kept (hdrop ▸ hs)
  have hstarted : ∃ w', ((after {} ss).startRecv k w).at? (.wait (after {} ss).waits.length) = some w' ∧
      w'.seen = false :=
    ⟨w, (at?_startRecv hw _).trans (if_pos rfl), hseen⟩
  have hphases := poll?_phases (after {} ss).waits.length
  refine hphases.onceFired_of_shows ?_ hlater fun stays => hphases.onceFired stays hlater
  rcases hs with rfl | rfl
  · refine .nothing rfl ?_
    simpa [step, hw] using hstarted
  · -- Receiving shows what the poll of the wait shows that it starts.
    have hshows := hphases.fresh _ (.pollRecv (after {} ss).waits.length) (by simp) hstarted
    have hwait : ((after {} ss).startRecv k w).wait? (after {} ss).waits.length =
        some { watcher := w } := by
      simp [wait?, startRecv]
    have hsame : ((after {} ss).step (.recv k)).2 =
        (((after {} ss).startRecv k w).step (.pollRecv (after {} ss).waits.length)).2 := by
      simp [step, hw, hwait, recv]
    have hseen : poll? (after {} ss).waits.length (.recv k) ((after {} ss).step (.recv k)).1 =
        poll? (after {} ss).waits.length (.pollRecv (after {} ss).waits.length)
          (((after {} ss).startRecv k w).step (.pollRecv (after {} ss).waits.length)).1 := by
      simp [step, hw, hwait, recv, poll?]
    cases hshows with
    | nothing unseen stays => exact .nothing (hseen.trans unseen) (hsame ▸ stays)
    | waits unfired seen stays => exact .waits unfired (hseen.trans seen) (hsame ▸ stays)
    | fires fired seen ends => exact .fires fired (hseen.trans seen) (hsame ▸ ends)

end

/-- **A watcher tells of the signal once.** Asked again and again, it answers that there is none for as
long as the signal has not fired and the broadcaster is there, the next time that there is, and refuses
from then on. A copy of one that had told already refuses from the start. As long as it is in its
holder's hands it answers, and it lets others register for as long as it has not told. A wait that it is
moved into before it has told is ready at the first poll at which the signal has fired or the broadcaster
is gone. -/
theorem tells_once {before rest ss : List Step} {k : Nat} {told : Prop} {now : Board}
    (comes : Comes before k told) (split : before ++ rest = ss) (reached : after {} ss = now) :
    (told → ∃ m, moments (look? k) before rest =
      List.replicate m (true, .refused .signalReceived)) ∧
    (¬ told → OnceFired (.seen false) (.seen true) (.refused .signalReceived)
      (moments (look? k) before rest)) ∧
    ((∀ s ∈ rest, ¬ s.Takes k) →
      (Told ss k → (now.step (.tryRecv k)).1 = .refused .signalReceived ∧
        (now.step (.register k)).1 = .refused .signalReceived) ∧
      (¬ Told ss k → (now.step (.tryRecv k)).1 = .seen (rung ss) ∧
        (now.step (.register k)).1 = .watcher now.watchers.length ∧
        ∀ s, s = .startRecv k ∨ s = .recv k → ∀ later, .dropRecv now.waits.length ∉ later →
          OnceFired .pending .ready .done
            (moments (poll? now.waits.length) ss (s :: later)))) := by
  obtain ⟨x, hx, htold⟩ := comes.told?
  have hmade := lt_of_told? hx
  have hphases := look?_phases k
  subst split reached
  refine ⟨fun h => ?_, fun h => ?_, fun kept => ?_⟩
  · rw [htold.2 h] at hx
    have hfired := ((told_iff hx).1 rfl).fired
    exact hphases.moments_past ⟨hmade, by simp [hx]⟩ hfired fun _ _ => trivial
  · have hfresh : (after {} before).told? k ≠ some true := fun h' =>
      h (htold.1 (Option.some.inj (hx.symm.trans h')))
    exact hphases.onceFired ⟨hmade, hfresh⟩ fun _ _ => trivial
  · obtain ⟨y, hy⟩ := told?_after hx kept
    rw [← after_append] at hy
    have htells := told_iff hy
    rw [tryRecv_answer, register_answer_eq, hy]
    refine ⟨fun h => ?_, fun h => ?_⟩
    · rw [htells.2 h]
      exact ⟨rfl, rfl⟩
    · obtain rfl : y = false := by simpa using fun hy => h (htells.1 hy)
      refine ⟨?_, rfl, fun s hs later kept => onceFired_recv hy hs kept⟩
      rw [← fired_after]

/-- A copy is asked before the signal and after it, and is copied in turn. -/
def relayed : List Step :=
  [.clone 0, .tryRecv 1, .signal, .tryRecv 1, .clone 1, .tryRecv 1, .tryRecv 2]

theorem tells_once_relayed :
    OnceFired (.seen false) (.seen true) (.refused .signalReceived)
        (moments (look? 1) (relayed.take 1) (relayed.drop 1)) ∧
      moments (look? 1) (relayed.take 1) (relayed.drop 1) =
        [(false, .seen false), (true, .seen true), (true, .refused .signalReceived)] ∧
      (∃ m, moments (look? 2) (relayed.take 5) (relayed.drop 5) =
        List.replicate m (true, .refused .signalReceived)) ∧
      ((after {} relayed).step (.register 1)).1 = .refused .signalReceived ∧
      ((after {} relayed).step (.register 0)).1 = .watcher 3 ∧
      OnceFired .pending .ready .done (moments (poll? 0) relayed [.startRecv 0, .pollRecv 0]) := by
  have hfirst : Told relayed 1 := .answers (relayed.take 3) rfl rfl
  have hrelays : Told (relayed.take 4) 1 := .answers (relayed.take 3) rfl rfl
  have hboard : (after {} relayed).told? 0 = some false := rfl
  have hunasked : ¬ Told relayed 0 := fun h => Bool.false_ne_true ((told_iff hboard).2 h)
  have hcopy : Comes ([] ++ [.clone 0]) 1 (Told [] 0) := .clones rfl
  have hcopy' : Comes (relayed.take 4 ++ [.clone 1]) 2 (Told (relayed.take 4) 1) := .clones rfl
  have hsplit : [] ++ [.clone 0] ++ relayed.drop 1 = relayed := rfl
  have hsplit' : relayed.take 4 ++ [.clone 1] ++ relayed.drop 5 = relayed := rfl
  obtain ⟨-, honce, hnow⟩ := tells_once hcopy hsplit rfl
  obtain ⟨hrefuses, -, -⟩ := tells_once hcopy' hsplit' rfl
  obtain ⟨-, -, hzero⟩ := tells_once .first (List.nil_append relayed) rfl
  obtain ⟨-, hregisters, hwaits⟩ := (hzero (by simp [relayed, Step.Takes])).2 hunasked
  refine ⟨honce not_told_nil, by decide, hrefuses hrelays, ?_, hregisters,
    hwaits _ (.inl rfl) _ (by decide)⟩
  exact ((hnow (by simp [relayed, Step.Takes])).1 hfirst).2

end Board

end FlowTraffic.Shutdown
