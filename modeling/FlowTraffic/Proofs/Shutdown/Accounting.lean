import FlowTraffic.Proofs.Shutdown.Steps
import Mathlib.Data.List.Infix

/-!
# The count of peers

The count is the number of watchers that are registered, still there and not logged off (`Sound`). A
watcher is followed from where it comes up to the end of a run, through the wait it may be moved into,
and what it takes from the count on its way is added up (`decrements`): one for a registered watcher
that is gone or has seen the signal, and nothing for any other.
-/

namespace FlowTraffic.Shutdown

namespace Board

/-- How many watchers there are, in somebody's hands or inside a wait. -/
def live (b : Board) : Nat := b.watchers.countP Option.isSome + b.waits.countP Option.isSome

/-- There are fewer than 2³² watchers at any time of a run. -/
def Roomy (b : Board) (ss : List Step) : Prop :=
  ∀ pre, pre <+: ss → (b.after pre).live < UInt32.size

instance (b : Board) (ss : List Step) : Decidable (b.Roomy ss) :=
  decidable_of_iff (∀ pre ∈ ss.inits, (b.after pre).live < UInt32.size) (by simp [Roomy])

/-- What holds of every board that a run reaches. -/
structure Sound (b : Board) : Prop where
  peers : b.peers.toNat = b.standing
  /-- A registered watcher logs off as it sees the signal, and not before. -/
  seen : ∀ p w, b.at? p = some w → w.registered = true → w.loggedOff = w.seen

/-- What an operation takes from the count for the watcher at a place. -/
def lowered (b b' : Board) (s : Step) (p : Place) : Nat :=
  if s.place? = some p then b.peers.toNat - b'.peers.toNat else 0

/-- What a run takes from the count for the watcher that is at a place when the run starts. -/
def decrements (b : Board) (p : Place) : List Step → Nat
  | [] => 0
  | s :: ss => b.lowered (b.step s).2 s p + (b.step s).2.decrements (b.follow s p) ss

/-- Where a run brings the watcher that is at a place when the run starts. -/
def whereabouts (b : Board) (p : Place) : List Step → Place
  | [] => p
  | s :: ss => (b.step s).2.whereabouts (b.follow s p) ss

/-- What an operation makes of the watcher at a place: it keeps it as it is, if only moved, or takes it
out of the count. -/
inductive Traced (b : Board) (s : Step) (b' : Board) (p : Place) : Prop
  | keeps (same : b'.at? (b.follow s p) = b.at? p) (quiet : s.place? = some p → b'.peers = b.peers)
  | settles {w : Watcher} (there : b.at? p = some w) (about : s.place? = some p)
      (peers : b'.peers = (w.logOff b.peers).2)
      (settled : ∀ w', b'.at? (b.follow s p) = some w' →
        w' = { (w.logOff b.peers).1 with seen := true })

def PollsWait (b : Board) : Step → Prop
  | .pollWait => b.broadcaster = .waiting
  | .signalAndWait => b.broadcaster = .idle
  | _ => False

/-- In a run from the start, watcher `k` comes up, registered or not, on the board `b`, and the
operations `rest` follow. -/
inductive Born (ss : List Step) : Bool → Nat → Board → List Step → Prop
  | first : Born ss true 0 {} ss
  | registers (before : List Step) (i : Nat) {rest : List Step} {k : Nat}
      (split : before ++ .register i :: rest = ss)
      (answer : ((after {} before).step (.register i)).1 = .watcher k) :
      Born ss true k ((after {} before).step (.register i)).2 rest
  | clones (before : List Step) (i : Nat) {rest : List Step} {k : Nat}
      (split : before ++ .clone i :: rest = ss)
      (answer : ((after {} before).step (.clone i)).1 = .watcher k) :
      Born ss false k ((after {} before).step (.clone i)).2 rest

theorem standing_le_live (b : Board) : b.standing ≤ b.live := by
  refine Nat.add_le_add (List.countP_mono_left fun o _ h => ?_) (List.countP_mono_left fun o _ h => ?_)
  · cases o <;> simp_all
  · cases o <;> simp_all

theorem logOff_peers {w : Watcher} {peers : UInt32} (h : stand (some w) ≤ peers.toNat) :
    (w.logOff peers).2.toNat + stand (some w) = peers.toNat := by
  unfold stand at h ⊢
  cases hcounts : w.counts with
  | false => simp [Watcher.logOff, hcounts]
  | true =>
    simp only [Option.any_some, hcounts, if_true] at h ⊢
    have hne : peers ≠ 0 := by
      rintro rfl
      exact absurd h (by decide)
    have hsub : (peers - 1).toNat = peers.toNat - 1 :=
      UInt32.toNat_sub_of_le _ _ (by simpa [UInt32.le_iff_toNat_le] using h)
    simp only [Watcher.logOff, hcounts, if_true, if_neg hne, hsub]
    omega

/-! ## One operation -/

section

variable {b b' : Board} {s : Step} {p : Place}

theorem Sound.logOff (h : Sound b) {w : Watcher} (hw : b.at? p = some w) :
    (w.logOff b.peers).2.toNat + stand (some w) = b.peers.toNat :=
  logOff_peers (by rw [h.peers, ← hw]; exact stand_le_standing b p)

theorem stand_settled {w : Watcher} {peers : UInt32} {o : Option Watcher}
    (h : ∀ w', o = some w' → w' = { (w.logOff peers).1 with seen := true }) : stand o = 0 := by
  cases o with
  | none => rfl
  | some w' =>
    rw [h w' rfl]
    unfold Watcher.logOff
    cases hcounts : w.counts with
    | false => simpa [stand, Watcher.counts] using hcounts
    | true => simp [stand, Watcher.counts]

theorem Sound.stand_registered (h : Sound b)
    (hreg : ∀ w, b.at? p = some w → w.registered = true) :
    stand (b.at? p) + (if (b.at? p).all Watcher.seen then 1 else 0) = 1 := by
  cases hp : b.at? p with
  | none => rfl
  | some w =>
    have hlogged := h.seen p w hp (hreg w hp)
    cases hseen : w.seen <;> simp [stand, Watcher.counts, hreg w hp, hlogged, hseen]

theorem Sound.add {w : Watcher} (hpeers : b.peers.toNat = b.standing + stand (some w))
    (hseen : ∀ p w, b.at? p = some w → w.registered = true → w.loggedOff = w.seen)
    (hw : w.registered = true → w.loggedOff = w.seen) : Sound (b.add w).2 := by
  refine ⟨hpeers.trans (standing_add b w).symm, fun p w' hp => ?_⟩
  rw [at?_add] at hp
  split at hp
  · cases hp
    exact hw
  · exact hseen p w' hp

theorem Sound.startRecv (h : Sound b) {i : Nat} {w : Watcher} (hw : b.watcher? i = some w) :
    Sound (b.startRecv i w) := by
  refine ⟨h.peers.trans (standing_startRecv hw).symm, fun q w' hq => ?_⟩
  rw [at?_startRecv hw] at hq
  split at hq
  · cases hq
    exact h.seen (.handle i) w hw
  split at hq
  · cases hq
  · exact h.seen q w' hq

theorem Sound.put (h : Sound b) {w : Watcher} {o : Option Watcher} (hw : b.at? p = some w)
    {peers : UInt32} (hpeers : peers.toNat = (b.put o p).standing)
    (ho : ∀ w', o = some w' → w'.registered = true → w'.loggedOff = w'.seen) :
    Sound { b.put o p with peers } := by
  refine ⟨hpeers, fun q w' hq => ?_⟩
  have hq : (b.put o p).at? q = some w' := (at?_congr rfl rfl q).symm.trans hq
  rw [at?_put (made_of_at? hw)] at hq
  split at hq
  · exact ho w' hq
  · exact h.seen q w' hq

/-- **An operation keeps the count right**, as long as there is room to count every watcher. -/
theorem Sound.change (h : Sound b) (hc : Change b s b') (few : b'.live < UInt32.size) : Sound b' := by
  induction hc with
  | quiet hwatchers hwaits hpeers _ =>
    refine ⟨?_, fun p w hp => h.seen p w (by rwa [at?_congr hwatchers hwaits] at hp)⟩
    rw [hpeers, h.peers]
    simp only [standing, hwatchers, hwaits]
  | @joins b i w _ _ =>
    -- The new watcher is counted among the live ones, so that the count does not wrap.
    have hroom := Nat.lt_of_le_of_lt (standing_le_live _) few
    rw [standing_add] at hroom
    have hpeers : (b.peers + 1).toNat = b.peers.toNat + 1 := by
      rw [UInt32.toNat_add]
      exact Nat.mod_eq_of_lt (by rw [h.peers]; exact hroom)
    refine .add (hpeers.trans (congrArg (· + 1) h.peers)) (fun p w hp => ?_) fun _ => rfl
    exact h.seen p w ((at?_congr rfl rfl p).symm.trans hp)
  | copies _ => exact .add h.peers h.seen (by simp [Watcher.copy])
  | moves hw => exact h.startRecv hw
  | receives hw _ ih => exact ih (h.startRecv hw) few
  | @waits b n w hw =>
    have hput := standing_put (o := some w) hw
    refine h.put hw (h.peers.trans (by omega)) ?_
    rintro _ ⟨⟩
    exact h.seen _ w hw
  | @leaves b s p w o _ hw _ settled =>
    have hput := standing_put (o := o) hw
    have hoff := h.logOff hw
    have hgone := stand_settled settled
    have hpeers := h.peers
    refine h.put hw (by omega) ?_
    rintro w' rfl hreg
    simp_all [stand, Watcher.counts]

theorem made_add (hp : b.Made p) (w : Watcher) : (b.add w).2.Made p := by
  cases p with
  | handle j => exact Nat.lt_of_lt_of_le hp (by simp [add])
  | wait n => exact hp

theorem at?_add_of_made (hp : b.Made p) (w : Watcher) : (b.add w).2.at? p = b.at? p := by
  rw [at?_add, if_neg]
  rintro rfl
  exact Nat.lt_irrefl _ hp

theorem Made.ne_wait (hp : b.Made p) : p ≠ .wait b.waits.length := by
  rintro rfl
  exact Nat.lt_irrefl _ hp

theorem follow_startRecv_self {i : Nat} {w : Watcher} (hw : b.watcher? i = some w) :
    b.follow (.startRecv i) (.handle i) = .wait b.waits.length := by
  simp [follow, hw]

theorem follow_startRecv_of_ne {i : Nat} (h : p ≠ .handle i) : b.follow (.startRecv i) p = p := by
  simp [follow, h]

theorem startRecv_traced {i : Nat} {w : Watcher} (hw : b.watcher? i = some w) (hp : b.Made p) :
    (b.startRecv i w).Made (b.follow (.startRecv i) p) ∧
      (b.startRecv i w).at? (b.follow (.startRecv i) p) = b.at? p := by
  rw [at?_startRecv hw]
  by_cases hpi : p = .handle i
  · subst hpi
    rw [follow_startRecv_self hw, if_pos rfl]
    exact ⟨by simp [Made, startRecv], hw.symm⟩
  · rw [follow_startRecv_of_ne hpi, if_neg hp.ne_wait, if_neg hpi]
    refine ⟨?_, rfl⟩
    cases p with
    | handle j => simpa [Made, startRecv] using hp
    | wait n => exact Nat.lt_of_lt_of_le hp (by simp [startRecv])

theorem Change.traced (hc : Change b s b') (hp : b.Made p) :
    b'.Made (b.follow s p) ∧ Traced b s b' p := by
  induction hc generalizing p with
  | @quiet b b' s hwatchers hwaits hpeers stays =>
    rw [stays]
    refine ⟨?_, .keeps (by rw [stays, at?_congr hwatchers hwaits]) fun _ => hpeers⟩
    cases p <;> simpa only [Made, hwatchers, hwaits] using hp
  | @joins b i w _ _ =>
    have hp : ({ b with peers := b.peers + 1 } : Board).Made p := hp
    exact ⟨made_add hp {}, .keeps ((at?_add_of_made hp {}).trans (at?_congr rfl rfl p)) (by simp [Step.place?])⟩
  | copies _ => exact ⟨made_add hp _, .keeps (at?_add_of_made hp _) (by simp [Step.place?])⟩
  | moves hw =>
    obtain ⟨hmade, hat⟩ := startRecv_traced hw hp
    exact ⟨hmade, .keeps hat fun _ => rfl⟩
  | @receives b b' i w hw _ ih =>
    obtain ⟨hmade, hat⟩ := startRecv_traced hw hp
    -- The wait that is polled is where the watcher has just come from the handle.
    have hplace : Step.place? (.recv i) = some p ↔
        Step.place? (.pollRecv b.waits.length) = some (b.follow (.startRecv i) p) := by
      by_cases hpi : p = .handle i
      · subst hpi
        simp [follow_startRecv_self hw, Step.place?]
      · simp [follow_startRecv_of_ne hpi, Step.place?, Ne.symm hpi, Ne.symm hp.ne_wait]
    obtain ⟨hmade', htraced⟩ := ih hmade
    refine ⟨hmade', ?_⟩
    cases htraced with
    | keeps same quiet => exact .keeps (same.trans hat) fun h => quiet (hplace.1 h)
    | settles there about peers settled => exact .settles (hat ▸ there) (hplace.2 about) peers settled
  | @waits b n w hw =>
    refine ⟨made_put.2 hp, .keeps ?_ fun _ => rfl⟩
    change (b.put (some w) (.wait n)).at? p = b.at? p
    rw [at?_put (made_of_at? hw)]
    split
    · subst p
      exact hw.symm
    · rfl
  | @leaves b s q w o about hw stays settled =>
    refine ⟨by rw [stays]; exact made_put.2 hp, ?_⟩
    have hat : ({ b.put o q with peers := (w.logOff b.peers).2 } : Board).at? (b.follow s p) =
        if p = q then o else b.at? p := by
      rw [stays]
      exact (at?_congr rfl rfl p).trans (at?_put (made_of_at? hw))
    by_cases hpq : p = q
    · rw [if_pos hpq] at hat
      subst q
      exact .settles hw about rfl fun w' hw' => settled w' (hat.symm.trans hw')
    · rw [if_neg hpq] at hat
      refine .keeps hat fun h => ?_
      rw [about] at h
      exact absurd (Option.some.inj h).symm hpq

theorem Sound.lowered_add (h : Sound b) (hp : b.Made p) :
    b.lowered (b.step s).2 s p + stand ((b.step s).2.at? (b.follow s p)) = stand (b.at? p) := by
  unfold lowered
  cases ((step_change b s).traced hp).2 with
  | keeps same quiet =>
    rw [same]
    split
    · rw [quiet ‹_›]
      omega
    · omega
  | settles there about peers settled =>
    have hoff := h.logOff there
    rw [if_pos about, peers, stand_settled settled, there]
    omega

theorem registered_of_step (hp : b.Made p) {w' : Watcher}
    (hw' : (b.step s).2.at? (b.follow s p) = some w') :
    ∃ w, b.at? p = some w ∧ w.registered = w'.registered := by
  cases ((step_change b s).traced hp).2 with
  | keeps same quiet => exact ⟨w', same ▸ hw', rfl⟩
  | @settles w there about peers settled =>
    refine ⟨w, there, ?_⟩
    rw [settled w' hw']
    unfold Watcher.logOff
    split <;> rfl

end

/-! ## A run -/

section

variable {b : Board} {p : Place}

theorem Sound.start : Sound {} := by
  refine ⟨rfl, fun p w hp _ => ?_⟩
  match p with
  | .handle 0 =>
    obtain rfl : {} = w := by simpa [at?, watcher?] using hp
    rfl
  | .handle (_ + 1) => simp [at?, watcher?] at hp
  | .wait n => simp [at?, wait?] at hp

theorem Roomy.head {s : Step} {ss : List Step} (h : b.Roomy (s :: ss)) :
    (b.step s).2.live < UInt32.size :=
  h [s] (by simp)

theorem Roomy.tail {s : Step} {ss : List Step} (h : b.Roomy (s :: ss)) : (b.step s).2.Roomy ss :=
  fun pre hpre => h (s :: pre) (by simpa using hpre)

theorem Roomy.of_append {ss ss' : List Step} (h : b.Roomy (ss ++ ss')) :
    b.Roomy ss ∧ (b.after ss).Roomy ss' := by
  refine ⟨fun pre hpre => h pre (hpre.trans (List.prefix_append ss ss')), fun pre hpre => ?_⟩
  rw [← after_append]
  exact h (ss ++ pre) ((List.prefix_append_right_inj ss).2 hpre)

theorem Sound.run (h : Sound b) {ss : List Step} (few : b.Roomy ss) : Sound (b.after ss) := by
  induction ss generalizing b with
  | nil => exact h
  | cons s ss ih => exact ih (h.change (step_change b s) few.head) few.tail

theorem Sound.decrements_add (h : Sound b) (hp : b.Made p) {ss : List Step} (few : b.Roomy ss) :
    b.decrements p ss + stand ((b.after ss).at? (b.whereabouts p ss)) = stand (b.at? p) := by
  -- The place is generalized too: the watcher may be moved on the way.
  induction ss generalizing b p with
  | nil => exact Nat.zero_add _
  | cons s ss ih =>
    have hstep := h.lowered_add (s := s) hp
    have hrest := ih (h.change (step_change b s) few.head) ((step_change b s).traced hp).1 few.tail
    simp only [decrements, whereabouts, after_cons]
    omega

theorem registered_of_run (hp : b.Made p) {ss : List Step} {w' : Watcher}
    (hw' : (b.after ss).at? (b.whereabouts p ss) = some w') :
    ∃ w, b.at? p = some w ∧ w.registered = w'.registered := by
  induction ss generalizing b p with
  | nil => exact ⟨w', hw', rfl⟩
  | cons s ss ih =>
    obtain ⟨w₁, hw₁, hreg⟩ := ih ((step_change b s).traced hp).1 hw'
    obtain ⟨w, hw, hreg'⟩ := registered_of_step hp hw₁
    exact ⟨w, hw, hreg'.trans hreg⟩

theorem add_answer {w : Watcher} {k : Nat} (h : (b.add w).1 = .watcher k) :
    (b.add w).2.watcher? k = some w := by
  cases h
  exact (at?_add b w (.handle _)).trans (if_pos rfl)

theorem register_answer {i k : Nat} (h : (b.step (.register i)).1 = .watcher k) :
    (b.step (.register i)).2.watcher? k = some {} := by
  simp only [step] at h ⊢
  cases hw : b.watcher? i with
  | none => simp [hw] at h
  | some w =>
    simp only [hw, Option.elim_some, register, Watcher.register] at h ⊢
    cases hseen : w.seen with
    | true => simp [hseen] at h
    | false =>
      simp only [hseen] at h ⊢
      exact add_answer h

theorem clone_answer {i k : Nat} (h : (b.step (.clone i)).1 = .watcher k) :
    ∃ w, (b.step (.clone i)).2.watcher? k = some (Watcher.copy w) := by
  simp only [step] at h ⊢
  cases hw : b.watcher? i with
  | none => simp [hw] at h
  | some w =>
    simp only [hw, Option.elim_some] at h ⊢
    exact ⟨w, add_answer h⟩

theorem Born.split {ss rest : List Step} {registered : Bool} {k : Nat}
    (h : Born ss registered k b rest) :
    ∃ pre w, pre ++ rest = ss ∧ after {} pre = b ∧ b.at? (.handle k) = some w ∧
      w.registered = registered ∧ w.counts = registered := by
  cases h with
  | first => exact ⟨[], {}, rfl, rfl, rfl, rfl, rfl⟩
  | registers before i hsplit answer =>
    exact ⟨before ++ [.register i], {}, by simpa using hsplit, by simp [after_append],
      register_answer answer, rfl, rfl⟩
  | clones before i hsplit answer =>
    obtain ⟨w, hw⟩ := clone_answer answer
    exact ⟨before ++ [.clone i], w.copy, by simpa using hsplit, by simp [after_append], hw, rfl, rfl⟩

/-- A watcher that comes up registered has taken one from the count by the time it is gone or has seen
the signal, and a copy never takes any. -/
theorem Born.decrements_eq {ss rest : List Step} {registered : Bool} {k : Nat}
    (h : Born ss registered k b rest) (few : Roomy {} ss) :
    b.decrements (.handle k) rest =
      if registered ∧ ((after {} ss).at? (b.whereabouts (.handle k) rest)).all Watcher.seen
      then 1 else 0 := by
  obtain ⟨pre, w, rfl, rfl, hw, hreg, hcounts⟩ := h.split
  obtain ⟨hpre, hrest⟩ := few.of_append
  have hmade := made_of_at? hw
  have hsum := (Sound.start.run hpre).decrements_add hmade hrest
  rw [hw, ← after_append] at hsum
  cases registered with
  | false =>
    have hstand : stand (some w) = 0 := by simp [stand, hcounts]
    rw [if_neg (by simp)]
    omega
  | true =>
    have hstand : stand (some w) = 1 := by simp [stand, hcounts]
    have hlast := (Sound.start.run few).stand_registered
      (p := whereabouts (after {} pre) (.handle k) rest) fun w' hw' => by
        rw [after_append] at hw'
        obtain ⟨w₀, hw₀, hreg'⟩ := registered_of_run hmade hw'
        rw [hw] at hw₀
        cases hw₀
        exact hreg'.symm.trans hreg
    simp only [true_and]
    omega

theorem Sound.peers_eq_zero_iff (h : Sound b) :
    b.peers = 0 ↔ ∀ p w, b.at? p = some w → w.registered = true → w.seen = true := by
  have hzero : b.peers = 0 ↔ b.standing = 0 := by
    rw [← h.peers]
    exact UInt32.toNat_inj.symm
  rw [hzero, standing_eq_zero_iff]
  refine forall_congr' fun p => forall_congr' fun w => forall_congr' fun hp => ?_
  have hseen := h.seen p w hp
  unfold Watcher.counts
  cases hreg : w.registered with
  | false => simp
  | true => simp [hseen hreg]

theorem step_ready_iff {s : Step} (h : b.PollsWait s) :
    (b.step s).1 = .poll .ready ↔ b.peers = 0 := by
  cases s with
  | pollWait =>
    simp only [PollsWait] at h
    simp only [step, pollWait, h]
    split <;> simp_all
  | signalAndWait =>
    simp only [PollsWait] at h
    simp only [step, pollWait, h, if_true]
    split <;> simp_all
  | _ => exact h.elim

end

/-- **Every registered watcher is counted once.** The count is the number of watchers that are
registered, still there and not logged off. One of them that logs off takes exactly one from it. A
watcher that came up registered has taken one from it when it is gone or has seen the signal, and
otherwise nothing. And the broadcaster's wait is over at a poll if and only if every registered watcher
that is still there has seen the signal. -/
theorem peers_accounted {ss : List Step} {b : Board} (reached : after {} ss = b) (few : Roomy {} ss) :
    b.peers.toNat = b.standing ∧
      (∀ p w, b.at? p = some w → w.counts = true →
        (w.logOff b.peers).2.toNat + 1 = b.peers.toNat) ∧
      (∀ registered k b₀ rest, Born ss registered k b₀ rest →
        b₀.decrements (.handle k) rest =
          if registered ∧ (b.at? (b₀.whereabouts (.handle k) rest)).all Watcher.seen then 1 else 0) ∧
      ∀ s, b.PollsWait s → ((b.step s).1 = .poll .ready ↔
        ∀ p w, b.at? p = some w → w.registered = true → w.seen = true) := by
  subst reached
  have hsound := Sound.start.run few
  refine ⟨hsound.peers, fun p w hw hcounts => ?_, fun registered k b₀ rest hborn => ?_, fun s hs => ?_⟩
  · simpa [stand, hcounts] using hsound.logOff hw
  · exact hborn.decrements_eq few
  · exact (step_ready_iff hs).trans hsound.peers_eq_zero_iff

/-- A watcher registers, the new one is copied and waits, and both see the signal that the broadcaster
waits for. -/
def drained : List Step :=
  [.register 0, .clone 1, .startRecv 1, .startWait, .pollWait, .pollRecv 0, .tryRecv 0]

theorem peers_accounted_drained :
    Roomy {} drained ∧
      (after {} drained).peers.toNat = (after {} drained).standing ∧
      decrements {} (.handle 0) drained = 1 ∧
      (after {} (drained.take 1)).decrements (.handle 1) (drained.drop 1) = 1 ∧
      (after {} (drained.take 2)).decrements (.handle 2) (drained.drop 2) = 0 ∧
      ∀ p w, (after {} drained).at? p = some w → w.registered = true → w.seen = true := by
  have few : Roomy {} drained := by decide
  obtain ⟨hpeers, -, htaken, hready⟩ := peers_accounted rfl few
  refine ⟨few, hpeers, (htaken true 0 {} _ .first).trans (by decide),
    (htaken true 1 _ _ (.registers [] 0 rfl rfl)).trans (by decide),
    (htaken false 2 _ _ (.clones [.register 0] 1 rfl rfl)).trans (by decide),
    (hready .pollWait rfl).1 (by decide)⟩

end Board

end FlowTraffic.Shutdown
