import FlowTraffic.Proofs.Runs
import FlowTraffic.Shutdown
import Mathlib.Data.List.Basic

/-!
# What an operation does to the watchers

A watcher is in somebody's hands or inside a wait. Every operation either leaves all watchers and the
count alone, or makes a watcher, or moves one into a wait, or ends or settles the one that it is about
(`Change`). What holds of every board is shown from these cases.
-/

namespace FlowTraffic.Shutdown

inductive Place
  | handle (number : Nat)
  | wait (number : Nat)
  deriving DecidableEq, Repr

/-- The watcher that an operation may end or settle. -/
def Step.place? : Step → Option Place
  | .drop i | .tryRecv i | .startRecv i | .recv i => some (.handle i)
  | .pollRecv n | .dropRecv n => some (.wait n)
  | _ => none

/-- 1 for a watcher that stands in the count of peers. -/
def stand (w : Option Watcher) : Nat := if w.any Watcher.counts then 1 else 0

namespace Board

/-- The watcher at a place. -/
def at? (b : Board) : Place → Option Watcher
  | .handle i => b.watcher? i
  | .wait n => (b.wait? n).map Wait.watcher

def after (b : Board) (ss : List Step) : Board := (b.run ss).2

/-- Somebody has been at the place, so that it is never given again. -/
def Made (b : Board) : Place → Prop
  | .handle i => i < b.watchers.length
  | .wait n => n < b.waits.length

/-- How many watchers are registered, in somebody's hands or inside a wait, and have not logged off. -/
def standing (b : Board) : Nat :=
  b.watchers.countP (·.any Watcher.counts) + b.waits.countP (·.any (·.watcher.counts))

/-- The board with another watcher at a place, or with none. -/
def put (b : Board) (w : Option Watcher) : Place → Board
  | .handle i => { b with watchers := b.watchers.set i w }
  | .wait n => { b with waits := b.waits.set n (w.map (⟨·, true⟩)) }

@[simp]
theorem after_nil (b : Board) : b.after [] = b := rfl

@[simp]
theorem after_cons (b : Board) (s : Step) (ss : List Step) :
    b.after (s :: ss) = (b.step s).2.after ss := rfl

theorem after_append (b : Board) (ss ss' : List Step) :
    b.after (ss ++ ss') = (b.after ss).after ss' := by
  induction ss generalizing b with
  | nil => rfl
  | cons s ss ih => exact ih (b.step s).2

/-! ## Watchers and places -/

section

variable {b : Board} {p q : Place} {w : Watcher} {o : Option Watcher}

theorem watcher?_eq_some_iff {i : Nat} : b.watcher? i = some w ↔ b.watchers[i]? = some (some w) := by
  simp [watcher?, Option.join_eq_some_iff]

theorem wait?_eq_some_iff {n : Nat} {wait : Wait} :
    b.wait? n = some wait ↔ b.waits[n]? = some (some wait) := by
  simp [wait?, Option.join_eq_some_iff]

theorem made_of_at? (h : b.at? p = some w) : b.Made p := by
  cases p with
  | handle i => exact (List.getElem?_eq_some_iff.1 (watcher?_eq_some_iff.1 h)).1
  | wait n =>
    obtain ⟨wait, hwait, -⟩ := Option.map_eq_some_iff.1 h
    exact (List.getElem?_eq_some_iff.1 (wait?_eq_some_iff.1 hwait)).1

theorem at?_put (h : b.Made p) : (b.put o p).at? q = if q = p then o else b.at? q := by
  cases p with
  | handle i =>
    cases q with
    | wait m => rfl
    | handle j =>
      by_cases hij : i = j
      · subst hij
        simp [at?, put, watcher?, List.getElem?_set_self h]
      · simp [at?, put, watcher?, List.getElem?_set_ne hij, Ne.symm hij]
  | wait n =>
    cases q with
    | handle j => rfl
    | wait m =>
      by_cases hnm : n = m
      · subst hnm
        cases o <;> simp [at?, put, wait?, List.getElem?_set_self h]
      · simp [at?, put, wait?, List.getElem?_set_ne hnm, Ne.symm hnm]

theorem made_put : (b.put o p).Made q ↔ b.Made q := by
  cases p <;> cases q <;> simp [Made, put]

end

theorem countP_set_add {α : Type} {l : List α} {i : Nat} {a : α} (f : α → Bool) (a' : α)
    (h : l[i]? = some a) :
    (l.set i a').countP f + (if f a then 1 else 0) = l.countP f + if f a' then 1 else 0 := by
  obtain ⟨hi, rfl⟩ := List.getElem?_eq_some_iff.1 h
  have hpos : (if f l[i] then 1 else 0) ≤ l.countP f := by
    split
    · exact List.countP_pos_iff.2 ⟨_, List.getElem_mem hi, ‹_›⟩
    · exact Nat.zero_le _
  rw [List.countP_set hi]
  omega

theorem countP_any_eq_zero {α : Type} {l : List (Option α)} {f : α → Bool}
    (h : ∀ (i : Nat) (a : α), l[i]? = some (some a) → f a = false) : l.countP (·.any f) = 0 := by
  refine List.countP_eq_zero.2 fun o ho => ?_
  obtain ⟨i, hi⟩ := List.mem_iff_getElem?.1 ho
  cases o with
  | none => nofun
  | some a => simpa using h i a hi

theorem standing_put {b : Board} {p : Place} {w : Watcher} {o : Option Watcher}
    (h : b.at? p = some w) : (b.put o p).standing + stand (some w) = b.standing + stand o := by
  cases p with
  | handle i =>
    have hset := countP_set_add (fun o : Option Watcher => o.any Watcher.counts) o
      (watcher?_eq_some_iff.1 h)
    simp only [standing, put, stand]
    omega
  | wait n =>
    obtain ⟨wait, hwait, rfl⟩ := Option.map_eq_some_iff.1 h
    have hset := countP_set_add (fun o : Option Wait => o.any (·.watcher.counts))
      (o.map (⟨·, true⟩)) (wait?_eq_some_iff.1 hwait)
    have hany : (o.map fun w => (⟨w, true⟩ : Wait)).any (·.watcher.counts) = o.any Watcher.counts := by
      cases o <;> rfl
    rw [hany] at hset
    simp only [standing, put, stand, Option.any_some] at hset ⊢
    omega

theorem stand_le_standing (b : Board) (p : Place) : stand (b.at? p) ≤ b.standing := by
  cases h : b.at? p with
  | none => exact Nat.zero_le _
  | some w =>
    have hput := standing_put (o := none) h
    simp only [stand, Option.any_none, Bool.false_eq_true, if_false] at hput ⊢
    omega

theorem standing_eq_zero_iff {b : Board} :
    b.standing = 0 ↔ ∀ p w, b.at? p = some w → w.counts = false := by
  refine ⟨fun h p w hp => ?_, fun h => ?_⟩
  · have hle := stand_le_standing b p
    simpa [stand, hp, h] using hle
  · have hwatchers : b.watchers.countP (·.any Watcher.counts) = 0 :=
      countP_any_eq_zero fun i w hi => h (.handle i) w (watcher?_eq_some_iff.2 hi)
    have hwaits : b.waits.countP (·.any (·.watcher.counts)) = 0 :=
      countP_any_eq_zero fun n wait hn =>
        h (.wait n) wait.watcher (by simp [at?, wait?_eq_some_iff.2 hn])
    exact Nat.add_eq_zero_iff.2 ⟨hwatchers, hwaits⟩

theorem at?_congr {b b' : Board} (hwatchers : b'.watchers = b.watchers) (hwaits : b'.waits = b.waits)
    (p : Place) : b'.at? p = b.at? p := by
  cases p <;> simp only [at?, watcher?, wait?, hwatchers, hwaits]

theorem at?_add (b : Board) (w : Watcher) (p : Place) :
    (b.add w).2.at? p = if p = .handle b.watchers.length then some w else b.at? p := by
  cases p with
  | wait n => rfl
  | handle j =>
    simp only [at?, watcher?, add, getElem?_concat, Place.handle.injEq]
    split <;> rfl

theorem standing_add (b : Board) (w : Watcher) :
    (b.add w).2.standing = b.standing + stand (some w) := by
  simp only [standing, add, stand, List.countP_append, List.countP_singleton]
  omega

theorem at?_startRecv {b : Board} {i : Nat} {w : Watcher} (h : b.watcher? i = some w) (p : Place) :
    (b.startRecv i w).at? p =
      if p = .wait b.waits.length then some w else if p = .handle i then none else b.at? p := by
  cases p with
  | handle j =>
    have hi := made_of_at? (p := .handle i) h
    by_cases hij : i = j
    · subst hij
      simp [at?, watcher?, startRecv, List.getElem?_set_self hi]
    · simp [at?, watcher?, startRecv, List.getElem?_set_ne hij, Ne.symm hij]
  | wait n =>
    simp only [at?, wait?, startRecv, getElem?_concat, Place.wait.injEq, reduceCtorEq, if_false]
    split <;> rfl

theorem standing_startRecv {b : Board} {i : Nat} {w : Watcher} (h : b.watcher? i = some w) :
    (b.startRecv i w).standing = b.standing := by
  have hset := countP_set_add (fun o : Option Watcher => o.any Watcher.counts) none
    (watcher?_eq_some_iff.1 h)
  simp only [standing, startRecv, List.countP_append, List.countP_singleton, Option.any_some,
    Option.any_none, Bool.false_eq_true, if_false] at hset ⊢
  omega

/-! ## What an operation can do -/

/-- Where the watcher at a place is after an operation. Starting a wait moves it. -/
def follow (b : Board) (s : Step) (p : Place) : Place :=
  match s with
  | .startRecv i | .recv i =>
    if p = .handle i ∧ (b.watcher? i).isSome then .wait b.waits.length else p
  | _ => p

inductive Change : Board → Step → Board → Prop
  | quiet {b b' : Board} {s : Step} (watchers : b'.watchers = b.watchers) (waits : b'.waits = b.waits)
      (peers : b'.peers = b.peers) (stays : ∀ p, b.follow s p = p) : Change b s b'
  | joins {b : Board} {i : Nat} {w : Watcher} (asked : b.watcher? i = some w)
      (unseen : w.seen = false) :
      Change b (.register i) (({ b with peers := b.peers + 1 } : Board).add {}).2
  | copies {b : Board} {i : Nat} {w : Watcher} (asked : b.watcher? i = some w) :
      Change b (.clone i) (b.add w.copy).2
  | moves {b : Board} {i : Nat} {w : Watcher} (held : b.watcher? i = some w) :
      Change b (.startRecv i) (b.startRecv i w)
  /-- Receiving is starting a wait and polling it. -/
  | receives {b b' : Board} {i : Nat} {w : Watcher} (held : b.watcher? i = some w)
      (polled : Change (b.startRecv i w) (.pollRecv b.waits.length) b') : Change b (.recv i) b'
  | waits {b : Board} {n : Nat} {w : Watcher} (there : b.at? (.wait n) = some w) :
      Change b (.pollRecv n) (b.put (some w) (.wait n))
  /-- The watcher is gone, or has seen the signal. -/
  | leaves {b : Board} {s : Step} {p : Place} {w : Watcher} {o : Option Watcher}
      (about : s.place? = some p) (there : b.at? p = some w) (stays : ∀ q, b.follow s q = q)
      (settled : ∀ w', o = some w' → w' = { (w.logOff b.peers).1 with seen := true }) :
      Change b s { b.put o p with peers := (w.logOff b.peers).2 }

theorem pollRecv_change {b : Board} {n : Nat} {wait : Wait} (h : b.wait? n = some wait) :
    Change b (.pollRecv n) (b.pollRecv n wait).2 := by
  have hat : b.at? (.wait n) = some wait.watcher := by simp [at?, h]
  simp only [pollRecv]
  cases (if wait.watcher.seen then wait.polled else b.fired) with
  | true => exact .leaves (p := .wait n) (o := none) rfl hat (fun _ => rfl) nofun
  | false => exact .waits hat

theorem step_change (b : Board) (s : Step) : Change b s (b.step s).2 := by
  have idle {s : Step} (h : ∀ p, b.follow s p = p) : Change b s b := .quiet rfl rfl rfl h
  cases s with
  | register i =>
    simp only [step]
    cases hw : b.watcher? i with
    | none => exact idle fun _ => rfl
    | some w =>
      simp only [Option.elim_some, register, Watcher.register]
      cases hseen : w.seen with
      | true => exact idle fun _ => rfl
      | false => exact .joins hw hseen
  | clone i =>
    simp only [step]
    cases hw : b.watcher? i with
    | none => exact idle fun _ => rfl
    | some w => exact .copies hw
  | drop i =>
    simp only [step]
    cases hw : b.watcher? i with
    | none => exact idle fun _ => rfl
    | some w => exact .leaves (p := .handle i) (o := none) rfl hw (fun _ => rfl) nofun
  | tryRecv i =>
    simp only [step]
    cases hw : b.watcher? i with
    | none => exact idle fun _ => rfl
    | some w =>
      simp only [Option.elim_some, tryRecv]
      split
      · exact idle fun _ => rfl
      split
      · refine .leaves (p := .handle i) (o := some { (w.logOff b.peers).1 with seen := true }) rfl hw
          (fun _ => rfl) ?_
        rintro _ ⟨⟩
        rfl
      · exact idle fun _ => rfl
  | startRecv i =>
    simp only [step]
    cases hw : b.watcher? i with
    | none => exact idle fun p => by simp [follow, hw]
    | some w => exact .moves hw
  | recv i =>
    simp only [step]
    cases hw : b.watcher? i with
    | none => exact idle fun p => by simp [follow, hw]
    | some w => exact .receives hw (pollRecv_change (by simp [wait?, startRecv]))
  | pollRecv n =>
    simp only [step]
    cases hw : b.wait? n with
    | none => exact idle fun _ => rfl
    | some wait => exact pollRecv_change hw
  | dropRecv n =>
    simp only [step]
    cases hw : b.wait? n with
    | none => exact idle fun _ => rfl
    | some wait =>
      have hat : b.at? (.wait n) = some wait.watcher := by simp [at?, hw]
      exact .leaves (p := .wait n) (o := none) rfl hat (fun _ => rfl) nofun
  | signal | dropBroadcaster | startWait | dropWait =>
    simp only [step]
    split <;> exact .quiet rfl rfl rfl fun _ => rfl
  | signalAndWait =>
    simp only [step, pollWait]
    split
    · split <;> exact .quiet rfl rfl rfl fun _ => rfl
    · exact idle fun _ => rfl
  | pollWait =>
    simp only [step, pollWait]
    split
    · split <;> exact .quiet rfl rfl rfl fun _ => rfl
    · exact idle fun _ => rfl

end Board

end FlowTraffic.Shutdown
