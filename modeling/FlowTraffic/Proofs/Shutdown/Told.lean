import FlowTraffic.Proofs.Runs
import FlowTraffic.Proofs.Shutdown.Accounting
import FlowTraffic.Proofs.Shutdown.Signal

/-!
# Which watchers have told of the signal

A watcher has told of the signal once it has answered that there is one, and so has every copy that is
made of it later (`Told`). The board knows it of every watcher that is in somebody's hands (`told?`), and
an operation changes it for the watcher alone that it asks or takes (`told_iff`).
-/

namespace FlowTraffic.Shutdown

/-- The watcher is not in its holder's hands any more after the operation. -/
def Step.Takes (k : Nat) : Step → Prop
  | .drop i | .startRecv i | .recv i => i = k
  | _ => False

namespace Board

/-- In the course of the operations the watcher has said that there is the signal, or it is a copy of one
that had said so. -/
inductive Told : List Step → Nat → Prop
  | answers {ss rest : List Step} (before : List Step) {k : Nat} (split : before ++ .tryRecv k :: rest = ss)
      (answer : ((after {} before).step (.tryRecv k)).1 = .seen true) : Told ss k
  | copied {ss rest : List Step} (before : List Step) {i k : Nat} (split : before ++ .clone i :: rest = ss)
      (answer : ((after {} before).step (.clone i)).1 = .watcher k) (told : Told before i) : Told ss k

/-! ## What a board knows of a watcher -/

/-- Whether the watcher has seen the signal, if it is in somebody's hands. -/
def told? (b : Board) (k : Nat) : Option Bool := (b.watcher? k).map Watcher.seen

section

variable {b : Board} {k : Nat} {s : Step}

theorem told?_add (b : Board) (w : Watcher) (k : Nat) :
    (b.add w).2.told? k = if k = b.watchers.length then some w.seen else b.told? k := by
  have hat := at?_add b w (.handle k)
  simp only [at?, Place.handle.injEq] at hat
  rw [told?, hat]
  split <;> rfl

theorem told?_of_unmade (h : b.watchers.length ≤ k) : b.told? k = none := by
  simp [told?, watcher?, List.getElem?_eq_none h]

theorem lt_of_told? {seen : Bool} (h : b.told? k = some seen) : k < b.watchers.length := by
  by_contra unmade
  rw [told?_of_unmade (Nat.le_of_not_lt unmade)] at h
  cases h

/-! ## Answers -/

theorem tryRecv_answer (b : Board) (k : Nat) :
    (b.step (.tryRecv k)).1 = match b.told? k with
      | none => .nothing
      | some true => .refused .signalReceived
      | some false => .seen b.fired := by
  simp only [step, told?]
  cases b.watcher? k with
  | none => rfl
  | some w =>
    cases hseen : w.seen <;> cases hfired : b.fired <;> simp [tryRecv, hseen, hfired]

theorem register_answer_eq (b : Board) (k : Nat) :
    (b.step (.register k)).1 = match b.told? k with
      | none => .nothing
      | some true => .refused .signalReceived
      | some false => .watcher b.watchers.length := by
  simp only [step, told?]
  cases b.watcher? k with
  | none => rfl
  | some w => cases hseen : w.seen <;> simp [register, Watcher.register, add, hseen]

theorem clone_answer_iff {b : Board} {i k : Nat} :
    (b.step (.clone i)).1 = .watcher k ↔ (b.told? i).isSome ∧ k = b.watchers.length := by
  simp only [step, told?]
  cases b.watcher? i with
  | none => simp
  | some w => simp [add, eq_comm]

/-! ## What an operation makes of a watcher -/

theorem place?_eq_handle_iff : s.place? = some (.handle k) ↔ s = .tryRecv k ∨ s.Takes k := by
  cases s <;> simp [Step.place?, Step.Takes]

theorem follow_of_ne {p : Place} (other : s.place? ≠ some p) : b.follow s p = p := by
  cases s with
  | startRecv i | recv i =>
    refine if_neg fun h => other ?_
    rw [h.1, Step.place?]
  | _ => rfl

theorem at?_step {p : Place} (hp : b.Made p) (other : s.place? ≠ some p) :
    (b.step s).2.at? p = b.at? p := by
  have htraced := ((step_change b s).traced hp).2
  cases htraced with
  | keeps same _ => rwa [follow_of_ne other] at same
  | settles _ about _ _ => exact absurd about other

theorem told?_step (hk : k < b.watchers.length) (other : s.place? ≠ some (.handle k)) :
    (b.step s).2.told? k = b.told? k :=
  congrArg (Option.map Watcher.seen) (at?_step (p := .handle k) hk other)

theorem told?_taken (taken : s.Takes k) : (b.step s).2.told? k = none := by
  have hset (l : List (Option Watcher)) : (l.set k none)[k]?.join = none := by
    by_cases hk : k < l.length
    · rw [List.getElem?_set_self hk, Option.join_some]
    · rw [List.getElem?_eq_none (by simpa using hk), Option.join_none]
  cases s with
  | drop i | startRecv i =>
    obtain rfl : i = k := taken
    simp only [step, told?]
    cases hi : b.watcher? i with
    | none => simp [hi]
    | some w => exact congrArg _ (hset b.watchers)
  | recv i =>
    obtain rfl : i = k := taken
    simp only [step, told?]
    cases hi : b.watcher? i with
    | none => simp [hi]
    | some w =>
      obtain ⟨-, -, hsame⟩ := (b.startRecv i w).pollRecv_frame b.waits.length { watcher := w }
      simp only [watcher?, Option.elim_some, recv, hsame]
      exact congrArg _ (hset b.watchers)
  | _ => exact taken.elim

theorem told?_tryRecv (b : Board) (k : Nat) :
    (b.step (.tryRecv k)).2.told? k = (b.told? k).map (· || b.fired) := by
  simp only [step, told?]
  cases hk : b.watcher? k with
  | none => simp [hk]
  | some w =>
    simp only [Option.elim_some, tryRecv]
    split
    · simp [*]
    split
    · have hmade := made_of_at? (p := .handle k) hk
      simp [watcher?, List.getElem?_set_self hmade, *]
    · simp [*]

theorem Change.length_watchers {b' : Board} (h : Change b s b') :
    b.watchers.length ≤ b'.watchers.length ∧
      ((∀ i, s ≠ .register i ∧ s ≠ .clone i) → b'.watchers.length = b.watchers.length) := by
  induction h with
  | quiet hwatchers _ _ _ => simp [hwatchers]
  | joins _ _ | copies _ => simp [add]
  | moves _ => simp [startRecv]
  | receives _ _ ih => simpa [startRecv] using ih
  | waits _ => simp [put]
  | @leaves _ _ p _ _ _ _ _ _ => cases p <;> simp [put]

theorem told?_new {x : Bool} (unmade : b.watchers.length ≤ k) (h : (b.step s).2.told? k = some x) :
    (∃ i, s = .register i) ∧ x = false ∨
      ∃ i, s = .clone i ∧ (b.step s).1 = .watcher k ∧ b.told? i = some x := by
  have hlt := lt_of_told? h
  by_cases hs : ∀ i, s ≠ .register i ∧ s ≠ .clone i
  · rw [(step_change b s).length_watchers.2 hs] at hlt
    exact absurd hlt (Nat.not_lt_of_le unmade)
  have hold : b.told? k ≠ some x := by simp [told?_of_unmade unmade]
  cases s with
  | register i =>
    refine .inl ⟨⟨i, rfl⟩, ?_⟩
    simp only [step] at h
    cases hw : b.watcher? i with
    | none => exact absurd (by simpa [hw] using h) hold
    | some w =>
      simp only [hw, Option.elim_some, register, Watcher.register] at h
      cases hseen : w.seen with
      | true => exact absurd (by simpa [hseen] using h) hold
      | false =>
        simp only [hseen, Bool.false_eq_true, if_false, told?_add] at h
        split at h
        · exact (Option.some.inj h).symm
        · exact absurd h hold
  | clone i =>
    refine .inr ⟨i, rfl, ?_⟩
    rw [clone_answer_iff]
    simp only [step] at h
    cases hw : b.watcher? i with
    | none => exact absurd (by simpa [hw] using h) hold
    | some w =>
      have htold : b.told? i = some w.seen := by simp [told?, hw]
      simp only [hw, Option.elim_some, told?_add] at h
      split at h
      · exact ⟨⟨by simp [htold], ‹_›⟩, htold.trans h⟩
      · exact absurd h hold
  | _ => simp at hs

theorem told?_after {ss : List Step} {x : Bool} (h : b.told? k = some x) (kept : ∀ s ∈ ss, ¬ s.Takes k) :
    ∃ y, (b.after ss).told? k = some y := by
  induction ss generalizing b x with
  | nil => exact ⟨x, h⟩
  | cons s ss ih =>
    obtain ⟨hs, hss⟩ := List.forall_mem_cons.1 kept
    by_cases hask : s = .tryRecv k
    · subst hask
      exact ih ((told?_tryRecv b k).trans (congrArg _ h)) hss
    · have hother := mt place?_eq_handle_iff.1 (not_or_intro hask hs)
      exact ih ((told?_step (lt_of_told? h) hother).trans h) hss

end

/-! ## What a board knows is what has been told -/

section

variable {ss : List Step} {s : Step} {k : Nat}

theorem Told.append (h : Told ss k) (ss' : List Step) : Told (ss ++ ss') k := by
  cases h with
  | answers before split answer => exact .answers before (by rw [← split, List.append_assoc]; rfl) answer
  | copied before split answer told =>
    exact .copied before (by rw [← split, List.append_assoc]; rfl) answer told

theorem told_concat_iff :
    Told (ss ++ [s]) k ↔ Told ss k ∨
      s = .tryRecv k ∧ ((after {} ss).step s).1 = .seen true ∨
      ∃ i, s = .clone i ∧ ((after {} ss).step s).1 = .watcher k ∧ Told ss i := by
  refine ⟨fun h => ?_, fun h => ?_⟩
  · cases h with
    | answers before split answer =>
      obtain ⟨rfl, rfl, -⟩ | ⟨rest', hsplit⟩ := split_concat split
      · exact .inr (.inl ⟨rfl, answer⟩)
      · exact .inl (.answers before hsplit answer)
    | copied before split answer told =>
      obtain ⟨rfl, rfl, -⟩ | ⟨rest', hsplit⟩ := split_concat split
      · exact .inr (.inr ⟨_, rfl, answer, told⟩)
      · exact .inl (.copied before hsplit answer told)
  · rcases h with h | ⟨rfl, answer⟩ | ⟨i, rfl, answer, told⟩
    · exact h.append [s]
    · exact .answers ss rfl answer
    · exact .copied ss rfl answer told

theorem after_concat (ss : List Step) (s : Step) :
    after {} (ss ++ [s]) = ((after {} ss).step s).2 :=
  after_append {} ss [s]

theorem not_told_nil : ¬ Told [] k := by
  rintro (⟨before, split, -⟩ | ⟨before, split, -, -⟩)
  · exact List.append_ne_nil_of_right_ne_nil before (List.cons_ne_nil _ _) split
  · exact List.append_ne_nil_of_right_ne_nil before (List.cons_ne_nil _ _) split

theorem Told.made (h : Told ss k) : k < (after {} ss).watchers.length := by
  induction ss using List.reverseRecOn generalizing k with
  | nil => exact absurd h not_told_nil
  | append_singleton ss s ih =>
    have hgrows := (step_change (after {} ss) s).length_watchers.1
    rw [after_concat]
    rcases told_concat_iff.1 h with h | ⟨rfl, answer⟩ | ⟨i, rfl, answer, -⟩
    · exact Nat.lt_of_lt_of_le (ih h) hgrows
    · rw [tryRecv_answer] at answer
      cases hk : (after {} ss).told? k with
      | none => simp [hk] at answer
      | some x => exact Nat.lt_of_lt_of_le (lt_of_told? hk) hgrows
    · obtain ⟨hi, rfl⟩ := clone_answer_iff.1 answer
      obtain ⟨w, hw, -⟩ := Option.map_eq_some_iff.1 (Option.eq_some_of_isSome hi)
      simp [step, hw, add]

theorem Told.fired (h : Told ss k) : (after {} ss).fired = true := by
  induction ss using List.reverseRecOn generalizing k with
  | nil => exact absurd h not_told_nil
  | append_singleton ss s ih =>
    rw [after_concat]
    refine fired_step ?_ s
    rcases told_concat_iff.1 h with h | ⟨rfl, answer⟩ | ⟨i, -, -, told⟩
    · exact ih h
    · rw [tryRecv_answer] at answer
      split at answer
      · cases answer
      · cases answer
      · simpa using answer
    · exact ih told

/-- **A watcher has seen the signal exactly if it has told of it**, or is a copy of one that had. -/
theorem told_iff {x : Bool} (h : (after {} ss).told? k = some x) : x = true ↔ Told ss k := by
  -- The watcher is generalized too: a copy goes back to the one it is a copy of.
  induction ss using List.reverseRecOn generalizing k x with
  | nil =>
    match k with
    | 0 =>
      cases h
      simpa using not_told_nil
    | _ + 1 => cases h
  | append_singleton ss s ih =>
    rw [after_concat] at h
    rw [told_concat_iff]
    by_cases hk : k < (after {} ss).watchers.length
    · have huncopied : ∀ i, ¬ (s = .clone i ∧ ((after {} ss).step s).1 = .watcher k ∧ Told ss i) := by
        rintro i ⟨rfl, answer, -⟩
        exact Nat.ne_of_lt hk (clone_answer_iff.1 answer).2
      by_cases hs : s = .tryRecv k
      · subst hs
        rw [told?_tryRecv] at h
        obtain ⟨y, hy, rfl⟩ := Option.map_eq_some_iff.1 h
        rw [tryRecv_answer, hy, ← ih hy]
        cases y <;> simp
      · have hkept : ¬ s.Takes k := fun taken => by simp [told?_taken taken] at h
        rw [told?_step hk (mt place?_eq_handle_iff.1 (not_or_intro hs hkept))] at h
        simp [ih h, hs, huncopied]
    · have hunmade := Nat.le_of_not_lt hk
      have huntold : ¬ Told ss k := fun told => hk told.made
      obtain ⟨⟨i, rfl⟩, rfl⟩ | ⟨i, rfl, answer, hi⟩ := told?_new hunmade h
      · simp [huntold]
      · simp [huntold, answer, ih hi]

end

end Board

end FlowTraffic.Shutdown
