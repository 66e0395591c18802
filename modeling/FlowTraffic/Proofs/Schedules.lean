import Mathlib.Order.Basic
import Mathlib.Order.SuccPred.Archimedean

/-!
# Schedules

A schedule says for every time which move comes then. A task is attended to if it does not wait for ever
with a move that it could make (`Attended`, weak fairness). Where such moves leave less to do and no other
move adds anything, less is left at some time (`Attended.exists_less`), and at last nothing
(`exists_reaching_of_less`).
-/

namespace FlowTraffic

variable {σ μ : Type} (step : σ → μ → Option σ)

/-- The state after so many moves of a schedule. -/
def stateAt (s : σ) (schedule : Nat → μ) (n : Nat) : σ :=
  ((List.range n).map schedule).foldl (fun s m => (step s m).getD s) s

/-- Whether the task that these moves belong to could make one of them. -/
def CanMove (own : μ → Prop) (s : σ) : Prop := ∃ m, own m ∧ (step s m).isSome = true

/-- If from some time on the task could always move, then it does move at some time. -/
def Attended (own : μ → Prop) (s : σ) (schedule : Nat → μ) : Prop :=
  ∀ n, (∀ k, n ≤ k → CanMove step own (stateAt step s schedule k)) →
    ∃ k, n ≤ k ∧ own (schedule k) ∧ (step (stateAt step s schedule k) (schedule k)).isSome = true

variable {step}

theorem stateAt_succ (s : σ) (schedule : Nat → μ) (n : Nat) :
    stateAt step s schedule (n + 1) = (step (stateAt step s schedule n) (schedule n)).getD
      (stateAt step s schedule n) := by
  simp [stateAt, List.range_succ]

section

variable {s : σ} {schedule : Nat → μ} {P : σ → Prop} {n : Nat}

theorem stateAt_induction (keeps : ∀ s m s', P s → step s m = some s' → P s')
    (start : P (stateAt step s schedule n)) : ∀ k, n ≤ k → P (stateAt step s schedule k) := by
  intro k hk
  induction k, hk using Nat.le_induction with
  | base => exact start
  | succ k hk ih =>
    rw [stateAt_succ]
    cases hstep : step (stateAt step s schedule k) (schedule k) with
    | none => exact ih
    | some s' => exact keeps _ _ _ ih hstep

/-- A task that is attended to and can move leaves less to do, if its moves do, if no other move adds to
it, and if what it could do it can do later too unless there is less to do by then. -/
theorem Attended.exists_less {own : μ → Prop} (fair : Attended step own s schedule) (effort : σ → Nat)
    (keeps : ∀ s m s', P s → step s m = some s' → P s')
    (less : ∀ s m s', P s → own m → step s m = some s' → effort s' < effort s)
    (steady : ∀ s m s', P s → step s m = some s' →
      effort s' < effort s ∨ effort s' = effort s ∧ (CanMove step own s → CanMove step own s'))
    (start : P (stateAt step s schedule n)) (can : CanMove step own (stateAt step s schedule n)) :
    ∃ k, n ≤ k ∧ effort (stateAt step s schedule k) < effort (stateAt step s schedule n) := by
  by_contra never
  have same : ∀ k, n ≤ k → effort (stateAt step s schedule k) = effort (stateAt step s schedule n) ∧
      CanMove step own (stateAt step s schedule k) := by
    intro k hk
    induction k, hk using Nat.le_induction with
    | base => exact ⟨rfl, can⟩
    | succ k hk ih =>
      have hP := stateAt_induction keeps start k hk
      have notLess : ¬ effort (stateAt step s schedule (k + 1)) < effort (stateAt step s schedule n) :=
        fun hless => never ⟨k + 1, Nat.le_succ_of_le hk, hless⟩
      rw [stateAt_succ] at notLess ⊢
      cases hstep : step (stateAt step s schedule k) (schedule k) with
      | none => exact ih
      | some s' =>
        rw [hstep, Option.getD_some] at notLess
        rcases steady _ _ _ hP hstep with hless | ⟨heffort, hcan⟩
        · exact absurd (ih.1 ▸ hless) notLess
        · exact ⟨heffort.trans ih.1, hcan ih.2⟩
  obtain ⟨k, hk, hown, hpossible⟩ := fair n fun k hk => (same k hk).2
  obtain ⟨s', hstep⟩ := Option.isSome_iff_exists.1 hpossible
  have hless := less _ _ _ (stateAt_induction keeps start k hk) hown hstep
  apply never
  refine ⟨k + 1, Nat.le_succ_of_le hk, ?_⟩
  rw [stateAt_succ, hstep, Option.getD_some, ← (same k hk).1]
  exact hless

theorem exists_reaching_of_less (goal : σ → Prop) (effort : σ → Nat)
    (progress : ∀ k, n ≤ k → ¬ goal (stateAt step s schedule k) →
      ∃ k', k ≤ k' ∧ effort (stateAt step s schedule k') < effort (stateAt step s schedule k)) :
    ∃ k, n ≤ k ∧ goal (stateAt step s schedule k) := by
  suffices h : ∀ k, n ≤ k → ∃ k', n ≤ k' ∧ goal (stateAt step s schedule k') from h n le_rfl
  intro k
  induction heffort : effort (stateAt step s schedule k) using Nat.strongRecOn generalizing k with
  | ind e ih =>
    intro hk
    by_cases reached : goal (stateAt step s schedule k)
    · exact ⟨k, hk, reached⟩
    · obtain ⟨k', hk', hless⟩ := progress k hk reached
      exact ih _ (heffort ▸ hless) k' rfl (Nat.le_trans hk hk')

end

end FlowTraffic
