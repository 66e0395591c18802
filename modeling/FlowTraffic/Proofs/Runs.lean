/-!
# Rows of moves

A machine makes one move after the other, and a move that cannot happen is left out. What can be seen of
a row of moves is what each of those that happen shows. What holds of every state together with all that
was seen on the way to it is shown one move at a time (`observe_induction`). A machine that can always go
on, with less left to do after each move, gets to where it is to go (`exists_reaching`).

Where a machine has several parts of one kind, a move changes one of them (`getElem?_set_cases`).
-/

namespace FlowTraffic

section

variable {σ μ ε : Type} (step : σ → μ → Option σ) (see : σ → μ → Option ε)

/-- What is seen of a row of moves. -/
def observe (s : σ) : List μ → List ε
  | [] => []
  | m :: ms =>
    match step s m with
    | none => observe s ms
    | some s' => (see s m).toList ++ observe s' ms

variable {step see}

theorem foldl_induction {P : σ → Prop} {ms : List μ}
    (keeps : ∀ s, ∀ m ∈ ms, ∀ s', P s → step s m = some s' → P s') {s : σ} (start : P s) :
    P (ms.foldl (fun s m => (step s m).getD s) s) :=
  List.foldlRecOn ms _ start fun s h m hm => by
    cases hstep : step s m with
    | none => exact h
    | some s' => exact keeps s m hm s' h hstep

/-- What every move keeps together with what is seen of it, holds after every row of moves. -/
theorem observe_induction {P : List ε → σ → Prop}
    (keeps : ∀ log s m s', P log s → step s m = some s' → P (log ++ (see s m).toList) s')
    {log : List ε} {s : σ} (start : P log s) (ms : List μ) :
    P (log ++ observe step see s ms) (ms.foldl (fun s m => (step s m).getD s) s) := by
  induction ms generalizing log s with
  | nil => simpa [observe] using start
  | cons m ms ih =>
    simp only [observe, List.foldl_cons]
    cases hstep : step s m with
    | none => exact ih start
    | some s' =>
      simp only [Option.getD_some, ← List.append_assoc]
      exact ih (keeps log s m s' start hstep)

theorem observe_append (s : σ) (ms ms' : List μ) :
    observe step see s (ms ++ ms') =
      observe step see s ms ++ observe step see (ms.foldl (fun s m => (step s m).getD s) s) ms' := by
  induction ms generalizing s with
  | nil => rfl
  | cons m ms ih =>
    simp only [List.cons_append, observe, List.foldl_cons]
    cases step s m with
    | none => exact ih s
    | some s' =>
      simp only [Option.getD_some, List.append_assoc]
      exact congrArg _ (ih s')

theorem observe_eq_nil {s : σ} {ms : List μ} (unseen : ∀ m ∈ ms, ∀ s, see s m = none) :
    observe step see s ms = [] := by
  induction ms generalizing s with
  | nil => rfl
  | cons m ms ih =>
    obtain ⟨hm, hms⟩ := List.forall_mem_cons.1 unseen
    unfold observe
    split
    · exact ih hms
    · rw [hm s, ih hms]
      rfl

/-- Where a move is always possible that keeps things going and leaves less to do, the goal is reached. -/
theorem exists_reaching {P goal : σ → Prop} {allowed : μ → Prop} (effort : σ → Nat)
    (advance : ∀ s, P s → ¬ goal s →
      ∃ m s', allowed m ∧ step s m = some s' ∧ P s' ∧ effort s' < effort s)
    {s : σ} (start : P s) :
    ∃ ms : List μ, (∀ m ∈ ms, allowed m) ∧ P (ms.foldl (fun s m => (step s m).getD s) s) ∧
      goal (ms.foldl (fun s m => (step s m).getD s) s) := by
  induction heffort : effort s using Nat.strongRecOn generalizing s with
  | ind n ih =>
    by_cases reached : goal s
    · exact ⟨[], nofun, start, reached⟩
    · obtain ⟨m, s', hm, hstep, keeps, less⟩ := advance s start reached
      obtain ⟨ms, hms, hreach⟩ := ih _ (heffort ▸ less) keeps rfl
      refine ⟨m :: ms, List.forall_mem_cons.2 ⟨hm, hms⟩, ?_⟩
      simpa only [List.foldl_cons, hstep, Option.getD_some] using hreach

end

/-! ## What was seen -/

theorem filterMap_concat {α β : Type} (f : α → Option β) (l : List α) (a : α) :
    (l ++ [a]).filterMap f = l.filterMap f ++ (f a).toList := by
  cases h : f a <;> simp [h]

section

variable {α : Type} [DecidableEq α] {a : α} {l : List α}

theorem takeWhile_ne_append_of_notMem (h : a ∉ l) (l' : List α) :
    (l ++ l').takeWhile (· ≠ a) = l ++ l'.takeWhile (· ≠ a) := by
  apply List.takeWhile_append_of_pos
  intro b hb
  refine decide_eq_true ?_
  rintro rfl
  exact h hb

theorem takeWhile_ne_append_of_mem (h : a ∈ l) (l' : List α) :
    (l ++ l').takeWhile (· ≠ a) = l.takeWhile (· ≠ a) := by
  obtain ⟨front, back, rfl, hfront⟩ := List.eq_append_cons_of_mem h
  have hstop (l : List α) : (a :: l).takeWhile (· ≠ a) = [] := List.takeWhile_cons_of_neg (by simp)
  rw [List.append_assoc, List.cons_append, takeWhile_ne_append_of_notMem hfront,
    takeWhile_ne_append_of_notMem hfront, hstop, hstop]

end

/-! ## The last of a row -/

theorem getElem?_concat {α : Type} (l : List α) (a : α) (n : Nat) :
    (l ++ [a])[n]? = if n = l.length then some a else l[n]? := by
  rcases Nat.lt_trichotomy n l.length with h | rfl | h
  · rw [List.getElem?_append_left h, if_neg (Nat.ne_of_lt h)]
  · simp
  · rw [if_neg (Nat.ne_of_gt h), List.getElem?_eq_none (Nat.le_of_lt h)]
    exact List.getElem?_eq_none (by simpa using Nat.succ_le_of_lt h)

theorem split_concat {α : Type} {front back l : List α} {a b : α} (h : front ++ a :: back = l ++ [b]) :
    front = l ∧ a = b ∧ back = [] ∨ ∃ back', front ++ a :: back' = l := by
  rcases List.eq_nil_or_concat back with rfl | ⟨back', c, rfl⟩
  · obtain ⟨rfl, hab⟩ := List.append_inj' h rfl
    exact .inl ⟨rfl, List.singleton_inj.1 hab, rfl⟩
  · rw [List.concat_eq_append, ← List.cons_append, ← List.append_assoc] at h
    exact .inr ⟨back', (List.append_inj' h rfl).1⟩

/-! ## One part among others -/

section

variable {α : Type} {l : List α} {i j : Nat} {a a' b : α} {p : α → Bool}

theorem getElem?_set_cases (h : (l.set i a)[j]? = some b) : j = i ∧ b = a ∨ j ≠ i ∧ l[j]? = some b := by
  by_cases hj : i = j
  · subst hj
    rw [List.getElem?_set, if_pos rfl] at h
    split at h
    · exact .inl ⟨rfl, (Option.some.inj h).symm⟩
    · cases h
  · exact .inr ⟨Ne.symm hj, by rwa [List.getElem?_set_ne hj] at h⟩

theorem map_set_of_eq {β : Type} {f : α → β} (ha : l[i]? = some a) (same : f a' = f a) :
    (l.set i a').map f = l.map f := by
  induction l generalizing i with
  | nil => rfl
  | cons b l ih =>
    cases i with
    | zero =>
      cases ha
      rw [List.set_cons_zero, List.map_cons, List.map_cons, same]
    | succ i => rw [List.set_cons_succ, List.map_cons, List.map_cons, ih ha]

theorem filter_set_of_not (ha : l[i]? = some a) (before : p a = false) (after : p a' = false) :
    (l.set i a').filter p = l.filter p := by
  induction l generalizing i with
  | nil => rfl
  | cons b l ih =>
    cases i with
    | zero =>
      cases ha
      simp [before, after]
    | succ i =>
      rw [List.set_cons_succ, List.filter_cons, List.filter_cons, ih ha]

theorem filter_set_perm (ha : l[i]? = some a) (before : p a = false) (after : p a' = true) :
    ((l.set i a').filter p).Perm (l.filter p ++ [a']) := by
  induction l generalizing i with
  | nil => cases ha
  | cons b l ih =>
    cases i with
    | zero =>
      cases ha
      simpa [before, after] using (List.perm_append_singleton a' _).symm
    | succ i =>
      rw [List.set_cons_succ, List.filter_cons, List.filter_cons]
      split
      · exact (ih ha).cons b
      · exact ih ha

end

end FlowTraffic
