/-!
# Totals

The total of a row of numbers. The total of two rows one after the other is the sum of theirs.
-/

namespace FlowTraffic

def total : List Nat → Nat
  | [] => 0
  | n :: ns => n + total ns

@[simp] theorem total_nil : total [] = 0 := rfl

@[simp] theorem total_cons (n : Nat) (ns : List Nat) : total (n :: ns) = n + total ns := rfl

@[simp] theorem total_append (ms ns : List Nat) : total (ms ++ ns) = total ms + total ns := by
  induction ms with
  | nil => simp
  | cons m ms ih => simp [ih, Nat.add_assoc]

@[simp] theorem total_map_zero {α : Type} (as : List α) : total (as.map fun _ => 0) = 0 := by
  induction as with
  | nil => rfl
  | cons a as ih => rw [List.map_cons, total_cons, ih]

theorem total_map_add {α : Type} (f g : α → Nat) (as : List α) :
    total (as.map fun a => f a + g a) = total (as.map f) + total (as.map g) := by
  induction as with
  | nil => rfl
  | cons a as ih =>
    simp only [List.map_cons, total_cons, ih]
    omega

theorem total_map_set {α : Type} {as : List α} {i : Nat} {a : α} (ha : as[i]? = some a) (f : α → Nat)
    (b : α) : total ((as.set i b).map f) + f a = total (as.map f) + f b := by
  induction as generalizing i with
  | nil => cases ha
  | cons c as ih =>
    cases i with
    | zero =>
      cases ha
      simp only [List.set_cons_zero, List.map_cons, total_cons]
      omega
    | succ i =>
      have htail := ih ha
      simp only [List.set_cons_succ, List.map_cons, total_cons]
      omega

theorem total_map_range_ite (k m n : Nat) :
    total ((List.range n).map fun i => if k = i then m else 0) = if k < n then m else 0 := by
  induction n with
  | zero => rfl
  | succ n ih =>
    rw [List.range_succ, List.map_append, total_append, ih]
    simp only [List.map_cons, List.map_nil, total_cons, total_nil]
    rcases Nat.lt_trichotomy k n with h | h | h
    · rw [if_pos h, if_neg (by omega), if_pos (by omega)]
      omega
    · rw [if_neg (by omega), if_pos h, if_pos (by omega)]
      omega
    · rw [if_neg (by omega), if_neg (by omega), if_neg (by omega)]

theorem total_map_filter {α : Type} (p : α → Bool) (f : α → Nat) (as : List α) :
    total ((as.filter p).map f) = total (as.map fun a => if p a then f a else 0) := by
  induction as with
  | nil => rfl
  | cons a as ih => cases h : p a <;> simp [h, ih]

theorem countP_eq_total {α : Type} (p : α → Bool) (as : List α) :
    as.countP p = total (as.map fun a => if p a then 1 else 0) := by
  induction as with
  | nil => rfl
  | cons a as ih => rw [List.countP_cons, ih, List.map_cons, total_cons, Nat.add_comm]

theorem total_rows {α : Type} (row f : α → Nat) {n : Nat} {as : List α} (h : ∀ a ∈ as, row a < n) :
    total ((List.range n).map fun k => total ((as.filter (row · = k)).map f)) = total (as.map f) := by
  induction as with
  | nil => exact total_map_zero _
  | cons a as ih =>
    have hfilter (k : Nat) : total (((a :: as).filter (row · = k)).map f) =
        (if row a = k then f a else 0) + total ((as.filter (row · = k)).map f) := by
      by_cases hk : row a = k <;> simp [hk]
    simp only [hfilter]
    rw [total_map_add, ih fun b hb => h b (List.mem_cons_of_mem _ hb), total_map_range_ite,
      if_pos (h a List.mem_cons_self)]
    rfl

theorem length_flatMap_eq_total {α β : Type} (f : α → List β) (as : List α) :
    (as.flatMap f).length = total (as.map fun a => (f a).length) := by
  induction as with
  | nil => rfl
  | cons a as ih => simp [ih]

end FlowTraffic
