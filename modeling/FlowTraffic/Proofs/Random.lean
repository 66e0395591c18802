import FlowTraffic.Random

/-! # What a draw always has, whatever the words -/

namespace FlowTraffic

/-- The same row, but for the word that is drawn next. -/
def Words.withNext (words : Words) (w : UInt32) : Words :=
  { words with word := fun n => if n = words.drawn then w else words.word n }

namespace Draw

variable {α β : Type} {d : Draw α} {P : α → Prop} {Q : β → Prop}

theorem bind_apply (d : Draw α) (k : α → Draw β) (w : Words) :
    (d >>= k) w = k (d w).1 (d w).2 := rfl

def Always (d : Draw α) (P : α → Prop) : Prop := ∀ w, P (d w).1

theorem always_true (d : Draw α) : d.Always fun _ => True := fun _ => trivial

theorem Always.pure {a : α} (h : P a) : Always (pure a) P := fun _ => h

theorem Always.bind {k : α → Draw β} (hd : d.Always P) (hk : ∀ a, P a → (k a).Always Q) :
    (d >>= k).Always Q := fun w => hk _ (hd w) _

theorem Always.ite {c : Prop} [Decidable c] {d e : Draw α} (hd : c → d.Always P)
    (he : ¬ c → e.Always P) : (if c then d else e).Always P := by
  split
  · exact hd ‹_›
  · exact he ‹_›

theorem many_succ (n : Nat) (d : Draw α) :
    many (n + 1) d = do return (← d) :: (← many n d) := by
  simp [many, List.replicate_succ]

theorem Always.many (h : d.Always P) (n : Nat) : (many n d).Always fun as => ∀ a ∈ as, P a := by
  induction n with
  | zero => intro w a ha; cases ha
  | succ n ih =>
    rw [many_succ]
    exact h.bind fun a ha => ih.bind fun as has => .pure (List.forall_mem_cons.2 ⟨ha, has⟩)

theorem length_many (n : Nat) (d : Draw α) : (many n d).Always (·.length = n) := by
  induction n with
  | zero => exact .pure rfl
  | succ n ih =>
    rw [many_succ]
    exact (always_true d).bind fun a _ => ih.bind fun as has => .pure (congrArg (· + 1) has)

theorem below_lt {n : Nat} (few : n ≤ wordCount) (positive : 0 < n) : (below n).Always (· < n) := by
  unfold below
  refine (always_true word).bind fun w _ => .ite (fun all => .pure (all ▸ w.toNat_lt)) fun _ => ?_
  have product : w.toNat * n ≤ 4294967295 * n :=
    Nat.mul_le_mul_right n (Nat.le_of_lt_succ w.toNat_lt)
  refine .ite (fun carries => (always_true word).bind fun w' _ => .pure ?_) fun _ => .pure ?_
  · -- The second word carries the result over only where there is room.
    unfold wordCount at few carries ⊢
    split <;> omega
  · unfold wordCount
    omega

theorem below_of_settled {n : Nat} (w : Words)
    (settled : (w.word w.drawn).toNat * n % wordCount ≤ wordCount - n) :
    below n w = ((w.word w.drawn).toNat * n / wordCount, { w with drawn := w.drawn + 1 }) := by
  unfold below
  rw [bind_apply]
  by_cases all : n = wordCount
  · rw [if_pos all, all, Nat.mul_div_cancel _ (by decide)]
    rfl
  · rw [if_neg all]
    exact congrFun (if_neg (Nat.not_lt.2 settled)) _

theorem below_of_dvd {n : Nat} (h : n ∣ wordCount) (w : Words) :
    below n w = ((w.word w.drawn).toNat * n / wordCount, { w with drawn := w.drawn + 1 }) := by
  apply below_of_settled
  obtain ⟨m, hm⟩ := h
  have positive : 0 < m := Nat.pos_of_ne_zero fun zero => by simp [zero, wordCount] at hm
  have rest := Nat.mod_lt (w.word w.drawn).toNat positive
  -- What the word leaves open is a multiple of the divisor as well, so it cannot carry the result over.
  rw [hm, Nat.mul_comm _ n, Nat.mul_mod_mul_left, ← Nat.mul_sub_one]
  exact Nat.mul_le_mul_left n (Nat.le_sub_one_of_lt rest)

theorem range_bounds {low n : Nat} (few : n ≤ wordCount) (positive : 0 < n) :
    (range low n).Always fun k => low ≤ k ∧ k < low + n := by
  refine (below_lt few positive).bind fun k hk => .pure ?_
  omega

/-! ## Words that give a number -/

/-- The least word whose fraction of `n` rounds down to `v`. -/
def leastWord (n v : Nat) : Nat := (v * wordCount + (n - 1)) / n

theorem leastWord_mul {n v : Nat} (positive : 0 < n) :
    v * wordCount ≤ leastWord n v * n ∧ leastWord n v * n < v * wordCount + n := by
  have split := Nat.div_add_mod (v * wordCount + (n - 1)) n
  have rest := Nat.mod_lt (v * wordCount + (n - 1)) positive
  rw [leastWord, Nat.mul_comm _ n]
  omega

theorem leastWord_lt {n v : Nat} (few : n ≤ wordCount) (h : v < n) : leastWord n v < wordCount := by
  have positive : 0 < n := Nat.lt_of_le_of_lt (Nat.zero_le v) h
  have product := (leastWord_mul (v := v) positive).2
  have next : (v + 1) * wordCount ≤ n * wordCount := Nat.mul_le_mul_right _ h
  rw [Nat.succ_mul] at next
  apply Nat.lt_of_mul_lt_mul_right (a := n)
  calc leastWord n v * n
      < v * wordCount + n := product
    _ ≤ n * wordCount := by omega
    _ = wordCount * n := Nat.mul_comm ..

theorem leastWord_mul_div {n v : Nat} (few : n ≤ wordCount) (positive : 0 < n) :
    leastWord n v * n / wordCount = v ∧ leastWord n v * n % wordCount < n := by
  obtain ⟨low, high⟩ := leastWord_mul (v := v) positive
  generalize leastWord n v * n = product at low high ⊢
  unfold wordCount at few low high ⊢
  omega

/-- Every number below a bound is drawn with some next word, if there are at least twice as many words. Then
no second word is looked at. -/
theorem exists_word_below {n v : Nat} (few : 2 * n ≤ wordCount) (h : v < n) (words : Words) :
    ∃ w, (below n (words.withNext w)).1 = v := by
  have positive : 0 < n := Nat.lt_of_le_of_lt (Nat.zero_le v) h
  have within : n ≤ wordCount := by omega
  have number : (UInt32.ofNat (leastWord n v)).toNat = leastWord n v :=
    UInt32.toNat_ofNat_of_lt' (leastWord_lt within h)
  obtain ⟨whole, rest⟩ := leastWord_mul_div (v := v) within positive
  let w := UInt32.ofNat (leastWord n v)
  have next : (words.withNext w).word (words.withNext w).drawn = w := if_pos rfl
  refine ⟨w, ?_⟩
  rw [below_of_settled, next, number, whole]
  rw [next, number]
  exact Nat.le_trans (Nat.le_of_lt rest) (by omega)

theorem exists_word_range {low n v : Nat} (few : 2 * n ≤ wordCount) (least : low ≤ v) (h : v < low + n)
    (words : Words) : ∃ w, (range low n (words.withNext w)).1 = v := by
  obtain ⟨w, hw⟩ := exists_word_below few (v := v - low) (by omega) words
  refine ⟨w, ?_⟩
  show low + (below n (words.withNext w)).1 = v
  rw [hw]
  exact Nat.add_sub_cancel' least

end Draw

end FlowTraffic
