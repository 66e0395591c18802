import FlowTraffic.Bytes

/-!
# Reading and writing words

Bytes that are long enough start with a word, and that word written out gives them back. A row of
fixed-size things is taken off the front in the same way.
-/

namespace FlowTraffic.Bytes

/-! ## Readers -/

theorem reader_bind {α β : Type} (d : Reader α) (k : α → Reader β) (b : Bytes) :
    (d >>= k) b = k (d b).1 (d b).2 := rfl

theorem reader_pure {α : Type} (a : α) (b : Bytes) : (pure a : Reader α) b = (a, b) := rfl

/-! ## Words at the front -/

theorem ofNat_toNat_take {w : Nat} {b : Bytes} (h : w ≤ b.length) :
    ofNat w (toNat (b.take w)) = b.take w := by
  have hlen : (b.take w).length = w := List.length_take_of_le h
  have hback := ofNat_toNat (b.take w)
  rwa [hlen] at hback

theorem exists_ofWord8_append {b : Bytes} (h : 1 ≤ b.length) : ∃ w rest, b = ofWord8 w ++ rest := by
  obtain ⟨w, rest, rfl⟩ := List.exists_cons_of_length_pos h
  exact ⟨w, rest, rfl⟩

theorem exists_ofWord16_append {b : Bytes} (h : 2 ≤ b.length) :
    ∃ w rest, b = ofWord16 w ++ rest := by
  have hlt := toNat_lt (b.take 2)
  rw [List.length_take_of_le h] at hlt
  refine ⟨UInt16.ofNat (toNat (b.take 2)), b.drop 2, ?_⟩
  rw [ofWord16, UInt16.toNat_ofNat_of_lt' (by simpa [capacity] using hlt), ofNat_toNat_take h,
    List.take_append_drop]

theorem exists_ofWord32_append {b : Bytes} (h : 4 ≤ b.length) :
    ∃ w rest, b = ofWord32 w ++ rest := by
  have hlt := toNat_lt (b.take 4)
  rw [List.length_take_of_le h] at hlt
  refine ⟨UInt32.ofNat (toNat (b.take 4)), b.drop 4, ?_⟩
  rw [ofWord32, UInt32.toNat_ofNat_of_lt' (by simpa [capacity] using hlt), ofNat_toNat_take h,
    List.take_append_drop]

theorem exists_ofWord16_eq (w : UInt16) :
    ∃ high low, ofWord16 w = [high, low] ∧ join16 high low = w := by
  have hread := word16_append w []
  match hw : ofWord16 w, length_ofWord16 w with
  | [high, low], _ =>
    rw [hw] at hread
    exact ⟨high, low, rfl, congrArg Prod.fst hread⟩

/-! ## Reading and writing back -/

theorem length_word8 (b : Bytes) : (word8 b).2.length = b.length - 1 := List.length_drop

theorem length_word16 (b : Bytes) : (word16 b).2.length = b.length - 2 := List.length_drop

theorem length_word32 (b : Bytes) : (word32 b).2.length = b.length - 4 := List.length_drop

theorem ofWord8_word8 {b : Bytes} (h : 1 ≤ b.length) :
    ofWord8 (word8 b).1 ++ (word8 b).2 = b := by
  obtain ⟨w, rest, rfl⟩ := exists_ofWord8_append h
  rw [word8_append]

theorem ofWord16_word16 {b : Bytes} (h : 2 ≤ b.length) :
    ofWord16 (word16 b).1 ++ (word16 b).2 = b := by
  obtain ⟨w, rest, rfl⟩ := exists_ofWord16_append h
  rw [word16_append]

theorem ofWord32_word32 {b : Bytes} (h : 4 ≤ b.length) :
    ofWord32 (word32 b).1 ++ (word32 b).2 = b := by
  obtain ⟨w, rest, rfl⟩ := exists_ofWord32_append h
  rw [word32_append]

/-! ## Words as numbers -/

theorem number_append {w n : Nat} (h : n < capacity w) (rest : Bytes) :
    number w (ofNat w n ++ rest) = (n, rest) := by
  unfold number
  rw [List.take_left' (length_ofNat w n), List.drop_left' (length_ofNat w n), toNat_ofNat,
    Nat.mod_eq_of_lt h]

theorem number_ofWord8 (w : UInt8) (rest : Bytes) : number 1 (ofWord8 w ++ rest) = (w.toNat, rest) := by
  have hw : ofWord8 w = ofNat 1 w.toNat := by simp [ofWord8, ofNat]
  rw [hw]
  exact number_append w.toNat_lt rest

theorem number_ofWord16 (w : UInt16) (rest : Bytes) :
    number 2 (ofWord16 w ++ rest) = (w.toNat, rest) := number_append w.toNat_lt rest

theorem number_ofWord32 (w : UInt32) (rest : Bytes) :
    number 4 (ofWord32 w ++ rest) = (w.toNat, rest) := number_append w.toNat_lt rest

theorem toNat_ofWord16 (w : UInt16) : toNat (ofWord16 w) = w.toNat := by
  unfold ofWord16
  rw [toNat_ofNat]
  exact Nat.mod_eq_of_lt w.toNat_lt

theorem words_in_front (w v : UInt16) (rest : Bytes) :
    let b := ofWord16 w ++ ofWord16 v ++ rest
    toNat (b.take 2) = w.toNat ∧ toNat ((b.drop 2).take 2) = v.toNat ∧ b.drop 4 = rest := by
  intro b
  have front : b = ofWord16 w ++ (ofWord16 v ++ rest) := List.append_assoc ..
  refine ⟨?_, ?_, List.drop_left' (by simp)⟩
  · rw [front, List.take_left' (length_ofWord16 w), toNat_ofWord16]
  · rw [front, List.drop_left' (length_ofWord16 w), List.take_left' (length_ofWord16 v),
      toNat_ofWord16]

/-! ## Rows -/

section

variable {α β : Type} {e : α → List β} {w : Nat} {as : List α}

theorem length_flatMap_of_length (hw : ∀ a ∈ as, (e a).length = w) :
    (as.flatMap e).length = as.length * w := by
  induction as with
  | nil => simp
  | cons a as ih =>
    have hrest := ih fun x hx => hw x (List.mem_cons_of_mem a hx)
    rw [List.flatMap_cons, List.length_append, hw a List.mem_cons_self, hrest, List.length_cons,
      Nat.add_mul, Nat.one_mul, Nat.add_comm]

theorem take_drop_flatMap (hw : ∀ a ∈ as, (e a).length = w) {i : Nat} (hi : i < as.length)
    (rest : List β) : ((as.flatMap e ++ rest).drop (w * i)).take w = e as[i] := by
  induction as generalizing i with
  | nil => cases hi
  | cons a as ih =>
    obtain ⟨ha, has⟩ := List.forall_mem_cons.1 hw
    rw [List.flatMap_cons, List.append_assoc]
    cases i with
    | zero => exact List.take_left' ha
    | succ i =>
      rw [Nat.mul_succ, Nat.add_comm, ← List.drop_drop, List.drop_left' ha]
      exact ih has (Nat.lt_of_succ_lt_succ hi)

end

section

variable {α : Type} {e : α → Bytes} {P : α → Prop} {w : Nat}

theorem exists_flatMap_append
    (front : ∀ b : Bytes, w ≤ b.length → ∃ a rest, P a ∧ (e a).length = w ∧ b = e a ++ rest)
    (n : Nat) (b : Bytes) (h : n * w ≤ b.length) :
    ∃ (as : List α) (rest : Bytes), as.length = n ∧ (∀ a ∈ as, P a) ∧ b = as.flatMap e ++ rest := by
  induction n generalizing b with
  | zero => exact ⟨[], b, rfl, by simp, rfl⟩
  | succ n ih =>
    rw [Nat.add_mul, Nat.one_mul] at h
    obtain ⟨a, rest, ha, hsize, rfl⟩ := front b (by omega)
    rw [List.length_append, hsize] at h
    obtain ⟨as, rest, rfl, has, rfl⟩ := ih rest (by omega)
    exact ⟨a :: as, rest, rfl, List.forall_mem_cons.2 ⟨ha, has⟩, by simp⟩

end

end FlowTraffic.Bytes
