import FlowTraffic.Bytes

/-!
# The order of keys

Bytes are compared one after the other from the front, and a number is written with its highest byte in
front. So numbers that are written in the same width have the order of their bytes, across every carry
(`compare_ofNat_lt`).
-/

namespace FlowTraffic.Bytes

theorem compare_cons (x y : UInt8) (b b' : Bytes) :
    compare (x :: b) (y :: b') = (compare x y).then (compare b b') := List.compareLex_cons_cons

theorem compare_eq_lt_iff {b b' : Bytes} : compare b b' = .lt ↔ b < b' := by
  induction b generalizing b' with
  | nil =>
    cases b' with
    | nil => simp [Std.ReflCmp.compare_self]
    | cons y b' =>
      simp only [List.nil_lt_cons, iff_true]
      rfl
  | cons x b ih =>
    cases b' with
    | nil =>
      simp only [List.not_lt_nil, iff_false]
      exact nofun
    | cons y b' =>
      rw [compare_cons, List.cons_lt_cons_iff, Ordering.then_eq_lt, Std.compare_eq_lt,
        Std.LawfulEqOrd.compare_eq_iff_eq, ih]

theorem compare_append {front front' : Bytes} (h : front.length = front'.length) (rest rest' : Bytes) :
    compare (front ++ rest) (front' ++ rest') = (compare front front').then (compare rest rest') := by
  induction front generalizing front' with
  | nil =>
    obtain rfl := List.eq_nil_of_length_eq_zero h.symm
    rfl
  | cons x front ih =>
    cases front' with
    | nil => cases h
    | cons y front' =>
      have hrest := ih (Nat.succ.inj h)
      rw [List.cons_append, List.cons_append, compare_cons, compare_cons, hrest, Ordering.then_assoc]

theorem compare_ofNat_lt {w m n : Nat} (h : m < n) (fits : n < capacity w) :
    compare (ofNat w m) (ofNat w n) = .lt := by
  induction w generalizing m n with
  | zero =>
    simp only [capacity] at fits
    omega
  | succ w ih =>
    have hlength : (ofNat w (m / 256)).length = (ofNat w (n / 256)).length := by simp
    rw [ofNat, ofNat, compare_append hlength]
    by_cases carry : m / 256 < n / 256
    · have hfits : n / 256 < capacity w := Nat.div_lt_of_lt_mul fits
      rw [ih carry hfits]
      rfl
    · have hsame : m / 256 = n / 256 := by omega
      have hlast : UInt8.ofNat m < UInt8.ofNat n := by
        rw [UInt8.lt_iff_toNat_lt, UInt8.toNat_ofNat', UInt8.toNat_ofNat']
        omega
      rw [hsame, Std.compare_self, compare_cons, Std.compare_eq_lt.2 hlast]
      rfl

end FlowTraffic.Bytes
