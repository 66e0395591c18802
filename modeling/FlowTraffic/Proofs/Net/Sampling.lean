import Mathlib.Data.Set.Card
import Mathlib.Order.Interval.Finset.Nat
import FlowTraffic.Proofs.Net.Ranges

/-!
# Sampling is uniform

A range has a power of two of addresses, which divides the number of words. So one word is enough for a
sample, its first bits choose the address, and no address is chosen by more words than another.
-/

namespace FlowTraffic

/-! ## Counting by numbers -/

theorem ncard_preimage_Ico {α : Type} {f : α → Nat} (injective : Function.Injective f) {low high : Nat}
    (onto : ∀ n < high, ∃ a, f a = n) : (Set.preimage f (Set.Ico low high)).ncard = high - low := by
  have covered : Set.Ico low high ⊆ Set.range f := by
    intro n hn
    exact onto n hn.2
  rw [Set.ncard_preimage_of_injective_subset_range injective covered, ← Finset.coe_Ico,
    Set.ncard_coe_finset, Nat.card_Ico]

theorem ncard_words {low high : Nat} (h : high ≤ Draw.wordCount) :
    {w : UInt32 | low ≤ w.toNat ∧ w.toNat < high}.ncard = high - low := by
  apply ncard_preimage_Ico (f := UInt32.toNat)
  · intro v w same
    exact UInt32.toNat_inj.1 same
  · intro n hn
    exact ⟨.ofNat n, UInt32.toNat_ofNat_of_lt' (Nat.lt_of_lt_of_le hn h)⟩

theorem Ipv4.ncard_addresses {low high : Nat} (h : high ≤ Draw.wordCount) :
    {a : Ipv4 | low ≤ a.toNat ∧ a.toNat < high}.ncard = high - low := by
  apply ncard_preimage_Ico (f := Ipv4.toNat)
  · intro a b same
    exact Ipv4.toNat_inj.1 same
  · intro n hn
    exact ⟨⟨.ofNat n⟩, UInt32.toNat_ofNat_of_lt' (Nat.lt_of_lt_of_le hn h)⟩

namespace Cidr

variable (c : Cidr)

theorem size_mul_two_pow : c.size * 2 ^ c.bits = Draw.wordCount := by
  rw [size, Nat.one_shiftLeft, ← Nat.pow_add, Nat.sub_add_cancel c.bits_le]
  rfl

theorem ncard_members : {a | c.contains a = true}.ncard = 2 ^ (32 - c.bits) := by
  simp only [contains_iff]
  rw [Ipv4.ncard_addresses c.network_add_size_le, Nat.add_sub_cancel_left, size, Nat.one_shiftLeft]

/-! ## One word -/

theorem sample_eq (words : Words) :
    c.sample words =
      (⟨.ofNat (c.network.toNat + (words.word words.drawn).toNat / 2 ^ c.bits)⟩,
        { words with drawn := words.drawn + 1 }) := by
  have whole : (words.word words.drawn).toNat * c.size / Draw.wordCount =
      (words.word words.drawn).toNat / 2 ^ c.bits := by
    rw [← c.size_mul_two_pow, Nat.mul_comm c.size, Nat.mul_div_mul_right _ _ c.size_pos]
  unfold sample Draw.range
  simp only [Draw.bind_apply, Draw.below_of_dvd c.size_dvd, whole]
  rfl

theorem toNat_sample (words : Words) :
    (c.sample words).1.toNat = c.network.toNat + (words.word words.drawn).toNat / 2 ^ c.bits := by
  have room := c.network_add_size_le
  have within : (words.word words.drawn).toNat / 2 ^ c.bits < c.size := by
    rw [Nat.div_lt_iff_lt_mul (Nat.two_pow_pos _), c.size_mul_two_pow]
    exact (words.word words.drawn).toNat_lt
  rw [sample_eq]
  exact UInt32.toNat_ofNat_of_lt' (Nat.lt_of_lt_of_le (by omega) room)

theorem sample_withNext_iff (words : Words) (w : UInt32) {a : Ipv4} (h : c.contains a = true) :
    (c.sample (words.withNext w)).1 = a ↔
      (a.toNat - c.network.toNat) * 2 ^ c.bits ≤ w.toNat ∧
        w.toNat < (a.toNat - c.network.toNat + 1) * 2 ^ c.bits := by
  have low := ((c.contains_iff a).1 h).1
  have next : (words.withNext w).word (words.withNext w).drawn = w := if_pos rfl
  have number := c.toNat_sample (words.withNext w)
  rw [next] at number
  rw [← Ipv4.toNat_inj, number, ← Nat.le_div_iff_mul_le (Nat.two_pow_pos _),
    ← Nat.div_lt_iff_lt_mul (Nat.two_pow_pos _)]
  omega

theorem ncard_sample (words : Words) {a : Ipv4} (h : c.contains a = true) :
    {w | (c.sample (words.withNext w)).1 = a}.ncard = 2 ^ c.bits := by
  obtain ⟨low, high⟩ := (c.contains_iff a).1 h
  simp only [c.sample_withNext_iff words _ h]
  rw [ncard_words, Nat.succ_mul, Nat.add_sub_cancel_left]
  rw [← c.size_mul_two_pow]
  apply Nat.mul_le_mul_right
  omega

/-- **Every address of a range is sampled by equally many words.** The range made from an address and a
number of leading bits goes from its network to its broadcast address. A sample takes one word and is an
address of the range, and each of them comes from as many words as the leading bits have values. -/
theorem sample_uniform (a : Ipv4) {bits : Nat} (h : bits ≤ 32) :
    ∃ c, new a bits = .ok c ∧ c.bits = bits ∧
      c.network.bits = a.bits &&& mask bits ∧ c.broadcast.bits = c.network.bits ||| ~~~mask bits ∧
      c.network.toNat ≤ c.broadcast.toNat ∧
      (∀ b, c.contains b = true ↔ b.bits &&& mask bits = c.network.bits) ∧
      (∀ b, c.contains b = true ↔ c.network.toNat ≤ b.toNat ∧ b.toNat ≤ c.broadcast.toNat) ∧
      {b | c.contains b = true}.ncard = 2 ^ (32 - bits) ∧
      (∀ words, (c.sample words).2 = { words with drawn := words.drawn + 1 } ∧
        c.contains (c.sample words).1 = true) ∧
      ∀ (words : Words) (b : Ipv4), c.contains b = true →
        {w | (c.sample (words.withNext w)).1 = b}.ncard = 2 ^ bits := by
  let c := ofAddr a bits h
  have last := c.toNat_broadcast
  have some := c.size_pos
  refine ⟨c, dif_pos h, rfl, network_ofAddr a h, c.broadcast_bits, by omega, c.contains_iff_mask, ?_,
    c.ncard_members, ?_, fun words b hb => c.ncard_sample words hb⟩
  · intro b
    rw [contains_iff]
    omega
  · intro words
    exact ⟨congrArg Prod.snd (c.sample_eq words), c.contains_sample words⟩

theorem sample_uniform_eight :
    8 ≤ 32 ∧ ∃ c, new (.ofOctets 10 1 2 3) 8 = .ok c ∧
      {w | (c.sample (Words.withNext ⟨.ofNat, 0⟩ w)).1 = .ofOctets 10 200 3 4}.ncard = 256 := by
  have few : 8 ≤ 32 := by decide
  obtain ⟨c, made, -, -, -, -, -, -, -, -, even⟩ := sample_uniform (.ofOctets 10 1 2 3) few
  have same : c = ofAddr (.ofOctets 10 1 2 3) 8 (by decide) := by
    cases made
    rfl
  exact ⟨few, c, made, even _ _ (by rw [same]; decide)⟩

end Cidr

end FlowTraffic
