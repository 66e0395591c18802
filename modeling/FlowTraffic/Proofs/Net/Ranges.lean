import FlowTraffic.Net.Cidr
import FlowTraffic.Proofs.Random

/-!
# The members of a range

A range has the addresses from its network up, as many as its size, and none past the last address there
is. So whatever the words, what is sampled is a member. On words, the members are those that agree with the
network under a mask of leading bits.
-/

namespace FlowTraffic

theorem Ipv4.toNat_inj {a b : Ipv4} : a.toNat = b.toNat ↔ a = b := by
  obtain ⟨v⟩ := a
  obtain ⟨w⟩ := b
  rw [Ipv4.mk.injEq]
  exact UInt32.toNat_inj

namespace Cidr

variable (c : Cidr)

theorem size_pos : 0 < c.size := by
  rw [size, Nat.one_shiftLeft]
  exact Nat.two_pow_pos _

theorem size_dvd : c.size ∣ Draw.wordCount := by
  rw [size, Nat.one_shiftLeft]
  exact Nat.pow_dvd_pow 2 (Nat.sub_le 32 c.bits)

theorem exists_network : ∃ k, c.network.toNat = c.size * k := Nat.dvd_of_mod_eq_zero c.aligned

theorem network_add_size_le : c.network.toNat + c.size ≤ Draw.wordCount := by
  obtain ⟨k, hk⟩ := c.exists_network
  obtain ⟨m, hm⟩ := c.size_dvd
  have below : c.network.toNat < Draw.wordCount := c.network.bits.toNat_lt
  rw [hk, hm] at below ⊢
  rw [← Nat.mul_succ]
  exact Nat.mul_le_mul_left _ (Nat.lt_of_mul_lt_mul_left below)

theorem contains_iff (a : Ipv4) :
    c.contains a = true ↔ c.network.toNat ≤ a.toNat ∧ a.toNat < c.network.toNat + c.size := by
  obtain ⟨k, hk⟩ := c.exists_network
  have parts := Nat.div_add_mod a.toNat c.size
  have rest := Nat.mod_lt a.toNat c.size_pos
  rw [contains, beq_iff_eq]
  constructor
  · intro h
    omega
  · rintro ⟨low, high⟩
    rw [hk] at low high ⊢
    rw [← Nat.mul_succ] at high
    have quotient : a.toNat / c.size = k :=
      Nat.div_eq_of_lt_le (by rwa [Nat.mul_comm]) (by rwa [Nat.mul_comm])
    rw [quotient] at parts
    omega

theorem toNat_broadcast : c.broadcast.toNat = c.network.toNat + (c.size - 1) := by
  have room := c.network_add_size_le
  have some := c.size_pos
  exact UInt32.toNat_ofNat_of_lt' (Nat.lt_of_lt_of_le (by omega) room)

/-! ## Masks -/

/-- The word whose first so many bits are set, and no others. -/
def mask (bits : Nat) : UInt32 := ⟨BitVec.allOnes 32 <<< (32 - bits)⟩

theorem toNat_and_mask (a : UInt32) (bits : Nat) :
    (a &&& mask bits).toNat = a.toNat - a.toNat % 1 <<< (32 - bits) := by
  -- The last bits are cleared, as if they were shifted out and back.
  have cleared : (a &&& mask bits).toBitVec = a.toBitVec >>> (32 - bits) <<< (32 - bits) := by
    ext i hi
    by_cases low : i < 32 - bits
    · simp [mask, low]
    · have back : 32 - bits + (i - (32 - bits)) = i := Nat.add_sub_cancel' (Nat.not_lt.1 low)
      have inside : i - (32 - bits) < 32 := by omega
      simp [mask, low, back, hi, inside, -BitVec.reduceAllOnes, ← BitVec.getLsbD_eq_getElem]
  have parts := Nat.div_add_mod' a.toNat (2 ^ (32 - bits))
  have small := a.toNat_lt
  rw [← UInt32.toNat_toBitVec, cleared, BitVec.toNat_shiftLeft, BitVec.toNat_ushiftRight,
    UInt32.toNat_toBitVec, Nat.shiftRight_eq_div_pow, Nat.shiftLeft_eq, Nat.one_shiftLeft,
    Nat.mod_eq_of_lt (by omega)]
  omega

theorem toNat_not_mask (bits : Nat) : (~~~mask bits).toNat = 1 <<< (32 - bits) - 1 := by
  have whole : 0xFFFFFFFF &&& mask bits = mask bits := by
    apply UInt32.toBitVec_inj.1
    exact BitVec.allOnes_and
  have cleared : (mask bits).toNat = 0xFFFFFFFF - 0xFFFFFFFF % 1 <<< (32 - bits) := by
    rw [← whole, toNat_and_mask]
    rfl
  have last : 0xFFFFFFFF % 1 <<< (32 - bits) = 1 <<< (32 - bits) - 1 := by
    obtain ⟨m, hm⟩ := Nat.pow_dvd_pow 2 (Nat.sub_le 32 bits)
    have one : (0xFFFFFFFF : Nat) = 2 ^ (32 - bits) * m - (0 + 1) := by rw [← hm]
    rw [Nat.one_shiftLeft, one, Nat.mul_sub_mod (by omega), Nat.zero_mod]
  rw [UInt32.toNat_not, cleared, ← last]
  exact Nat.sub_sub_self (Nat.mod_le ..)

theorem network_ofAddr (a : Ipv4) {bits : Nat} (h : bits ≤ 32) :
    (ofAddr a bits h).network.bits = a.bits &&& mask bits := by
  apply UInt32.toNat_inj.1
  rw [toNat_and_mask]
  exact UInt32.toNat_ofNat_of_lt' (Nat.lt_of_le_of_lt (Nat.sub_le _ _) a.bits.toNat_lt)

theorem contains_iff_mask (a : Ipv4) :
    c.contains a = true ↔ a.bits &&& mask c.bits = c.network.bits := by
  rw [contains, beq_iff_eq, ← UInt32.toNat_inj, toNat_and_mask]
  rfl

theorem broadcast_bits : c.broadcast.bits = c.network.bits ||| ~~~mask c.bits := by
  obtain ⟨k, hk⟩ := c.exists_network
  have some := c.size_pos
  apply UInt32.toNat_inj.1
  rw [UInt32.toNat_or, toNat_not_mask]
  show c.broadcast.toNat = c.network.toNat ||| (c.size - 1)
  rw [toNat_broadcast, hk]
  unfold size at some ⊢
  rw [Nat.one_shiftLeft] at some ⊢
  exact Nat.two_pow_add_eq_or_of_lt (Nat.sub_lt some Nat.one_pos) k

/-! ## Samples -/

theorem contains_sample : c.sample.Always (c.contains · = true) := by
  have fits := c.network_add_size_le
  refine (Draw.range_bounds (by omega) c.size_pos).bind fun k hk => .pure ((c.contains_iff _).2 ?_)
  have number : Ipv4.toNat ⟨UInt32.ofNat k⟩ = k :=
    UInt32.toNat_ofNat_of_lt' (Nat.lt_of_lt_of_le hk.2 fits)
  rwa [number]

end Cidr

end FlowTraffic
