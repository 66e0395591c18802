/-!
# Bytes

Everything on the wire is a list of bytes, and every number in it is big-endian. `toNat` reads a
list of bytes as a number and `ofNat w` writes a number in `w` bytes. Main statements: each undoes
the other (`toNat_ofNat`, `ofNat_toNat`).
-/

namespace FlowTraffic

/-- What a datagram, a key and a stored value are made of. -/
abbrev Bytes := List UInt8

namespace Bytes

/-! ## Numbers of any width -/

/-- The number that the bytes spell, the first byte being the most significant. -/
def toNat (b : Bytes) : Nat := b.foldl (fun n x => 256 * n + x.toNat) 0

/-- How many numbers `w` bytes can spell. -/
def capacity : Nat → Nat
  | 0 => 1
  | w + 1 => 256 * capacity w

/-- The `w` bytes of a number, most significant first. What does not fit is dropped. -/
def ofNat : Nat → Nat → Bytes
  | 0, _ => []
  | w + 1, n => ofNat w (n / 256) ++ [UInt8.ofNat n]

theorem capacity_pos (w : Nat) : 0 < capacity w := by
  induction w with
  | zero => simp [capacity]
  | succ w ih => simp only [capacity]; omega

@[simp] theorem toNat_nil : toNat [] = 0 := rfl

@[simp] theorem toNat_concat (b : Bytes) (x : UInt8) :
    toNat (b ++ [x]) = 256 * toNat b + x.toNat := by
  simp [toNat, List.foldl_append]

@[simp] theorem length_ofNat (w n : Nat) : (ofNat w n).length = w := by
  induction w generalizing n with
  | zero => rfl
  | succ w ih => simp [ofNat, ih]

theorem toNat_ofNat (w n : Nat) : toNat (ofNat w n) = n % capacity w := by
  induction w generalizing n with
  | zero => simp [ofNat, capacity, Nat.mod_one]
  | succ w ih =>
    rw [ofNat, toNat_concat, ih, capacity, Nat.mod_mul, UInt8.toNat_ofNat']
    omega

theorem ofNat_toNat (b : Bytes) : ofNat b.length (toNat b) = b := by
  suffices h : ∀ r : Bytes, ofNat r.reverse.length (toNat r.reverse) = r.reverse by
    simpa using h b.reverse
  intro r
  induction r with
  | nil => rfl
  | cons x r ih =>
    have hx := x.toNat_lt
    have hlen : (x :: r).reverse.length = r.reverse.length + 1 := by simp
    rw [hlen, List.reverse_cons, ofNat, toNat_concat]
    have hdiv : (256 * toNat r.reverse + x.toNat) / 256 = toNat r.reverse := by omega
    have hbyte : UInt8.ofNat (256 * toNat r.reverse + x.toNat) = x := by
      apply UInt8.toNat_inj.mp
      rw [UInt8.toNat_ofNat']
      omega
    rw [hdiv, hbyte, ih]

theorem toNat_lt (b : Bytes) : toNat b < capacity b.length := by
  have h := toNat_ofNat b.length (toNat b)
  rw [ofNat_toNat] at h
  rw [h]
  exact Nat.mod_lt _ (capacity_pos _)

/-! ## Words -/

def ofWord8 (w : UInt8) : Bytes := [w]

def ofWord16 (w : UInt16) : Bytes := ofNat 2 w.toNat

/-- Four bytes, highest first. -/
def ofWord32 (w : UInt32) : Bytes := ofNat 4 w.toNat

@[simp] theorem length_ofWord8 (w : UInt8) : (ofWord8 w).length = 1 := rfl

@[simp] theorem length_ofWord16 (w : UInt16) : (ofWord16 w).length = 2 := by simp [ofWord16]

@[simp] theorem length_ofWord32 (w : UInt32) : (ofWord32 w).length = 4 := by simp [ofWord32]

/-! ## Reading from the front

A reader takes what it needs off the front of the bytes. It is total: at the end of the bytes it
reads a shorter number. Every caller has made sure of the length first. -/

/-- Reads from the front of the bytes that remain. -/
abbrev Reader := StateM Bytes

/-- A number of `w` bytes. -/
def number (w : Nat) : Reader Nat := fun b => (toNat (b.take w), b.drop w)

def word8 : Reader UInt8 := do return UInt8.ofNat (← number 1)

def word16 : Reader UInt16 := do return UInt16.ofNat (← number 2)

def join16 (high low : UInt8) : UInt16 := (word16.run [high, low]).1

def word32 : Reader UInt32 := do return UInt32.ofNat (← number 4)

theorem word8_append (w : UInt8) (rest : Bytes) : word8 (ofWord8 w ++ rest) = (w, rest) := by
  have h := w.toNat_lt
  show (UInt8.ofNat (toNat [w]), rest) = (w, rest)
  simp [toNat]

theorem word16_append (w : UInt16) (rest : Bytes) : word16 (ofWord16 w ++ rest) = (w, rest) := by
  have h := w.toNat_lt
  have hv : UInt16.ofNat (toNat (ofNat 2 w.toNat)) = w := by
    rw [toNat_ofNat, Nat.mod_eq_of_lt (by simpa [capacity] using h), UInt16.ofNat_toNat]
  have hn : number 2 (ofWord16 w ++ rest) = (toNat (ofWord16 w), rest) := by
    rw [number, List.take_left' (length_ofWord16 w), List.drop_left' (length_ofWord16 w)]
  show (UInt16.ofNat (number 2 (ofWord16 w ++ rest)).1, (number 2 (ofWord16 w ++ rest)).2) = _
  rw [hn]
  exact congrArg (·, rest) hv

theorem word32_append (w : UInt32) (rest : Bytes) : word32 (ofWord32 w ++ rest) = (w, rest) := by
  have h := w.toNat_lt
  have hv : UInt32.ofNat (toNat (ofNat 4 w.toNat)) = w := by
    rw [toNat_ofNat, Nat.mod_eq_of_lt (by simpa [capacity] using h), UInt32.ofNat_toNat]
  have hn : number 4 (ofWord32 w ++ rest) = (toNat (ofWord32 w), rest) := by
    rw [number, List.take_left' (length_ofWord32 w), List.drop_left' (length_ofWord32 w)]
  show (UInt32.ofNat (number 4 (ofWord32 w ++ rest)).1, (number 4 (ofWord32 w ++ rest)).2) = _
  rw [hn]
  exact congrArg (·, rest) hv

end Bytes

end FlowTraffic
