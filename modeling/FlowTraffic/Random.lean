/-!
# Random words

All randomness is an endless row of 32-bit words, drawn one after the other. A value of a range is
made from one word by a widening multiplication, and from a second word in the rare case that the
first leaves the rounding open.
-/

namespace FlowTraffic

/-- An endless row of words and how many of them are drawn. -/
structure Words where
  word : Nat → UInt32
  drawn : Nat := 0

/-- A value made from random words. -/
abbrev Draw := StateM Words

namespace Words

/-- The words of a list over and over. -/
def cycle (words : Array UInt32) : Words where
  word n := words.getD (n % words.size) 0

/-- The affine map `x ↦ a * x + c` on words. -/
structure Affine where
  a : UInt32
  c : UInt32

/-- The map applied `n` times. -/
def Affine.iterate (m : Affine) (n : Nat) : Affine :=
  if n = 0 then ⟨1, 0⟩
  else
    let half := (⟨m.a * m.a, m.a * m.c + m.c⟩ : Affine).iterate (n / 2)
    if n % 2 = 0 then half else ⟨half.a * m.a, half.a * m.c + half.c⟩
termination_by n
decreasing_by omega

/-- The congruential row of a seed: every word is the one before, or first the seed, times 1664525
plus 1013904223. -/
def congruential (seed : UInt32) : Words where
  word n :=
    let m := (⟨1664525, 1013904223⟩ : Affine).iterate (n + 1)
    m.a * seed + m.c

end Words

namespace Draw

def word : Draw UInt32 := fun w => (w.word w.drawn, { w with drawn := w.drawn + 1 })

/-- A fair coin: the top bit of a word. -/
def coin : Draw Bool := do return 0x80000000 ≤ (← word).toNat

def byte : Draw UInt8 := do return (← word).toUInt8

def wordCount : Nat := 0x100000000

/-- A number below `n`, where `n` is between 1 and 2³². The word is a fraction of 2³², and the
result is that fraction of `n`, rounded down. A second word refines the fraction when it could
still carry the result over. -/
def below (n : Nat) : Draw Nat := do
  let w ← word
  if n = wordCount then return w.toNat
  let product := w.toNat * n
  let whole := product / wordCount
  let part := product % wordCount
  if wordCount - n < part then
    let refined := (← word).toNat * n / wordCount
    return if wordCount ≤ part + refined then whole + 1 else whole
  else
    return whole

/-- A number from `low` up, one of `n`. -/
def range (low n : Nat) : Draw Nat := do return low + (← below n)

/-- The congruential row of a drawn seed. -/
def seeded : Draw Words := do return .congruential (← word)

def many {α : Type} (n : Nat) (d : Draw α) : Draw (List α) :=
  (List.replicate n ()).mapM fun _ => d

end Draw

end FlowTraffic
