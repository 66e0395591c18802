/-!
# Byte counts for people

A count is shown in the largest binary unit that is not above it, with two decimals. The count is
first rounded to 53 significant bits, and both roundings go to the nearest, a tie to the even
neighbour.
-/

namespace FlowTraffic.Text

/-- The quotient rounded to the nearest whole number, a tie to the even one. -/
def roundDivEven (num den : Nat) : Nat :=
  let q := num / den
  let twice := 2 * (num % den)
  if twice < den then q else if den < twice then q + 1 else q + q % 2

/-- The number rounded to so many significant bits. -/
def roundToBits (bits n : Nat) : Nat :=
  let unit := 1 <<< (Nat.log2 n + 1 - bits)
  roundDivEven n unit * unit

/-- The units above the byte, largest first, with their sizes as powers of two. -/
def binaryUnits : List (Nat × String) :=
  [(60, "EiB"), (50, "PiB"), (40, "TiB"), (30, "GiB"), (20, "MiB"), (10, "KiB")]

def twoDigits (n : Nat) : String := if n < 10 then s!"0{n}" else toString n

/-- The count with its unit, such as `1.50 KiB`. Below 1024 it is a whole number of bytes. -/
def byteCount (n : Nat) : String :=
  match binaryUnits.find? fun u => 1 <<< u.1 ≤ n with
  | none => s!"{n} B"
  | some (power, unit) =>
    let hundredths := roundDivEven (100 * roundToBits 53 n) (1 <<< power)
    s!"{hundredths / 100}." ++ twoDigits (hundredths % 100) ++ s!" {unit}"

end FlowTraffic.Text
