/-!
# Numbers in text

Readers of whole numbers written with ASCII digits. A number that does not fit the stated limit is
refused, never wrapped.
-/

namespace FlowTraffic.Text

/-- The value of an ASCII digit or letter as a digit of the base, if it is one. -/
def digit? (base : Nat) (c : Char) : Option Nat :=
  let v :=
    if c.isDigit then c.toNat - '0'.toNat
    else if c.isLower then c.toNat - 'a'.toNat + 10
    else if c.isUpper then c.toNat - 'A'.toNat + 10
    else base
  if v < base then some v else none

/-- The value of a run of digits, at least one. -/
def digits? (base : Nat) (cs : List Char) : Option Nat :=
  if cs.isEmpty then none
  else cs.foldl (fun n c => do return base * (← n) + (← digit? base c)) (some 0)

/-- A number in digits, if it is at most the limit. -/
def number? (base limit : Nat) (cs : List Char) : Option Nat := do
  let n ← digits? base cs
  if n ≤ limit then some n else none

/-- An unsigned decimal number with an optional plus sign. Leading zeros are allowed. -/
def unsigned? (limit : Nat) : List Char → Option Nat
  | '+' :: cs => number? 10 limit cs
  | cs => number? 10 limit cs

/-- A decimal number with an optional sign, between zero and the limit: `-0` is zero. -/
def nonnegative? (limit : Nat) : List Char → Option Nat
  | '-' :: cs => number? 10 0 cs
  | cs => unsigned? limit cs

def hex (n : Nat) : String := String.ofList (Nat.toDigits 16 n)

/-- Lower-case hex filled up with zeros from the left to a least width. -/
def hexPadded (width n : Nat) : String :=
  let digits := Nat.toDigits 16 n
  String.ofList (List.replicate (width - digits.length) '0' ++ digits)

end FlowTraffic.Text
