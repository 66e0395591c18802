import FlowTraffic.Net.Ipv4

/-!
# IPv6 addresses

An address is eight groups of 16 bits. In its text two colons stand for one or more zero groups,
and the last two groups may be written as an IPv4 address. The text that is written uses the two
colons for the first longest run of at least two zero groups.
-/

namespace FlowTraffic

structure Ipv6 where
  groups : Vector UInt16 8
  deriving DecidableEq, Repr

namespace Ipv6

/-- `::`, which stands for any address of the machine. -/
def unspecified : Ipv6 := ⟨Vector.replicate 8 0⟩

/-- Whether the address stands for a group of machines. -/
def isMulticast (a : Ipv6) : Bool := (0xFF00 : UInt16) ≤ a.groups[0]

/-- Whether the address has a meaning on one link only, or within the machine for a group. -/
def needsScope (a : Ipv6) : Bool :=
  let lead := a.groups[0]
  lead &&& 0xFFC0 = 0xFE80 || (a.isMulticast && (lead &&& 0xF = 1 || lead &&& 0xF = 2))

/-! ## Reading -/

/-- One group: one to four hex digits. -/
def group? (cs : List Char) : Option Nat :=
  if cs.length ≤ 4 then Text.digits? 16 cs else none

/-- Groups between colons. The last part may be an IPv4 address if the flag allows it. -/
def parts? (ipv4Last : Bool) : List (List Char) → Option (List Nat)
  | [] => some []
  | [cs] =>
    match ipv4Last, Ipv4.ofChars? cs with
    | true, some a => some [a.toNat / 65536, a.toNat % 65536]
    | _, _ => do return [← group? cs]
  | cs :: rest => do return (← group? cs) :: (← parts? ipv4Last rest)

/-- The groups of a run of text, which may be empty. -/
def run? (ipv4Last : Bool) (cs : List Char) : Option (List Nat) :=
  if cs.isEmpty then some [] else parts? ipv4Last (cs.splitOn ':')

/-- The text before and after the first two colons in a row. -/
def splitColons? : List Char → Option (List Char × List Char)
  | ':' :: ':' :: rest => some ([], rest)
  | c :: rest => do
    let (before, after) ← splitColons? rest
    return (c :: before, after)
  | [] => none

def ofGroups? (gs : List Nat) : Option Ipv6 :=
  if h : gs.length = 8 then some ⟨⟨(gs.map UInt16.ofNat).toArray, by simp [h]⟩⟩ else none

def ofChars? (cs : List Char) : Option Ipv6 :=
  match splitColons? cs with
  | none => do ofGroups? (← run? true cs)
  | some (before, after) => do
    let front ← run? false before
    let back ← run? true after
    let missing := 8 - (front.length + back.length)
    if missing = 0 then none
    else ofGroups? (front ++ List.replicate missing 0 ++ back)

def ofString? (s : String) : Option Ipv6 := ofChars? s.toList

/-! ## Writing -/

def zeros (gs : List UInt16) : Nat := (gs.takeWhile (· == 0)).length

/-- Where the first longest run of zero groups starts and how long it is. -/
def longestZeros (gs : List UInt16) : Nat × Nat :=
  (List.range gs.length).foldl
    (fun best i => let n := zeros (gs.drop i); if best.2 < n then (i, n) else best) (0, 0)

def groupText (gs : List UInt16) : String := ":".intercalate (gs.map fun g => Text.hex g.toNat)

/-- The IPv4 address that the address stands for, if it is a mapped one. -/
def mapped? : List UInt16 → Option Ipv4
  | [0, 0, 0, 0, 0, 0xFFFF, high, low] => some ⟨high.toUInt32 * 65536 + low.toUInt32⟩
  | _ => none

def text (a : Ipv6) : String :=
  let gs := a.groups.toList
  match mapped? gs with
  | some v4 => "::ffff:" ++ v4.text
  | none =>
    let (start, count) := longestZeros gs
    if count ≤ 1 then groupText gs
    else groupText (gs.take start) ++ "::" ++ groupText (gs.drop (start + count))

end Ipv6

end FlowTraffic
