import FlowTraffic.Text.Digits

/-!
# IPv4 addresses

An address is 32 bits. Its text is four decimal octets with dots between them; the reader takes
exactly that, with no leading zeros and nothing around it.
-/

namespace FlowTraffic

structure Ipv4 where
  bits : UInt32
  deriving DecidableEq, Inhabited, Repr

namespace Ipv4

def ofOctets (a b c d : Nat) : Ipv4 := ⟨UInt32.ofNat (((a * 256 + b) * 256 + c) * 256 + d)⟩

def toNat (a : Ipv4) : Nat := a.bits.toNat

/-- The four octets, first one first. -/
def octets (a : Ipv4) : List Nat :=
  let n := a.toNat
  [n / 16777216, n / 65536 % 256, n / 256 % 256, n % 256]

/-- `0.0.0.0`, which stands for any address of the machine. -/
def unspecified : Ipv4 := ⟨0⟩

def text (a : Ipv4) : String := ".".intercalate (a.octets.map toString)

/-- An octet in text: one to three digits, at most 255, no leading zero. -/
def octet? (cs : List Char) : Option Nat :=
  if cs.length ≤ 3 && (cs.head? != some '0' || cs.length == 1) then Text.number? 10 255 cs else none

def ofChars? (cs : List Char) : Option Ipv4 := do
  match ← (cs.splitOn '.').mapM octet? with
  | [a, b, c, d] => return ofOctets a b c d
  | _ => none

def ofString? (s : String) : Option Ipv4 := ofChars? s.toList

end Ipv4

end FlowTraffic
