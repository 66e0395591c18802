import FlowTraffic.Net.Ipv4
import FlowTraffic.Random
import FlowTraffic.Text.Blank

/-!
# Address ranges

A range is a network address and the number of leading bits that all its members share. Its text
is the address, a slash and that number.
-/

namespace FlowTraffic

/-- All addresses that agree with the network in the first `bits` bits. -/
structure Cidr where
  network : Ipv4
  bits : Nat
  bits_le : bits ≤ 32
  aligned : network.toNat % (1 <<< (32 - bits)) = 0

/-- Why a text or a number does not make a range. -/
inductive CidrError
  | form (text : String)
  | address (text : String)
  | bits (text : String)
  deriving DecidableEq, Repr

def CidrError.message : CidrError → String
  | form text => s!"'{text}' is not in a.b.c.d/len form"
  | address text => s!"'{text}' is not an IPv4 address"
  | bits text => s!"'{text}' is not a prefix length between 0 and 32"

namespace Cidr

instance : DecidableEq Cidr := fun a b =>
  if h : a.network = b.network ∧ a.bits = b.bits then
    .isTrue (by cases a; cases b; simp_all)
  else .isFalse fun e => h (by simp [e])

def size (c : Cidr) : Nat := 1 <<< (32 - c.bits)

/-- The range of that many leading bits that holds the address. -/
def ofAddr (a : Ipv4) (bits : Nat) (h : bits ≤ 32) : Cidr where
  network := ⟨UInt32.ofNat (a.toNat - a.toNat % (1 <<< (32 - bits)))⟩
  bits := bits
  bits_le := h
  aligned := by
    have ha := a.bits.toNat_lt
    have hd : 1 <<< (32 - bits) ∣ a.toNat - a.toNat % (1 <<< (32 - bits)) :=
      Nat.dvd_sub_mod a.toNat
    simp only [Ipv4.toNat, UInt32.toNat_ofNat'] at hd ⊢
    rw [Nat.mod_eq_of_lt (Nat.lt_of_le_of_lt (Nat.sub_le _ _) ha)]
    exact Nat.mod_eq_zero_of_dvd hd

/-- The range that holds the address, if the number of bits is at most 32. -/
def new (a : Ipv4) (bits : Nat) : Except CidrError Cidr :=
  if h : bits ≤ 32 then .ok (ofAddr a bits h) else .error (.bits (toString bits))

def broadcast (c : Cidr) : Ipv4 := ⟨UInt32.ofNat (c.network.toNat + (c.size - 1))⟩

def contains (c : Cidr) (a : Ipv4) : Bool := a.toNat - a.toNat % c.size == c.network.toNat

/-- An address of the range, the first and the last included. -/
def sample (c : Cidr) : Draw Ipv4 := do
  return ⟨UInt32.ofNat (← Draw.range c.network.toNat c.size)⟩

def text (c : Cidr) : String := s!"{c.network.text}/{c.bits}"

/-- Reads a range. Blank characters around it are skipped; host bits of the address are cleared. -/
def parse (s : String) : Except CidrError Cidr := do
  let (addr, bits) ← (Text.splitFirst? '/' (Text.trim s.toList)).elim (.error (.form s)) .ok
  let a ← (Ipv4.ofChars? addr).elim (.error (.address (String.ofList addr))) .ok
  let n ← (Text.unsigned? 255 bits).elim (.error (.bits (String.ofList bits))) .ok
  new a n

/-- `10.0.0.0/8`, the range used where none is named. -/
def private10 : Cidr := ofAddr (.ofOctets 10 0 0 0) 8 (by decide)

end Cidr

end FlowTraffic
