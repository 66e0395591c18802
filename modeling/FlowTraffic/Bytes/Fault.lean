import FlowTraffic.Bytes

/-!
# What can go wrong with bytes

`Shortage` is the cause of every failed read: some part needs more bytes than remain.
-/

namespace FlowTraffic

/-- The parts of a packet that a reader asks bytes for. -/
inductive Part
  | version
  | header
  | flowSetHeader
  | templateHeader
  | templateFields
  | ipfixHeader
  | ipfixTemplateHeader
  | ipfixScopeFieldCount
  | ipfixFieldSpecifier
  | ipfixEnterpriseNumber
  deriving DecidableEq, Repr

def Part.name : Part → String
  | version => "version"
  | header => "header"
  | flowSetHeader => "flow set header"
  | templateHeader => "template header"
  | templateFields => "template fields"
  | ipfixHeader => "ipfix header"
  | ipfixTemplateHeader => "ipfix template header"
  | ipfixScopeFieldCount => "ipfix scope field count"
  | ipfixFieldSpecifier => "ipfix field specifier"
  | ipfixEnterpriseNumber => "ipfix enterprise number"

/-- A part needs `needed` bytes, and only `remaining` are left. -/
structure Shortage where
  part : Part
  needed : Nat
  remaining : Nat
  deriving DecidableEq, Repr

def Shortage.message (s : Shortage) : String :=
  s!"{s.part.name} needs {s.needed} bytes but only {s.remaining} remain"

/-- A packet needs `needed` bytes where `limit` are allowed. -/
structure TooLarge where
  needed : Nat
  limit : Nat
  deriving DecidableEq, Repr

def TooLarge.message (e : TooLarge) : String :=
  s!"packet of {e.needed} bytes exceeds the {e.limit} byte limit"

theorem exists_of_bind {ε α β : Type} {x : Except ε α} {k : α → Except ε β} {b : β}
    (h : (x >>= k) = .ok b) : ∃ a, x = .ok a ∧ k a = .ok b := by
  cases x with
  | error e => cases h
  | ok a => exact ⟨a, rfl, h⟩

end FlowTraffic
