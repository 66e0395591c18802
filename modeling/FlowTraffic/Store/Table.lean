import FlowTraffic.Bytes
import FlowTraffic.OrderedMap

/-!
# Tables

A table maps byte keys to byte values. A scan visits its entries in the byte order of their keys
until the visitor has enough.
-/

namespace FlowTraffic

/-- Values under keys, in the byte order of the keys. -/
abbrev Table := OrderedMap Bytes Bytes

/-- Takes one entry, and says whether it wants to see more. -/
abbrev Visitor (σ : Type) := Bytes → Bytes → σ → ForInStep σ

namespace Table

/-- Visits entries in their order until the visitor is done. -/
def visit {σ : Type} (visitor : Visitor σ) : List (Bytes × Bytes) → σ → σ
  | [], s => s
  | (key, value) :: rest, s =>
    match visitor key value s with
    | .done s => s
    | .yield s => visit visitor rest s

/-- Visits the entries of a table in key order. -/
def scan {σ : Type} (t : Table) (visitor : Visitor σ) (s : σ) : σ := visit visitor t.entries s

def sequenceKey (n : UInt32) : Bytes := Bytes.ofWord32 n

end Table

end FlowTraffic
