import FlowTraffic.OrderedMap

/-!
# Counters

A counter has a name and labels, and only grows. It is there once it has been added to, be it zero.
-/

namespace FlowTraffic

/-- What is counted, with what it is counted for. -/
structure Counter where
  name : String
  labels : List (String × String)
  deriving DecidableEq, Repr

/-- The counter as one text, its labels in their order. -/
def Counter.text (c : Counter) : String :=
  c.name ++ "\x7b" ++ ",".intercalate (c.labels.map fun (k, v) => k ++ "=" ++ v) ++ "\x7d"

/-- The totals under the texts of their counters. -/
abbrev Metrics := OrderedMap String Nat

namespace Metrics

def add (m : Metrics) (c : Counter) (n : Nat) : Metrics :=
  m.put c.text ((m.find? c.text).getD 0 + n)

/-- The labels of one part of the program. -/
def component (kind name : String) : List (String × String) :=
  [("component", kind), ("component_name", name)]

def sent (m : Metrics) (labels : List (String × String)) (bytes : Nat) : Metrics :=
  (m.add ⟨"bytes_written", labels⟩ bytes).add ⟨"packets_sent", labels⟩ 1

def failed (m : Metrics) (labels : List (String × String)) : Metrics :=
  m.add ⟨"request_failure", labels⟩ 1

end Metrics

end FlowTraffic
