import FlowTraffic.Netflow.Flow
import FlowTraffic.OrderedMap

/-!
# The registry of templates

A collector remembers, for every template ID it has seen, which schema the latest template of that
ID describes. A template that describes none is remembered as unsupported, so that data for it
fails with a precise cause.
-/

namespace FlowTraffic.Netflow

/-- What a collector knows about template IDs: the schema of an ID, or that it is unsupported. -/
structure Registry where
  known : OrderedMap UInt16 (Option Schema) := .empty
  deriving Inhabited, DecidableEq

namespace Registry

def empty : Registry := {}

/-- What is remembered for the ID: nothing, that it is unsupported, or its schema. -/
def find? (r : Registry) (id : UInt16) : Option (Option Schema) := r.known.find? id

def size (r : Registry) : Nat := r.known.size

/-- The registry after a template. The latest template of an ID counts. -/
def register (r : Registry) (t : Template) : Registry :=
  ⟨r.known.put t.id (Schema.ofFields? t.fields)⟩

def registerAll (r : Registry) (ts : List Template) : Registry := ts.foldl register r

/-- The registry that knows the templates of all schemas. -/
def builtin : Registry := empty.registerAll (Schema.all.map Schema.template)

/-- The schema that lays out the data sets of an ID. -/
def schema (r : Registry) (id : UInt16) : Except DecodeError Schema :=
  match r.find? id with
  | some (some s) => .ok s
  | some none => .error (.unsupportedTemplate id)
  | none => .error (.unknownTemplate id)

theorem find?_register (r : Registry) (t : Template) (id : UInt16) :
    (r.register t).find? id =
      if id = t.id then some (Schema.ofFields? t.fields) else r.find? id :=
  r.known.find?_put t.id id _

end Registry

end FlowTraffic.Netflow
