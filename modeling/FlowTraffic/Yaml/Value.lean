import FlowTraffic.Text.Digits
import FlowTraffic.Yaml.Node

/-!
# Values of nodes

What a reader who knows what to expect makes of a node. A scalar is text whatever its style, and a
number only where it is plain. Where nothing is written, a mapping is empty.
-/

namespace FlowTraffic.Yaml

/-- Why a node is not what is expected. -/
inductive ShapeError
  | notText
  | notNumber
  | notNull
  | notMapping
  | unknownKey (name : String)
  | repeatedKey (name : String)
  | missingKey (name : String)
  | badValue (text : String)
  deriving DecidableEq, Repr

def ShapeError.message : ShapeError → String
  | notText => "invalid type: expected a string"
  | notNumber => "invalid type: expected an integer"
  | notNull => "invalid value: expected null"
  | notMapping => "invalid type: expected a map"
  | unknownKey name => s!"unknown field: {name}"
  | repeatedKey name => s!"duplicate field: {name}"
  | missingKey name => s!"missing field: {name}"
  | badValue text => text

/-! ## Scalars -/

def standardTag (name : String) : Bytes := bytesOf ("tag:yaml.org,2002:" ++ name)

def nullWords : List String := ["null", "Null", "NULL", "~"]

/-- A whole number: decimal without leading zeros, or behind a mark hex, octal or binary. A plus
sign may stand in front. -/
def number? (limit : Nat) (cs : List Char) : Option Nat :=
  match if cs.head? = some '+' then cs.tail else cs with
  | '0' :: 'x' :: cs => Text.number? 16 limit cs
  | '0' :: 'o' :: cs => Text.number? 8 limit cs
  | '0' :: 'b' :: cs => Text.number? 2 limit cs
  | '0' :: _ :: _ => none
  | cs => Text.number? 10 limit cs

namespace Scalar

/-- Whether the scalar may be a number: it is plain, or a literal block that is tagged as one. -/
def isNumeric (s : Scalar) : Bool :=
  s.style = .plain || (s.style = .literal && s.tag = some (standardTag "int"))

/-- Whether the scalar stands for nothing. With the tag for nothing it has to. -/
def isNull (s : Scalar) : Except ShapeError Bool :=
  if s.style ≠ .plain then .ok false
  else match s.tag with
    | none => .ok (s.text.isEmpty || s.text ∈ nullWords)
    | some tag =>
      if tag ≠ standardTag "null" then .ok false
      else if s.text ∈ nullWords then .ok true else .error .notNull

end Scalar

/-! ## Nodes -/

namespace Node

def text : Node → Except ShapeError String
  | .scalar s => .ok s.text
  | _ => .error .notText

def number (limit : Nat) : Node → Except ShapeError Nat
  | .scalar s =>
    if s.isNumeric then (number? limit s.text.toList).elim (.error .notNumber) .ok
    else .error .notNumber
  | _ => .error .notNumber

/-- A value that need not be given. -/
def optional {α : Type} (read : Node → Except ShapeError α) (n : Node) :
    Except ShapeError (Option α) := do
  let none ←
    match n with
    | .scalar s => s.isNull
    | _ => pure false
  if none then return .none else return some (← read n)

end Node

/-- The entries of a mapping, none of them an alias any more. -/
def Document.entries (d : Document) : Node → Except ShapeError (List (Node × Node))
  | .mapping es => .ok (es.map fun (key, value) => (d.follow key, d.follow value))
  | .scalar s => if s.text.isEmpty && s.style = .plain then .ok [] else .error .notMapping
  | _ => .error .notMapping

/-! ## Records -/

/-- Values under names, each name once. -/
abbrev Fields := List (String × Node)

namespace Fields

/-- The fields of a mapping whose keys are all known and none of them repeated. -/
def ofNode (d : Document) (known : List String) (n : Node) : Except ShapeError Fields := do
  (← d.entries n).foldlM (fun (fields : Fields) (key, value) => do
    let name ← key.text
    if name ∉ known then throw (.unknownKey name)
    if (fields.lookup name).isSome then throw (.repeatedKey name)
    return fields ++ [(name, value)]) []

def required {α : Type} (fields : Fields) (name : String) (read : Node → Except ShapeError α) :
    Except ShapeError α :=
  match fields.lookup name with
  | some n => read n
  | none => .error (.missingKey name)

/-- A field that may be left out. -/
def optional {α : Type} (fields : Fields) (name : String) (read : Node → Except ShapeError α) :
    Except ShapeError (Option α) :=
  match fields.lookup name with
  | some n => n.optional read
  | none => .ok none

end Fields

end FlowTraffic.Yaml
