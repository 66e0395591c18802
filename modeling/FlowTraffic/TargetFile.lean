import FlowTraffic.OrderedMap
import FlowTraffic.Sender.Barrage.Config
import FlowTraffic.Text.Quoted
import FlowTraffic.Yaml.Value

/-!
# Target files

A target file names the collector of a barrage in YAML. Under `targets` stands one entry, the name
of the target with its address and pace.
-/

namespace FlowTraffic

open Sender (Barrage.Config)

/-- One target of a barrage. -/
structure Target where
  host : String
  port : UInt16
  workers : UInt16
  delayMillis : Nat
  src : Option Cidr := none
  dst : Option Cidr := none
  deriving DecidableEq

namespace TargetFile

/-- Why a file does not give a target. -/
inductive Error
  | yaml (why : Yaml.Error)
  | shape (why : Yaml.ShapeError)
  | unreadable (path : String) (why : Fault)
  | noTarget
  | manyTargets (count : Nat)
  | transport (why : TransportError)
  deriving DecidableEq, Repr

def Error.message : Error → String
  | yaml why => s!"Failed to deserialize yaml: {why.message}"
  | shape why => s!"Failed to deserialize yaml: {why.message}"
  | unreadable path why => s!"Failed to read config file {Text.quoted path}: {why.message}"
  | noTarget => "couldn't find a targets section in the given config file"
  | manyTargets count => s!"found {count} targets in config file, only 1 is allowed"
  | transport why => why.message

/-! ## Reading -/

def word16 (n : Yaml.Node) : Except Yaml.ShapeError UInt16 :=
  (n.number 65535).map UInt16.ofNat

def range (n : Yaml.Node) : Except Yaml.ShapeError Cidr := do
  (Cidr.parse (← n.text)).mapError fun e => .badValue e.message

def targetFields : List String := ["ip", "port", "workers", "delay", "src_range", "dst_range"]

def target (d : Yaml.Document) (n : Yaml.Node) : Except Yaml.ShapeError Target := do
  let fields ← Yaml.Fields.ofNode d targetFields n
  return {
    host := ← fields.required "ip" Yaml.Node.text
    port := ← fields.required "port" word16
    workers := ← fields.required "workers" word16
    delayMillis := ← fields.required "delay" (Yaml.Node.number 0xffffffffffffffff)
    src := ← fields.optional "src_range" range
    dst := ← fields.optional "dst_range" range }

/-- Reads the targets by their names. Of two with one name the later counts. -/
def targets (d : Yaml.Document) (n : Yaml.Node) :
    Except Yaml.ShapeError (OrderedMap String Target) := do
  let named ← (← d.entries n).mapM fun (key, value) => do return (← key.text, ← target d value)
  return .ofList named

def root (d : Yaml.Document) : Except Yaml.ShapeError (Option (OrderedMap String Target)) := do
  let fields ← Yaml.Fields.ofNode d ["targets"] d.root
  fields.optional "targets" (targets d)

/-- The one target of a document that may be empty. -/
def ofDocument (d : Option Yaml.Document) : Except Error (String × Target) := do
  let found ← match d with
    | none => pure none
    | some d => (root d).mapError .shape
  match (found.getD .empty).entries with
  | [] => throw .noTarget
  | [t] => return t
  | ts => throw (.manyTargets ts.length)

/-- The one target of a text, with its name. -/
def parse (text : String) : Except Error (String × Target) := do
  ofDocument (← (Yaml.Document.ofText? text).mapError .yaml)

/-- The one target of the file at a path. -/
def load (read : String → Except Fault String) (path : String) :
    Except Error (String × Target) := do
  parse (← (read path).mapError (.unreadable path))

end TargetFile

def Target.barrage (t : Target) (lookup : String → Except Fault (List IpAddr))
    (schema : Netflow.Schema) : Except TransportError Barrage.Config := do
  return {
    target := ← Transport.resolve lookup t.host t.port
    workers := t.workers
    delay := 1000 * t.delayMillis
    traffic := { src := t.src.getD .private10, dst := t.dst.getD .private10, schema } }

end FlowTraffic
