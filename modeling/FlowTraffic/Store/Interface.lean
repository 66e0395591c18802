import FlowTraffic.Host.Fault
import FlowTraffic.Store.Table

/-!
# Stores

A store keeps a table. Putting, scanning and flushing can fail; a table kept in memory never does,
and `Flaky` fails where it is told to.
-/

namespace FlowTraffic

/-- Why the database refuses a call. -/
inductive DatabaseError
  | alreadyOpen
  | io (fault : Fault)
  | failed (text : String)
  deriving DecidableEq, Repr

def DatabaseError.message : DatabaseError → String
  | alreadyOpen => "Database already open. Cannot acquire lock."
  | io fault => s!"I/O error: {fault.message}"
  | failed text => text

/-- Why an operation on a store failed. -/
inductive StoreError
  | io (path : String) (fault : Fault)
  | database (error : DatabaseError)
  deriving DecidableEq, Repr

def StoreError.message : StoreError → String
  | io path fault => s!"Store IO on {path} failed: {fault.message}"
  | database e => s!"Store database failed: {e.message}"

/-- What every store can do. -/
class Store (σ : Type) where
  put : σ → Bytes → Bytes → Except StoreError Unit × σ
  /-- The table as a scan finds it. -/
  contents : σ → Except StoreError Table
  size : σ → Nat
  flush : σ → Except StoreError Unit × σ

/-- Visits the entries of a store in key order. -/
def Store.scan {σ τ : Type} [Store σ] (s : σ) (visitor : Visitor τ) (t : τ) :
    Except StoreError τ := do return (← Store.contents s).scan visitor t

def Store.isEmpty {σ : Type} [Store σ] (s : σ) : Bool := Store.size s == 0

instance : Store Table where
  put t key value := (.ok (), t.put key value)
  contents t := .ok t
  size t := t.size
  flush t := (.ok (), t)

/-- A store whose operations fail, leaving it as it was, where the flags say so. Puts are counted
from one. -/
structure Flaky (σ : Type) where
  inner : σ
  error : StoreError
  failPut : Nat → Bool := fun _ => false
  failScan : Bool := false
  failFlush : Bool := false
  puts : Nat := 0

instance {σ : Type} [Store σ] : Store (Flaky σ) where
  put s key value :=
    let s := { s with puts := s.puts + 1 }
    if s.failPut s.puts then (.error s.error, s)
    else
      let (result, inner) := Store.put s.inner key value
      (result, { s with inner })
  contents s := if s.failScan then .error s.error else Store.contents s.inner
  size s := Store.size s.inner
  flush s :=
    if s.failFlush then (.error s.error, s)
    else
      let (result, inner) := Store.flush s.inner
      (result, { s with inner })

end FlowTraffic
