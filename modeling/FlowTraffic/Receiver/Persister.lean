import FlowTraffic.Store.Interface

/-!
# The persister

The persister puts payloads into a store under the keys 1, 2, 3 and so on. A payload that cannot be
put is left out and its key used for the next one.
-/

namespace FlowTraffic.Receiver

structure Persister (σ : Type) where
  store : σ
  nextKey : UInt32 := 1
  persisted : Nat := 0
  failed : Nat := 0
  /-- There is no key left. -/
  isExhausted : Bool := false

namespace Persister

variable {σ : Type} [Store σ]

def put (p : Persister σ) (payload : Bytes) : Persister σ :=
  if p.isExhausted then p
  else match Store.put p.store (Table.sequenceKey p.nextKey) payload with
    | (.error _, store) => { p with store, failed := p.failed + 1 }
    | (.ok (), store) =>
      if p.nextKey = 0xFFFFFFFF then
        { p with store, persisted := p.persisted + 1, isExhausted := true }
      else { p with store, persisted := p.persisted + 1, nextKey := p.nextKey + 1 }

def putAll (p : Persister σ) (payloads : List Bytes) : Persister σ := payloads.foldl put p

def finish (p : Persister σ) : Except StoreError Unit × Persister σ :=
  let (result, store) := Store.flush p.store
  (result, { p with store })

end Persister

/-- Puts payloads into a store, one after the other, and flushes it. -/
def persist {σ : Type} [Store σ] (store : σ) (payloads : List Bytes) :
    Except StoreError Unit × Persister σ :=
  (({ store } : Persister σ).putAll payloads).finish

end FlowTraffic.Receiver
