/-!
# Bounded queues

A queue between two tasks takes so many items at most. Its reader can close it for good.
-/

namespace FlowTraffic

/-- Items in the order they were put in. -/
structure Queue (α : Type) where
  capacity : Nat
  items : List α := []
  isOpen : Bool := true
  deriving DecidableEq, Repr

namespace Queue

variable {α : Type}

def isEmpty (q : Queue α) : Bool := q.items.isEmpty

/-- The queue with one more item, if it is open and has room. -/
def push? (q : Queue α) (a : α) : Option (Queue α) :=
  if q.isOpen && q.items.length < q.capacity then some { q with items := q.items ++ [a] } else none

/-- The first item and the queue without it. -/
def pop? (q : Queue α) : Option (α × Queue α) :=
  match q.items with
  | [] => none
  | a :: items => some (a, { q with items })

/-- The queue after its reader has gone. -/
def close (q : Queue α) : Queue α := { q with isOpen := false }

theorem push?_eq_some_iff {q q' : Queue α} {a : α} :
    q.push? a = some q' ↔ q.isOpen = true ∧ q.items.length < q.capacity ∧
      q' = { q with items := q.items ++ [a] } := by
  unfold push?
  split
  · rename_i room
    obtain ⟨isOpen, room⟩ := Bool.and_eq_true_iff.1 room
    exact ⟨fun h => ⟨isOpen, of_decide_eq_true room, (Option.some.inj h).symm⟩, fun h => by rw [h.2.2]⟩
  · rename_i full
    refine ⟨nofun, fun ⟨isOpen, room, _⟩ => absurd ?_ full⟩
    simp [isOpen, room]

theorem pop?_eq_some_iff {q q' : Queue α} {a : α} :
    q.pop? = some (a, q') ↔ ∃ items, q.items = a :: items ∧ q' = { q with items } := by
  unfold pop?
  split
  · rename_i empty
    simp [empty]
  · rename_i b items first
    constructor
    · intro h
      cases h
      exact ⟨items, first, rfl⟩
    · rintro ⟨items', first', rfl⟩
      obtain ⟨rfl, rfl⟩ := List.cons.inj (first.symm.trans first')
      rfl

end Queue

end FlowTraffic
