import FlowTraffic.Receiver.Fanout
import Mathlib.Data.List.Basic

/-!
# What an outlet is owed

While no outlet is closed, every payload that the fan out takes comes to every outlet, in the order in
which it was taken. What an outlet is owed is in its queue, and after that it is the payload at hand, if
the outlet's turn has not come.
-/

namespace FlowTraffic.Receiver.Fanout

def queued (f : Fanout) (k : Nat) : List Bytes := (f.queues[k]?.map Queue.items).getD []

/-- The payload at hand, if it has not come to the outlet. -/
def due (f : Fanout) (k : Nat) : List Bytes :=
  match f.current with
  | some (payload, place) => if place ≤ k then [payload] else []
  | none => []

/-- What an outlet has yet to send of what the fan out has taken. -/
def owed (f : Fanout) (k : Nat) : List Bytes := f.queued k ++ f.due k

/-- None of the outlets has been found closed, nor will be. -/
structure Whole (f : Fanout) (n : Nat) : Prop where
  outlets : f.outlets = List.range n
  length : f.queues.length = n
  isOpen : ∀ q ∈ f.queues, q.isOpen = true
  place_lt : ∀ payload place, f.current = some (payload, place) → place < n

variable {f f' : Fanout} {n k : Nat} {payload : Bytes}

theorem whole_start (n capacity : Nat) : (start n capacity).Whole n where
  outlets := rfl
  length := by simp [start]
  isOpen q hq := by rw [List.eq_of_mem_replicate hq]
  place_lt := nofun

theorem owed_start (n capacity k : Nat) : (start n capacity).owed k = [] := by
  simp only [owed, queued, due, start, List.getElem?_replicate, List.append_nil]
  split <;> rfl

/-! ## Taking -/

theorem Whole.take (h : f.Whole n) (hn : 0 < n) (payload : Bytes) : (f.take payload).Whole n where
  outlets := h.outlets
  length := h.length
  isOpen := h.isOpen
  place_lt := by
    rintro _ _ ⟨⟩
    exact hn

theorem owed_take (free : f.current = none) (payload : Bytes) (k : Nat) :
    (f.take payload).owed k = f.owed k ++ [payload] := by
  simp [owed, due, queued, Fanout.take, free]

/-! ## Offering -/

/-- The fan out after an outlet took the payload at hand. -/
def given (f : Fanout) (n : Nat) (payload : Bytes) (place : Nat) (q : Queue Bytes) : Fanout where
  queues := f.queues.set place { q with items := q.items ++ [payload] }
  outlets := f.outlets
  current := if place + 1 < n then some (payload, place + 1) else none
  isDone := false

theorem Whole.exists_given (h : f.Whole n) (ho : f.offer = some f') :
    ∃ payload place q, f.current = some (payload, place) ∧ f.queues[place]? = some q ∧
      f' = f.given n payload place q := by
  obtain ⟨⟨payload, place⟩, hcurrent, ho⟩ := Option.bind_eq_some_iff.1 ho
  have hplace := h.place_lt payload place hcurrent
  have hn : 0 < n := Nat.zero_lt_of_lt hplace
  have houtlet : f.outlets[place]? = some place := by simp [h.outlets, hplace]
  simp only [houtlet] at ho
  obtain ⟨q, hq, ho⟩ := Option.bind_eq_some_iff.1 ho
  rw [if_pos (h.isOpen q (List.mem_of_getElem? hq))] at ho
  obtain ⟨q', hpush, ho⟩ := Option.bind_eq_some_iff.1 ho
  obtain ⟨-, -, rfl⟩ := Queue.push?_eq_some_iff.1 hpush
  cases ho
  refine ⟨payload, place, q, hcurrent, hq, ?_⟩
  have hmore : (List.range n).isEmpty = false := by
    rw [List.isEmpty_eq_false_iff, Ne, List.range_eq_nil]
    exact Nat.ne_of_gt hn
  simp [moveOn, given, h.outlets, hmore]

theorem Whole.given (h : f.Whole n) {place : Nat} {q : Queue Bytes} (hq : f.queues[place]? = some q)
    (payload : Bytes) : (f.given n payload place q).Whole n where
  outlets := h.outlets
  length := by simp [Fanout.given, h.length]
  isOpen q' hq' := by
    rcases List.mem_or_eq_of_mem_set hq' with hq' | rfl
    · exact h.isOpen q' hq'
    · exact h.isOpen q (List.mem_of_getElem? hq)
  place_lt payload' place' hcurrent := by
    simp only [Fanout.given] at hcurrent
    split at hcurrent
    · cases hcurrent
      assumption
    · cases hcurrent

theorem owed_given {place : Nat} {q : Queue Bytes} (hcurrent : f.current = some (payload, place))
    (hq : f.queues[place]? = some q) (hk : k < n) : (f.given n payload place q).owed k = f.owed k := by
  have hdue : (f.given n payload place q).due k = if place + 1 ≤ k then [payload] else [] := by
    simp only [due, given]
    by_cases hplace : place + 1 < n
    · rw [if_pos hplace]
    · rw [if_neg hplace, if_neg (by omega)]
  have hbefore : f.due k = if place ≤ k then [payload] else [] := by simp only [due, hcurrent]
  rw [owed, owed, hdue, hbefore]
  by_cases hk : place = k
  · subst hk
    obtain ⟨hlt, -⟩ := List.getElem?_eq_some_iff.1 hq
    rw [if_neg (by omega), if_pos (Nat.le_refl _)]
    simp [queued, given, hq, List.getElem?_set_self hlt]
  · have hle : place + 1 ≤ k ↔ place ≤ k := by omega
    simp only [queued, given, List.getElem?_set_ne hk, hle]

/-! ## Sending -/

theorem exists_of_pop (hp : f.pop k = some (payload, f')) :
    ∃ q items, f.queues[k]? = some q ∧ q.items = payload :: items ∧
      f' = { f with queues := f.queues.set k { q with items } } := by
  obtain ⟨q, hq, hp⟩ := Option.bind_eq_some_iff.1 hp
  obtain ⟨⟨first, q'⟩, hpop, hp⟩ := Option.bind_eq_some_iff.1 hp
  obtain ⟨items, hitems, rfl⟩ := Queue.pop?_eq_some_iff.1 hpop
  cases hp
  exact ⟨q, items, hq, hitems, rfl⟩

theorem Whole.pop (h : f.Whole n) (hp : f.pop k = some (payload, f')) : f'.Whole n := by
  obtain ⟨q, items, hq, hitems, rfl⟩ := exists_of_pop hp
  refine ⟨h.outlets, by simp [h.length], fun q' hq' => ?_, h.place_lt⟩
  rcases List.mem_or_eq_of_mem_set hq' with hq' | rfl
  · exact h.isOpen q' hq'
  · exact h.isOpen q (List.mem_of_getElem? hq)

theorem queued_pop (hp : f.pop k = some (payload, f')) (j : Nat) :
    f.queued j = (if j = k then [payload] else []) ++ f'.queued j := by
  obtain ⟨q, items, hq, hitems, rfl⟩ := exists_of_pop hp
  by_cases hj : k = j
  · subst hj
    obtain ⟨hlt, -⟩ := List.getElem?_eq_some_iff.1 hq
    simp [queued, hq, hitems, List.getElem?_set_self hlt]
  · simp [queued, List.getElem?_set_ne hj, Ne.symm hj]

theorem isDone_pop (hp : f.pop k = some (payload, f')) : f'.isDone = f.isDone := by
  obtain ⟨q, items, hq, hitems, rfl⟩ := exists_of_pop hp
  rfl

theorem current_pop (hp : f.pop k = some (payload, f')) : f'.current = f.current := by
  obtain ⟨q, items, hq, hitems, rfl⟩ := exists_of_pop hp
  rfl

theorem owed_pop (hp : f.pop k = some (payload, f')) (j : Nat) :
    f.owed j = (if j = k then [payload] else []) ++ f'.owed j := by
  rw [owed, owed, queued_pop hp, due, due, current_pop hp, List.append_assoc]

end FlowTraffic.Receiver.Fanout
