import FlowTraffic.Bytes
import FlowTraffic.Queue

/-!
# Fan out

Every payload goes to every outlet, one outlet after the other. An outlet that is found closed is
taken out: the last outlet moves to its place and is next.
-/

namespace FlowTraffic.Receiver

/-- The list with one member taken out and the last one in its place. -/
def swapRemove {α : Type} (xs : List α) (i : Nat) : List α :=
  match xs.getLast? with
  | none => []
  | some last => (xs.set i last).dropLast

/-- The state of the fan out. -/
structure Fanout where
  /-- The queues of all outlets. -/
  queues : List (Queue Bytes)
  /-- The numbers of the outlets that were not found closed. -/
  outlets : List Nat
  /-- The payload at hand and the place of the outlet that is next. -/
  current : Option (Bytes × Nat) := none
  isDone : Bool := false
  deriving DecidableEq

namespace Fanout

/-- A fan out to so many outlets, each with a queue of that capacity. -/
def start (outlets capacity : Nat) : Fanout where
  queues := List.replicate outlets { capacity }
  outlets := List.range outlets

def isIdle (f : Fanout) : Bool := f.current.isNone && !f.isDone

def take (f : Fanout) (payload : Bytes) : Fanout := { f with current := some (payload, 0) }

/-- The fan out with the next outlet at a place. Past the last one the payload is done with, and
without any outlet left so is the fan out. -/
def moveOn (f : Fanout) (payload : Bytes) (place : Nat) : Fanout :=
  { f with
    current := if place < f.outlets.length then some (payload, place) else none
    isDone := f.outlets.isEmpty }

/-- Offers the payload at hand to the next outlet, if its queue has room or is closed. -/
def offer (f : Fanout) : Option Fanout := do
  let (payload, place) ← f.current
  match f.outlets[place]? with
  | none => return f.moveOn payload place
  | some number =>
    let queue ← f.queues[number]?
    if queue.isOpen then
      let queue ← queue.push? payload
      return { f with queues := f.queues.set number queue }.moveOn payload (place + 1)
    else return { f with outlets := swapRemove f.outlets place }.moveOn payload place

def pop (f : Fanout) (number : Nat) : Option (Bytes × Fanout) := do
  let (payload, queue) ← (← f.queues[number]?).pop?
  return (payload, { f with queues := f.queues.set number queue })

/-- Closes an outlet for good. -/
def close (f : Fanout) (number : Nat) : Fanout :=
  { f with queues := f.queues.modify number Queue.close }

end Fanout

end FlowTraffic.Receiver
