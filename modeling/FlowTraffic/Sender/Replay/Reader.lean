import FlowTraffic.Bytes

/-!
# The reader of a replay

The reader goes through the payloads of a store. In front of each one it looks for the shutdown
signal, then it offers the payload to the queue. It stops at the signal, at a closed queue, and at
the end of the store unless it starts over; over an empty store there is nothing to start.
-/

namespace FlowTraffic.Sender.Replay

/-- What the reader does next. -/
inductive ReaderStage
  | looking
  | offering
  | done
  deriving DecidableEq, Repr

/-- The payloads in key order, and those that are left of this pass. -/
structure Reader where
  payloads : List Bytes
  looping : Bool
  rest : List Bytes
  stage : ReaderStage := .looking
  /-- How many payloads the queue has taken. -/
  count : Nat := 0
  deriving DecidableEq, Repr

namespace Reader

/-- A reader at the start of its first pass. -/
def start (payloads : List Bytes) (looping : Bool) : Reader where
  payloads := payloads
  looping := looping
  rest := payloads

def stop (r : Reader) : Reader := { r with stage := .done }

def offer? (r : Reader) : Option Bytes := if r.stage = .offering then r.rest.head? else none

/-- Looks for the signal. At the end of a pass it starts over or stops. -/
def look (r : Reader) (signalled : Bool) : Reader :=
  if r.stage ≠ .looking then r
  else if r.rest.isEmpty then
    if r.looping && !r.payloads.isEmpty then { r with rest := r.payloads } else r.stop
  else if signalled then r.stop
  else { r with stage := .offering }

/-- The queue has taken the payload on offer. -/
def accepted (r : Reader) : Reader :=
  { r with rest := r.rest.tail, stage := .looking, count := r.count + 1 }

end Reader

end FlowTraffic.Sender.Replay
