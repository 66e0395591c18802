import FlowTraffic.Log
import FlowTraffic.Netflow.Packet

/-!
# The validator

The validator counts the payloads that are packets and those that are not, and passes the packets
on. Once nobody takes them it goes on counting. It reports at regular times. Times are in
milliseconds.
-/

namespace FlowTraffic.Receiver

/-- How many payloads were packets and how many were not. -/
structure Counts where
  valid : Nat := 0
  invalid : Nat := 0
  deriving DecidableEq, Repr

namespace Counts

def add (c : Counts) (payload : Bytes) : Counts :=
  if Netflow.isPacket payload then { c with valid := c.valid + 1 }
  else { c with invalid := c.invalid + 1 }

def text (c : Counts) : String :=
  s!"Netflow v9 Packets: {c.valid} Ignored Packets: {c.invalid}"

end Counts

def reportInterval : Nat := 10000

/-- The time without a payload after which a report warns. -/
def idleLimit : Nat := 30000

structure Validator where
  counts : Counts := {}
  /-- The packet that is to be passed on. -/
  holding : Option Bytes := none
  /-- Nobody takes packets any more. -/
  isAbandoned : Bool := false
  /-- When the latest payload came. -/
  lastPayload : Nat := 0
  isDone : Bool := false
  log : List LogLine := []
  deriving DecidableEq

namespace Validator

/-- Whether the validator is ready for a payload or a report. -/
def isIdle (v : Validator) : Bool := v.holding.isNone && !v.isDone

/-- Counts a payload. A packet is held to be passed on, as long as somebody takes packets. -/
def receive (v : Validator) (now : Nat) (payload : Bytes) : Validator :=
  { v with
    counts := v.counts.add payload
    holding := if Netflow.isPacket payload && !v.isAbandoned then some payload else none
    lastPayload := now }

/-- The held packet was taken. -/
def passed (v : Validator) : Validator := { v with holding := none }

/-- Nobody will take the held packet. -/
def abandoned (v : Validator) : Validator :=
  { v with
    holding := none
    isAbandoned := true
    log := v.log ++ [.warn "downstream stage gone, discarding valid packets"] }

/-- Reports the counts, and warns if no payload has come for long. -/
def tick (v : Validator) (now : Nat) : Validator :=
  let idle := now - v.lastPayload
  let warning :=
    if idleLimit ≤ idle then [.warn s!"No packets received in the last {idle / 1000}s"] else []
  { v with log := v.log ++ [.info v.counts.text] ++ warning }

def finish (v : Validator) : Validator :=
  { v with isDone := true, log := v.log ++ [.info ("Validator finished, " ++ v.counts.text)] }

end Validator

end FlowTraffic.Receiver
