import FlowTraffic.Metrics
import FlowTraffic.Queue
import FlowTraffic.Receiver.Validator

/-!
# Intake

The listener reads datagrams and hands them to the validator through one bounded queue, and the
validator hands packets on through another. Only the listener looks for the shutdown signal. What
it has read before it stops goes all the way.
-/

namespace FlowTraffic.Receiver

def queueCapacity : Nat := 1024

/-- The state of listener and validator. -/
structure Intake where
  /-- The labels of the counters. -/
  labels : List (String × String)
  signalled : Bool := false
  isListening : Bool := true
  /-- The datagram that the listener has read and not yet handed over. -/
  held : Option Bytes := none
  /-- The datagrams that were read, in their order. -/
  received : List Bytes := []
  inbox : Queue Bytes := { capacity := queueCapacity }
  validator : Validator := {}
  outbox : Queue Bytes := { capacity := queueCapacity }
  /-- The counters, those of the stages behind the validator included. -/
  metrics : Metrics := .empty

/-- What can happen to listener and validator. -/
inductive IntakeMove
  | signal
  | read (datagram : Bytes)
  | hand
  | stop
  | validate (now : Nat)
  | pass
  | tick (now : Nat)
  | finish
  deriving DecidableEq, Repr

namespace Intake

/-- The counters after the validator has seen a payload. -/
def countPayload (i : Intake) (payload : Bytes) : Metrics :=
  if Netflow.isPacket payload then i.metrics else i.metrics.add ⟨"packets_invalid", i.labels⟩ 1

def step (i : Intake) : IntakeMove → Option Intake
  | .signal => some { i with signalled := true }
  | .read datagram =>
    if i.isListening && i.held.isNone then
      some { i with
        held := some datagram
        received := i.received ++ [datagram]
        metrics := (i.metrics.add ⟨"packets_received", i.labels⟩ 1).add
          ⟨"bytes_received", i.labels⟩ datagram.length }
    else none
  | .hand => do
    let datagram ← i.held
    if i.inbox.isOpen then return { i with inbox := ← i.inbox.push? datagram, held := none }
    else return { i with isListening := false, held := none }
  | .stop =>
    if i.isListening && i.held.isNone && i.signalled then some { i with isListening := false }
    else none
  | .validate now => do
    if !i.validator.isIdle then none
    let (payload, inbox) ← i.inbox.pop?
    return { i with
      inbox
      validator := i.validator.receive now payload
      metrics := i.countPayload payload }
  | .pass => do
    let payload ← i.validator.holding
    if i.outbox.isOpen then
      return { i with outbox := ← i.outbox.push? payload, validator := i.validator.passed }
    else return { i with validator := i.validator.abandoned }
  | .tick now =>
    if i.validator.isIdle then some { i with validator := i.validator.tick now } else none
  | .finish =>
    if i.validator.isIdle && !i.isListening && i.inbox.isEmpty then
      some { i with validator := i.validator.finish, inbox := i.inbox.close }
    else none

def isDrained (i : Intake) : Bool := i.validator.isDone && i.outbox.isEmpty

end Intake

end FlowTraffic.Receiver
