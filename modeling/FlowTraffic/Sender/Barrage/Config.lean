import FlowTraffic.Sender.Source
import FlowTraffic.Shutdown

/-!
# What a barrage does

A barrage runs a number of exporters against one collector at a steady pace. Every worker needs a
source ID of its own, so there cannot be more workers than IDs.
-/

namespace FlowTraffic.Sender.Barrage

open Netflow

def flowsPerPacket : UInt16 := 100

/-- The shortest time between data packets, in microseconds. -/
def leastDelay : Nat := 1000

/-- A barrage. Times are in microseconds. -/
structure Config where
  target : Endpoint
  workers : UInt16
  delay : Nat
  traffic : Traffic := {}
  dashboard : Option Endpoint := none
  deriving DecidableEq

/-- Why a barrage does not start, or why a worker stops. -/
inductive Error
  | payload (why : WriteError)
  | transport (why : TransportError)
  | dashboard (addr : Endpoint) (why : OsError)
  | registration (why : Shutdown.Refusal)
  | noWorkers
  | tooManyWorkers (count : UInt16)
  | zeroDelay
  deriving DecidableEq, Repr

def Error.message : Error → String
  | payload why => s!"Payload generation failed: {why.message}"
  | transport why => why.message
  | dashboard addr why => s!"Failed to bind dashboard to {addr.text}: {(Fault.os why).message}"
  | registration why => s!"Failed to register shutdown watcher: {why.message}"
  | noWorkers => "barrage needs at least one worker"
  | tooManyWorkers count => s!"barrage supports at most {sourceCount} workers, got {count}"
  | zeroDelay => "barrage delay must be at least 1ms"

/-- What each worker's exporter sends. -/
def Config.profile (c : Config) : Profile := c.traffic.profile flowsPerPacket

def Config.check (c : Config) : Except Error Unit :=
  if c.workers = 0 then .error .noWorkers
  else if sourceCount < c.workers.toNat then .error (.tooManyWorkers c.workers)
  else if c.delay < leastDelay then .error .zeroDelay
  else c.profile.check.mapError fun e => .payload (.tooLarge e)

end FlowTraffic.Sender.Barrage
