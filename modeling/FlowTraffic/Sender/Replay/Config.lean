import FlowTraffic.Host.Transport
import FlowTraffic.Netflow.Timestamp
import FlowTraffic.Shutdown
import FlowTraffic.Store.Interface

/-!
# What a replay does

A replay sends the payloads of a store to one collector, in the order of their keys. Several
workers share the work.
-/

namespace FlowTraffic.Sender.Replay

/-- The shortest time between the datagrams of a worker, in microseconds. -/
def leastDelay : Nat := 1000

/-- A replay. The delay is in microseconds. -/
structure Config where
  target : Endpoint
  workers : UInt16 := 1
  delay : Nat
  looping : Bool := false
  updateTimestamps : Bool := false
  deriving DecidableEq

/-- The datagram that a payload is sent as: the payload, or with the time of the send in its header. -/
def Config.datagram (c : Config) (unixSecs : UInt32) (payload : Bytes) : Bytes :=
  if c.updateTimestamps then Netflow.restamp unixSecs payload else payload

inductive Error
  | transport (why : TransportError)
  | store (why : StoreError)
  | registration (why : Shutdown.Refusal)
  | noWorkers
  | zeroDelay
  deriving DecidableEq, Repr

def Error.message : Error → String
  | transport why => why.message
  | store why => why.message
  | registration why => s!"Failed to register shutdown watcher: {why.message}"
  | noWorkers => "replay needs at least one worker"
  | zeroDelay => "replay delay must be at least 1ms"

def Config.check (c : Config) : Except Error Unit :=
  if c.workers = 0 then .error .noWorkers
  else if c.delay < leastDelay then .error .zeroDelay
  else .ok ()

end FlowTraffic.Sender.Replay
