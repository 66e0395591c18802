import FlowTraffic.Host.Fault
import FlowTraffic.Net.Endpoint

/-!
# What the machine's network answers

A program asks the machine to bind sockets, to send datagrams and to listen for connections.
`Network` holds the answers as functions of the question, so that a run is a plain value.
-/

namespace FlowTraffic

/-- The answers of a machine. Binds and sends are numbered from zero, so that the same question
can have different answers. -/
structure Network where
  bind : Nat → Endpoint → Except OsError Unit := fun _ _ => .ok ()
  /-- By number, destination and size of the datagram. -/
  send : Nat → Endpoint → Nat → Except OsError Unit
  listen : Endpoint → Except OsError Unit := fun _ => .ok ()

namespace Network

/-- The largest size that fits the length field of a datagram. -/
def maxLength : Nat := 65535

def maxPayload : Nat := 65507

/-! ## Binding -/

/-- The first port that everyone may bind. -/
def firstOpenPort : UInt16 := 1024

/-- What is wrong with binding a socket while the only interface is down. Without any IPv4 address
of its own the machine takes every one for its own; an IPv6 address has to be known. An address with
a meaning on one link only needs the interface, which is number one, as its scope. -/
def bindRefusal? (e : Endpoint) : Option OsError :=
  if 0 < e.port && e.port < firstOpenPort then some .permissionDenied
  else
    match e.ip.unmapped with
    | .v4 _ => none
    | .v6 a =>
      if a = .unspecified then none
      else if a.needsScope && e.scope = 0 then some .invalidArgument
      else if a.needsScope && e.scope ≠ 1 then some .noSuchDevice
      else if a.isMulticast then none
      else some .addressNotAvailable

/-- What is wrong with listening for connections there. -/
def listenRefusal? (e : Endpoint) : Option OsError :=
  match e.ip with
  | .v6 a => if a.isMulticast then some .invalidArgument else bindRefusal? e
  | .v4 _ => bindRefusal? e

/-! ## Sending -/

/-- What is wrong with an IPv4 datagram before a route is looked for. -/
def refusal? (dest : Endpoint) (size : Nat) : Option OsError :=
  if maxLength < size then some .messageTooLong
  else if dest.port = 0 then some .invalidArgument
  else none

/-- What is wrong with a datagram that has a route. -/
def lengthRefusal? (size : Nat) : Option OsError :=
  if maxPayload < size then some .messageTooLong else none

/-- What is wrong with a datagram if only the machine itself can be reached, by the address that
stands for any. -/
def unroutedRefusal? (dest : Endpoint) (size : Nat) : Option OsError :=
  match dest.ip.unmapped with
  | .v4 a =>
    (refusal? dest size).or
      (if a = .unspecified then lengthRefusal? size else some .networkUnreachable)
  | .v6 _ => some (if dest.port = 0 then .invalidArgument else .networkUnreachable)

/-! ## Machines -/

/-- The answer to a question where something may be wrong. -/
def answer : Option OsError → Except OsError Unit
  | none => .ok ()
  | some e => .error e

/-- A machine that delivers every datagram that fits. -/
def routed : Network where
  send _ dest size := answer ((refusal? dest size).or (lengthRefusal? size))

/-- A machine without a route to anywhere, with its only interface down: sockets can be bound, and
nothing that is sent arrives. -/
def unrouted : Network where
  bind _ e := answer (bindRefusal? e)
  send _ dest size := answer (unroutedRefusal? dest size)
  listen e := answer (listenRefusal? e)

def occupied (n : Network) (taken : List Endpoint) : Network where
  bind k e := do
    n.bind k e
    if taken.any (·.clashes e) then throw .addressInUse
  send := n.send
  listen := n.listen

end Network

end FlowTraffic
