import FlowTraffic.Host.Network
import FlowTraffic.Random

/-!
# Sockets

How a host name becomes an endpoint, and how the socket that sends to an endpoint is bound. A
sender without a fixed port draws one, and draws again while the drawn port is in use, sixteen
times at most.
-/

namespace FlowTraffic

/-- Why a socket cannot be used. -/
inductive TransportError
  | bind (addr : Endpoint) (why : OsError)
  | send (addr : Endpoint) (why : OsError)
  | resolve (host : String) (port : UInt16) (why : Fault)
  | noAddress (host : String)
  deriving DecidableEq, Repr

def TransportError.message : TransportError → String
  | bind addr why => s!"Failed to bind UDP socket to {addr.text}: {(Fault.os why).message}"
  | send addr why => s!"Failed to send packet to {addr.text}: {(Fault.os why).message}"
  | resolve host port why => s!"Failed to resolve {host}:{port}: {why.message}"
  | noAddress host => s!"{host} resolved to no addresses"

namespace Transport

/-! ## Names -/

/-- The addresses of a host. An address stands for itself; other names are looked up by the
machine, which takes none with a NUL character in it. -/
def addresses (lookup : String → Except Fault (List IpAddr)) (host : String) :
    Except Fault (List IpAddr) :=
  match IpAddr.ofString? host with
  | some ip => .ok [ip]
  | none => if '\x00' ∈ host.toList then .error .nulInName else lookup host

/-- The endpoint of a host and port. An IPv4 address is preferred. -/
def resolve (lookup : String → Except Fault (List IpAddr)) (host : String) (port : UInt16) :
    Except TransportError Endpoint :=
  match addresses lookup host with
  | .error why => .error (.resolve host port why)
  | .ok ips =>
    match (ips.find? IpAddr.isV4).or ips.head? with
    | some ip => .ok { ip, port }
    | none => .error (.noAddress host)

def noNames : String → Except Fault (List IpAddr) := fun _ =>
  .error (.custom "failed to lookup address information: Name or service not known")

/-! ## Binding -/

def firstPort : Nat := 10000

def portCount : Nat := 5000

/-- How many ports are tried. -/
def bindAttempts : Nat := 16

/-- Draws ports and tries them until one is not in use, `left` more times at most after the first.
`attempt` is the number of the first try. -/
def bindDrawn (bind : Nat → UInt16 → Except TransportError Endpoint) (attempt : Nat) :
    Nat → Draw (Except TransportError Endpoint)
  | 0 => do return bind attempt (UInt16.ofNat (← Draw.range firstPort portCount))
  | left + 1 => do
    match bind attempt (UInt16.ofNat (← Draw.range firstPort portCount)) with
    | .error (.bind _ .addressInUse) => bindDrawn bind (attempt + 1) left
    | result => return result

/-- Binds a socket to an endpoint; `n` is the number of the try. -/
def bind (net : Network) (n : Nat) (addr : Endpoint) : Except TransportError Endpoint :=
  match net.bind n addr with
  | .ok () => .ok addr
  | .error why => .error (.bind addr why)

/-- Binds the socket that sends to `dest`. Port 0 lets the machine choose. -/
def bindSender (net : Network) (dest : Endpoint) (port : Option UInt16) :
    Draw (Except TransportError Endpoint) :=
  let bindPort (n : Nat) (port : UInt16) := bind net n { ip := dest.ip.anyLike, port }
  match port with
  | some port => return bindPort 0 port
  | none => bindDrawn bindPort 0 (bindAttempts - 1)

/-- Sends one datagram; `n` is its number. -/
def send (net : Network) (n : Nat) (dest : Endpoint) (payload : Nat) : Except TransportError Nat :=
  match net.send n dest payload with
  | .ok () => .ok payload
  | .error why => .error (.send dest why)

end Transport

end FlowTraffic
