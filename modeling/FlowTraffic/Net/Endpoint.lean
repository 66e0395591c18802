import FlowTraffic.Net.Ipv6
import FlowTraffic.Text.Blank

/-!
# Endpoints

An endpoint is an address and a port. An IPv6 endpoint can name a scope as well.
-/

namespace FlowTraffic

inductive IpAddr
  | v4 (addr : Ipv4)
  | v6 (addr : Ipv6)
  deriving DecidableEq, Repr

namespace IpAddr

def text : IpAddr → String
  | v4 a => a.text
  | v6 a => a.text

def ofChars? (cs : List Char) : Option IpAddr :=
  ((Ipv4.ofChars? cs).map v4).or ((Ipv6.ofChars? cs).map v6)

def ofString? (s : String) : Option IpAddr := ofChars? s.toList

/-- The address of the same kind that stands for any address of the machine. -/
def anyLike : IpAddr → IpAddr
  | v4 _ => v4 .unspecified
  | v6 _ => v6 .unspecified

def isV4 : IpAddr → Bool
  | v4 _ => true
  | v6 _ => false

/-- The IPv4 address, where an IPv6 address stands for one. -/
def unmapped : IpAddr → IpAddr
  | v4 a => v4 a
  | v6 a => (Ipv6.mapped? a.groups.toList).elim (v6 a) v4

/-- Whether sockets at the two addresses would get the same datagrams. `::` stands for the addresses
of both kinds. -/
def overlaps (a b : IpAddr) : Bool :=
  let covers (a b : IpAddr) : Bool :=
    a = b || a = v6 .unspecified || (a = v4 .unspecified && b.isV4)
  covers a.unmapped b.unmapped || covers b.unmapped a.unmapped

end IpAddr

/-- Where a socket is bound or a datagram goes. -/
structure Endpoint where
  ip : IpAddr
  port : UInt16
  scope : UInt32 := 0
  deriving DecidableEq, Repr

namespace Endpoint

def text (e : Endpoint) : String :=
  match e.ip with
  | .v4 a => s!"{a.text}:{e.port}"
  | .v6 a =>
    if e.scope = 0 then s!"[{a.text}]:{e.port}" else s!"[{a.text}%{e.scope}]:{e.port}"

/-- Whether sockets at the two endpoints would be in each other's way. -/
def clashes (a b : Endpoint) : Bool := a.port = b.port && a.ip.overlaps b.ip

/-- A port in text: decimal digits, leading zeros allowed. -/
def port? (cs : List Char) : Option UInt16 := (Text.number? 10 65535 cs).map UInt16.ofNat

/-- An IPv6 address with an optional scope after a percent sign. -/
def scoped? (cs : List Char) : Option (Ipv6 × UInt32) :=
  match Text.splitFirst? '%' cs with
  | none => do return (← Ipv6.ofChars? cs, 0)
  | some (addr, scope) => do
    return (← Ipv6.ofChars? addr, UInt32.ofNat (← Text.number? 10 0xFFFFFFFF scope))

/-- The endpoint that the text spells: `a.b.c.d:port`, or an IPv6 address in brackets. -/
def ofChars? : List Char → Option Endpoint
  | '[' :: rest => do
    let (inner, after) ← Text.splitFirst? ']' rest
    let (addr, scope) ← scoped? inner
    match after with
    | ':' :: port => return { ip := .v6 addr, port := ← port? port, scope }
    | _ => none
  | cs => do
    let (addr, port) ← Text.splitFirst? ':' cs
    return { ip := .v4 (← Ipv4.ofChars? addr), port := ← port? port }

def ofString? (s : String) : Option Endpoint := ofChars? s.toList

end Endpoint

end FlowTraffic
