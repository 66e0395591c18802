import FlowTraffic.Net.Cidr
import FlowTraffic.Netflow.Flow

/-!
# Drawing records

A record is drawn field by field from random words. The order of the draws is fixed, so equal words
give equal records.
-/

namespace FlowTraffic.Netflow

/-- What records are drawn: where their addresses come from, and their schema. -/
structure Traffic where
  src : Cidr := .private10
  dst : Cidr := .private10
  schema : Schema := .https
  deriving DecidableEq

/-- The protocol numbers of the records drawn. -/
def tcp : UInt8 := 6

def udp : UInt8 := 17

def httpsPort : UInt16 := 443

def wellKnownPorts : List UInt16 :=
  [21, 22, 53, 80, httpsPort, 123, 161, 993, 3306, 8080, 6681, 6682]

/-- Counters and source ports are drawn below this. -/
def counterBound : Nat := 10000

/-- TCP flags are drawn below this. -/
def flagsBound : Nat := 32

/-- Interface indexes are drawn from 1 up, one of these many. -/
def interfaceCount : Nat := 254

namespace Schema

def counter : Draw UInt32 := do return UInt32.ofNat (← Draw.below counterBound)

def sourcePort : Draw UInt16 := do return UInt16.ofNat (← Draw.below counterBound)

def flags : Draw UInt8 := do return UInt8.ofNat (← Draw.below flagsBound)

def interface : Draw UInt16 := do return UInt16.ofNat (← Draw.range 1 interfaceCount)

/-- Draws one record with addresses of the ranges. A flow starts 100 and ends 10 milliseconds
before the exporter's uptime, modulo 2³². -/
def generate (schema : Schema) (src dst : Cidr) (uptime : UInt32) : Draw Flow :=
  match schema with
  | .https => do
    return .https {
      inBytes := ← counter, outBytes := ← counter
      inPackets := ← counter, outPackets := ← counter
      srcAddr := ← src.sample, dstAddr := ← dst.sample
      srcPort := ← sourcePort, dstPort := httpsPort
      protocol := tcp, tcpFlags := ← flags
      firstSwitched := uptime - 100, lastSwitched := uptime - 10 }
  | .generic => do
    let protocol := if ← Draw.coin then tcp else udp
    let tcpFlags ← if protocol = tcp then flags else pure 0
    let port ← Draw.below wellKnownPorts.length
    return .generic {
      inBytes := ← counter, inPackets := ← counter
      protocol, srcTos := ← Draw.byte, tcpFlags
      srcPort := ← sourcePort, srcAddr := ← src.sample, srcMask := UInt8.ofNat src.bits
      inputInterface := ← interface
      dstPort := wellKnownPorts.getD port 0
      dstAddr := ← dst.sample, dstMask := UInt8.ofNat dst.bits
      outputInterface := ← interface
      firstSwitched := uptime - 100, lastSwitched := uptime - 10 }

end Schema

end FlowTraffic.Netflow
