import FlowTraffic.Host.Transport
import FlowTraffic.Netflow.Exporter

/-!
# Sources

What all senders of generated traffic share: the source IDs they draw, and why they cannot start or
go on.
-/

namespace FlowTraffic.Sender

open Netflow

def firstSource : Nat := 100

/-- How many source IDs there are. -/
def sourceCount : Nat := 9900

def drawSource : Draw UInt32 := do return UInt32.ofNat (← Draw.range firstSource sourceCount)

/-- When an exporter's records are drawn and when their packet is sent, by the number of the
packet. -/
structure Clock where
  drawn : Nat → Moment := fun _ => {}
  sent : Nat → Moment := fun _ => {}

end FlowTraffic.Sender
