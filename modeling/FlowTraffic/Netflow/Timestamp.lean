import FlowTraffic.Netflow.Packet

/-!
# Timestamps

The header of a packet says when it was sent. A packet that is sent again later gets a new time.
-/

namespace FlowTraffic.Netflow

/-- Where the time stands in a header. -/
def timeOffset : Nat := 8

/-- The payload with another time in its header. A payload that is no packet, or too short for a
header, stays as it is. -/
def restamp (unixSecs : UInt32) (payload : Bytes) : Bytes :=
  if isPacket payload && Header.size ≤ payload.length then
    payload.take timeOffset ++ Bytes.ofWord32 unixSecs ++ payload.drop (timeOffset + 4)
  else payload

end FlowTraffic.Netflow
