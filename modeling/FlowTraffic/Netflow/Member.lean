import FlowTraffic.Netflow.Flow

/-!
# Members by field code

What a record holds can be asked for by the codes that its template names, whatever its layout on
the wire. An address counts as a number.
-/

namespace FlowTraffic.Netflow

namespace Code

def names : List (UInt16 × String) := [
  (inBytes, "in_bytes"), (inPackets, "in_pkts"), (protocol, "protocol"), (srcTos, "src_tos"),
  (tcpFlags, "tcp_flags"), (srcPort, "l4_src_port"), (srcAddr, "ipv4_src_addr"),
  (srcMask, "src_mask"), (inputInterface, "input_snmp"), (dstPort, "l4_dst_port"),
  (dstAddr, "ipv4_dst_addr"), (dstMask, "dst_mask"), (outputInterface, "output_snmp"),
  (lastSwitched, "last_switched"), (firstSwitched, "first_switched"), (outBytes, "out_bytes"),
  (outPackets, "out_pkts"), (engineType, "engine_type"), (engineId, "engine_id")]

/-- The name of a field, or nothing for a field that no schema has. -/
def name (code : UInt16) : String := (names.lookup code).getD ""

def isAddr (code : UInt16) : Bool := code = srcAddr || code = dstAddr

end Code

namespace Flow

/-- The members of a record under their codes. -/
def members : Flow → List (UInt16 × Nat)
  | https f => [
      (Code.inBytes, f.inBytes.toNat), (Code.outBytes, f.outBytes.toNat),
      (Code.inPackets, f.inPackets.toNat), (Code.outPackets, f.outPackets.toNat),
      (Code.srcAddr, f.srcAddr.toNat), (Code.dstAddr, f.dstAddr.toNat),
      (Code.srcPort, f.srcPort.toNat), (Code.dstPort, f.dstPort.toNat),
      (Code.protocol, f.protocol.toNat), (Code.tcpFlags, f.tcpFlags.toNat),
      (Code.firstSwitched, f.firstSwitched.toNat), (Code.lastSwitched, f.lastSwitched.toNat),
      (Code.engineType, f.engineType.toNat), (Code.engineId, f.engineId.toNat)]
  | generic f => [
      (Code.inBytes, f.inBytes.toNat), (Code.inPackets, f.inPackets.toNat),
      (Code.protocol, f.protocol.toNat), (Code.srcTos, f.srcTos.toNat),
      (Code.tcpFlags, f.tcpFlags.toNat), (Code.srcPort, f.srcPort.toNat),
      (Code.srcAddr, f.srcAddr.toNat), (Code.srcMask, f.srcMask.toNat),
      (Code.inputInterface, f.inputInterface.toNat), (Code.dstPort, f.dstPort.toNat),
      (Code.dstAddr, f.dstAddr.toNat), (Code.dstMask, f.dstMask.toNat),
      (Code.outputInterface, f.outputInterface.toNat),
      (Code.firstSwitched, f.firstSwitched.toNat), (Code.lastSwitched, f.lastSwitched.toNat)]

/-- The record of a schema with the given member under each code. -/
def ofMembers (member : UInt16 → Nat) : Schema → Flow
  | .https => .https {
      inBytes := .ofNat (member Code.inBytes), outBytes := .ofNat (member Code.outBytes)
      inPackets := .ofNat (member Code.inPackets), outPackets := .ofNat (member Code.outPackets)
      srcAddr := ⟨.ofNat (member Code.srcAddr)⟩, dstAddr := ⟨.ofNat (member Code.dstAddr)⟩
      srcPort := .ofNat (member Code.srcPort), dstPort := .ofNat (member Code.dstPort)
      protocol := .ofNat (member Code.protocol), tcpFlags := .ofNat (member Code.tcpFlags)
      firstSwitched := .ofNat (member Code.firstSwitched)
      lastSwitched := .ofNat (member Code.lastSwitched)
      engineType := .ofNat (member Code.engineType), engineId := .ofNat (member Code.engineId) }
  | .generic => .generic {
      inBytes := .ofNat (member Code.inBytes), inPackets := .ofNat (member Code.inPackets)
      protocol := .ofNat (member Code.protocol), srcTos := .ofNat (member Code.srcTos)
      tcpFlags := .ofNat (member Code.tcpFlags), srcPort := .ofNat (member Code.srcPort)
      srcAddr := ⟨.ofNat (member Code.srcAddr)⟩, srcMask := .ofNat (member Code.srcMask)
      inputInterface := .ofNat (member Code.inputInterface)
      dstPort := .ofNat (member Code.dstPort), dstAddr := ⟨.ofNat (member Code.dstAddr)⟩
      dstMask := .ofNat (member Code.dstMask)
      outputInterface := .ofNat (member Code.outputInterface)
      firstSwitched := .ofNat (member Code.firstSwitched)
      lastSwitched := .ofNat (member Code.lastSwitched) }

def member? (r : Flow) (code : UInt16) : Option Nat := r.members.lookup code

theorem ofMembers_members (r : Flow) :
    ofMembers (fun code => (r.member? code).getD 0) r.schema = r := by
  cases r <;> simp [ofMembers, member?, members, schema, List.lookup_cons, Ipv4.toNat, Code.inBytes,
    Code.outBytes, Code.inPackets, Code.outPackets, Code.srcAddr, Code.dstAddr, Code.srcPort,
    Code.dstPort, Code.protocol, Code.tcpFlags, Code.firstSwitched, Code.lastSwitched,
    Code.engineType, Code.engineId, Code.srcTos, Code.srcMask, Code.dstMask, Code.inputInterface,
    Code.outputInterface]

end Flow

end FlowTraffic.Netflow
