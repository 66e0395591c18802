import FlowTraffic.Netflow.Generate
import FlowTraffic.Proofs.Net.Ranges

/-!
# What is drawn

How many words a record takes depends on the words: a flow without flags draws none, and a number may need
a second word. Its fields are in their ranges whatever the words are.
-/

namespace FlowTraffic.Netflow

/-! ## The ranges of the fields -/

structure HttpsFlow.InRange (src dst : Cidr) (x : HttpsFlow) : Prop where
  srcAddr : src.contains x.srcAddr = true
  dstAddr : dst.contains x.dstAddr = true
  inBytes : x.inBytes.toNat < 10000
  outBytes : x.outBytes.toNat < 10000
  inPackets : x.inPackets.toNat < 10000
  outPackets : x.outPackets.toNat < 10000
  srcPort : x.srcPort.toNat < 10000
  dstPort : x.dstPort = 443
  protocol : x.protocol = 6
  tcpFlags : x.tcpFlags.toNat < 32
  engineType : x.engineType = 0
  engineId : x.engineId = 0
  lasts : x.lastSwitched - x.firstSwitched = 90

/-- TCP with flags, or UDP without any. -/
def TcpOrUdp (protocol tcpFlags : UInt8) : Prop :=
  protocol = 6 ∧ tcpFlags.toNat < 32 ∨ protocol = 17 ∧ tcpFlags = 0

structure GenericFlow.InRange (src dst : Cidr) (x : GenericFlow) : Prop where
  srcAddr : src.contains x.srcAddr = true
  dstAddr : dst.contains x.dstAddr = true
  inBytes : x.inBytes.toNat < 10000
  inPackets : x.inPackets.toNat < 10000
  srcPort : x.srcPort.toNat < 10000
  dstPort : x.dstPort ∈ wellKnownPorts
  protocol : TcpOrUdp x.protocol x.tcpFlags
  srcMask : x.srcMask.toNat = src.bits
  dstMask : x.dstMask.toNat = dst.bits
  inputInterface : 1 ≤ x.inputInterface.toNat ∧ x.inputInterface.toNat ≤ 254
  outputInterface : 1 ≤ x.outputInterface.toNat ∧ x.outputInterface.toNat ≤ 254
  lasts : x.lastSwitched - x.firstSwitched = 90

/-- The record has the schema, and its fields are in the schema's ranges. -/
inductive Flow.InRange (src dst : Cidr) : Schema → Flow → Prop
  | https {x : HttpsFlow} (fields : x.InRange src dst) : InRange src dst .https (.https x)
  | generic {x : GenericFlow} (fields : x.InRange src dst) : InRange src dst .generic (.generic x)

/-! ## The draws of the fields -/

namespace Schema

theorem counter_lt : counter.Always (·.toNat < 10000) := by
  unfold counter
  refine (Draw.below_lt (by decide) (by decide)).bind fun k hk => .pure ?_
  rwa [UInt32.toNat_ofNat_of_lt' (Nat.lt_trans hk (by decide))]

theorem sourcePort_lt : sourcePort.Always (·.toNat < 10000) := by
  unfold sourcePort
  refine (Draw.below_lt (by decide) (by decide)).bind fun k hk => .pure ?_
  rwa [UInt16.toNat_ofNat_of_lt' (Nat.lt_trans hk (by decide))]

theorem flags_lt : flags.Always (·.toNat < 32) := by
  unfold flags
  refine (Draw.below_lt (by decide) (by decide)).bind fun k hk => .pure ?_
  rwa [UInt8.toNat_ofNat_of_lt' (Nat.lt_trans hk (by decide))]

theorem interface_bounds : interface.Always fun i => 1 ≤ i.toNat ∧ i.toNat ≤ 254 := by
  unfold interface
  refine (Draw.range_bounds (by decide) (by decide)).bind fun k hk => .pure ?_
  rw [UInt16.toNat_ofNat_of_lt' (Nat.lt_trans hk.2 (by decide))]
  exact ⟨hk.1, Nat.le_of_lt_succ hk.2⟩

theorem getD_wellKnownPorts_mem {i : Nat} (h : i < wellKnownPorts.length) :
    wellKnownPorts.getD i 0 ∈ wellKnownPorts := by
  rw [List.getD_eq_getElem?_getD, List.getElem?_eq_getElem h]
  exact List.getElem_mem h

/-- What stands for a port past the end of the list is not in it. -/
example : 0 ∉ wellKnownPorts := by decide

/-! ## Records -/

variable (src dst : Cidr) (uptime : UInt32)

theorem lasts_ninety : uptime - 10 - (uptime - 100) = 90 := by
  grind

theorem toNat_bits : (UInt8.ofNat src.bits).toNat = src.bits :=
  UInt8.toNat_ofNat_of_lt' (Nat.lt_of_le_of_lt src.bits_le (by decide))

theorem generate_https :
    (https.generate src dst uptime).Always (·.InRange src dst .https) := by
  unfold generate
  refine counter_lt.bind fun inBytes hib => counter_lt.bind fun outBytes hob => ?_
  refine counter_lt.bind fun inPackets hip => counter_lt.bind fun outPackets hop => ?_
  refine src.contains_sample.bind fun srcAddr hs => dst.contains_sample.bind fun dstAddr hd => ?_
  refine sourcePort_lt.bind fun srcPort hp => flags_lt.bind fun tcpFlags hf => ?_
  exact .pure (.https ⟨hs, hd, hib, hob, hip, hop, hp, rfl, rfl, hf, rfl, rfl, lasts_ninety uptime⟩)

theorem generate_generic :
    (generic.generate src dst uptime).Always (·.InRange src dst .generic) := by
  unfold generate
  refine (Draw.always_true Draw.coin).bind fun heads _ => ?_
  extract_lets protocol rest
  have drawn : ∀ tcpFlags, TcpOrUdp protocol tcpFlags →
      (rest tcpFlags).Always (·.InRange src dst .generic) := by
    intro tcpFlags hf
    refine (Draw.below_lt (by decide) (by decide)).bind fun port hport => ?_
    refine counter_lt.bind fun inBytes hib => counter_lt.bind fun inPackets hip => ?_
    refine (Draw.always_true Draw.byte).bind fun srcTos _ => sourcePort_lt.bind fun srcPort hp => ?_
    refine src.contains_sample.bind fun srcAddr hs => interface_bounds.bind fun input hi => ?_
    refine dst.contains_sample.bind fun dstAddr hd => interface_bounds.bind fun output ho => ?_
    exact .pure (.generic ⟨hs, hd, hib, hip, hp, getD_wellKnownPorts_mem hport, hf, toNat_bits src,
      toNat_bits dst, hi, ho, lasts_ninety uptime⟩)
  -- Only a flow with flags draws them; what is drawn after them is the same.
  split
  · rename_i isTcp
    exact flags_lt.bind fun tcpFlags hf => drawn tcpFlags (.inl ⟨isTcp, hf⟩)
  · rename_i notTcp
    have isUdp : protocol = udp := if_neg fun h => notTcp (if_pos h)
    have noFlags : TcpOrUdp protocol 0 := .inr ⟨isUdp, rfl⟩
    exact (Draw.Always.pure noFlags).bind drawn

/-- **A drawn record is in the ranges of its schema,** whatever the words. -/
theorem generate_in_range (s : Schema) (words : Words) :
    (s.generate src dst uptime words).1.InRange src dst s := by
  cases s with
  | https => exact generate_https src dst uptime words
  | generic => exact generate_generic src dst uptime words

end Schema

end FlowTraffic.Netflow
