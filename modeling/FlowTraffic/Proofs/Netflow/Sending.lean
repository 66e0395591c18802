import FlowTraffic.Proofs.Netflow.Collector

/-!
# What an exporter sends

A profile that passes the check asks for no more records than a datagram has room for, so an exporter
always writes as many as it is asked for (`Exporter.write_datagram`). Its packets are numbered from one, and
a collector that has heard the template of the schema reads them all (`Packet.parseAll_of_announced`).
-/

namespace FlowTraffic.Netflow

/-! ## Numbers -/

/-- The number of the packet at this place, the first being at zero. After the largest number comes 1. -/
def packetNumber (k : Nat) : UInt32 := UInt32.ofNat (k % 4294967295 + 1)

def latestNumber : Nat → UInt32
  | 0 => 0
  | k + 1 => packetNumber k

theorem toNat_packetNumber (k : Nat) : (packetNumber k).toNat = k % 4294967295 + 1 := by
  unfold packetNumber
  rw [UInt32.toNat_ofNat']
  omega

theorem nextSequence_latestNumber (k : Nat) : nextSequence (latestNumber k) = packetNumber k := by
  cases k with
  | zero => rfl
  | succ k =>
    have now := toNat_packetNumber k
    have next := toNat_packetNumber (k + 1)
    apply UInt32.toNat_inj.1
    show (if packetNumber k = 0xFFFFFFFF then (1 : UInt32) else packetNumber k + 1).toNat = _
    split
    · rename_i last
      have wrap : k % 4294967295 + 1 = 4294967295 := by
        rw [← now, last]
        rfl
      rw [next, UInt32.toNat_one]
      omega
    · rename_i more
      have small : (packetNumber k).toNat ≠ 4294967295 := fun h => more (UInt32.toNat_inj.1 h)
      rw [next, UInt32.toNat_add, UInt32.toNat_one, now]
      omega

theorem numbers_concat {ps : List Packet} {p : Packet}
    (numbers : ps.map (·.header.sequence) = (List.range ps.length).map packetNumber)
    (next : p.header.sequence = packetNumber ps.length) :
    (ps ++ [p]).map (·.header.sequence) = (List.range (ps ++ [p]).length).map packetNumber := by
  rw [List.map_append, numbers, List.length_append, List.length_singleton, List.range_succ,
    List.map_append, List.map_singleton, List.map_singleton, next]

theorem toNat_numbers {ps : List Packet}
    (numbers : ps.map (·.header.sequence) = (List.range ps.length).map packetNumber) :
    ps.map (·.header.sequence.toNat) = (List.range ps.length).map (· % 4294967295 + 1) := by
  have numbers := congrArg (List.map UInt32.toNat) numbers
  rw [List.map_map, List.map_map] at numbers
  exact numbers.trans (List.map_congr_left fun k _ => toNat_packetNumber k)

theorem toNat_numbers_of_few {ps : List Packet}
    (numbers : ps.map (·.header.sequence) = (List.range ps.length).map packetNumber)
    (few : ps.length < 0x100000000) :
    ps.map (·.header.sequence.toNat) = List.range' 1 ps.length := by
  rw [toNat_numbers numbers, List.range'_eq_map_range]
  apply List.map_congr_left
  intro k hk
  have place : k < ps.length := List.mem_range.1 hk
  rw [Nat.mod_eq_of_lt (by omega), Nat.add_comm]

/-! ## Packets that are announced -/

namespace Packet

theorem parseAll_of_announced {s : Schema} {ps : List Packet} (isOf : ∀ p ∈ ps, p.IsOf s)
    (first : ∀ p ∈ ps.head?, p.Announces s) :
    parseAll .empty (ps.map encode) = ps.map .ok := by
  -- The packets are the emissions of one schema, so no other template is ever needed.
  let emitted : List Emission := ps.map fun p => ⟨s, p, p.encode⟩
  have sound : ∀ x ∈ emitted, x.Sound := by
    intro x hx
    obtain ⟨p, hp, rfl⟩ := List.mem_map.1 hx
    exact ⟨isOf p hp, rfl⟩
  have announced : ∀ s' : Schema, ∀ x ∈ emitted.find? (·.schema = s'),
      s'.template ∈ x.packet.templates := by
    intro s' x hx
    have schema : x.schema = s' := by simpa using List.find?_some hx
    obtain ⟨p, -, rfl⟩ := List.mem_map.1 (List.mem_of_find?_eq_some hx)
    subst schema
    cases ps with
    | nil => cases hx
    | cons q ps =>
      have found : q = p ∧ q.encode = p.encode := by simpa [emitted] using hx
      rw [← found.1]
      exact (first q rfl).mem_templates
  have parsed := parseAll_of_sound (r := .empty) sound fun s' => .inr (announced s')
  simpa [emitted, Function.comp_def] using parsed

end Packet

/-! ## Datagrams -/

namespace Exporter

variable (e : Exporter)

theorem write_accepted (drawnAt sentAt : Moment) (maxBytes : Nat) (words : Words) {sink : Sink}
    (accepts : ∀ p : Packet, p.Carries e.profile.schema (e.writeCount maxBytes) →
      (sink.write p.encode).1 = .ok ()) :
    (e.writeCount maxBytes = 0 ∧ (e.write drawnAt sentAt maxBytes sink words).1 =
      (.error (.tooLarge ⟨dataPacketSize e.profile.schema 1, maxBytes⟩), { e with written := none },
        sink)) ∨
    ∃ p e', 0 < e.writeCount maxBytes ∧ e.Fills (e.writeCount maxBytes) p e' ∧
      (e.write drawnAt sentAt maxBytes sink words).1 =
        (.ok (), { e' with written := some (e.writeCount maxBytes) }, (sink.write p.encode).2) := by
  have writes := e.write_writes drawnAt sentAt maxBytes sink words
  generalize (e.write drawnAt sentAt maxBytes sink words).1 = outcome at writes ⊢
  generalize e.packet? drawnAt sentAt maxBytes words = packet at writes
  cases writes with
  | noRoom full => exact .inl ⟨full, rfl⟩
  | @done p e' sink' room fills taken => exact .inr ⟨p, e', room, fills, by rw [taken]⟩
  | cutShort room fills taken =>
    have refused := accepts _ fills.carries
    rw [taken] at refused
    cases refused

theorem write_full (drawnAt sentAt : Moment) (words : Words) {sink : Sink}
    (accepts : ∀ p : Packet, p.Carries e.profile.schema e.profile.flowsPerPacket.toNat →
      (sink.write p.encode).1 = .ok ()) :
    ∃ (p : Packet) (e' : Exporter),
      (e.write drawnAt sentAt maxDatagram sink words).1 = (.ok (), e', (sink.write p.encode).2) ∧
        e.Makes p e' ∧ e'.written = some e.profile.flowsPerPacket.toNat ∧
        p.Carries e.profile.schema e.profile.flowsPerPacket.toNat := by
  have asked := e.writeCount_maxDatagram
  rw [← asked] at accepts ⊢
  rcases e.write_accepted drawnAt sentAt maxDatagram words accepts with
    ⟨full, -⟩ | ⟨p, e', -, fills, written⟩
  · have some := e.flowsPerPacket_pos
    omega
  · exact ⟨p, _, written, { fills.makes with }, rfl, fills.carries⟩

/-- **Writing into a datagram never fails.** A packet goes out with as many records as the profile asks
for. -/
theorem write_datagram (drawnAt sentAt : Moment) (words : Words) :
    ∃ (p : Packet) (e' : Exporter),
      (e.write drawnAt sentAt maxDatagram {} words).1 = (.ok (), e', { taken := p.encode }) ∧
        e.Makes p e' ∧ e'.written = some e.profile.flowsPerPacket.toNat ∧
        p.Carries e.profile.schema e.profile.flowsPerPacket.toNat :=
  e.write_full drawnAt sentAt words fun _ _ => rfl

end Exporter

end FlowTraffic.Netflow
