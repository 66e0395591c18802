import FlowTraffic.Proofs.Netflow.Limits

/-!
# The check of a profile and what is built

The check computes the size of a packet that nobody has built. It lets a profile through exactly if the
packets that are built have that size at most, and then neither the set of records nor the room that a
write leaves for padding costs a record.
-/

namespace FlowTraffic.Netflow

namespace Exporter

/-- The exporter draws the records that one of the profile would draw. -/
structure DrawsFor (e : Exporter) (p : Profile) : Prop where
  schema : e.profile.schema = p.schema
  src : e.profile.src = p.src
  dst : e.profile.dst = p.dst

theorem exists_drawsFor (p : Profile) : ∃ e : Exporter, e.DrawsFor p := by
  have checked : ({ p with flowsPerPacket := 1 } : Profile).check = .ok () := by
    apply Profile.check_eq_ok_iff.2
    constructor
    · simp
    · show dataPacketSize p.schema 1 ≤ maxDatagram
      cases p.schema <;> decide
  exact ⟨⟨_, checked, 0, 0, none⟩, rfl, rfl, rfl⟩

variable (e : Exporter) (drawnAt sentAt : Moment) (words : Words)

theorem exists_data_within_iff (count : UInt16) :
    (∃ packet, (e.data drawnAt sentAt count words).1.1 = .ok packet ∧
      packet.encode.length ≤ maxDatagram) ↔
      dataPacketSize e.profile.schema count.toNat ≤ maxDatagram := by
  constructor
  · rintro ⟨packet, built, fits⟩
    have packs := e.data_packs drawnAt sentAt count words
    rw [← Prod.eta (e.data drawnAt sentAt count words).1, built] at packs
    obtain ⟨same, e', again, fills⟩ := e.data_fills_of_room packs.room drawnAt sentAt words
    obtain rfl : same = packet := by
      rw [again] at built
      exact Except.ok.inj built
    rwa [← fills.carries.length_encode]
  · intro fits
    obtain ⟨packet, e', built, fills⟩ :=
      e.data_fills_of_room (Nat.le_trans fits (by decide)) drawnAt sentAt words
    refine ⟨packet, congrArg Prod.fst built, ?_⟩
    rwa [fills.carries.length_encode]

theorem write_of_room {sink : Sink} (room : ∀ room, sink.room = some room →
    dataPacketSize e.profile.schema e.profile.flowsPerPacket.toNat ≤ room) :
    ∃ (packet : Packet) (e' : Exporter) (sink' : Sink),
      (e.write drawnAt sentAt maxDatagram sink words).1 = (.ok (), e', sink') ∧
        sink'.taken = sink.taken ++ packet.encode ∧
        packet.Carries e.profile.schema e.profile.flowsPerPacket.toNat ∧
        e'.written = some e.profile.flowsPerPacket.toNat := by
  have accepts : ∀ packet : Packet,
      packet.Carries e.profile.schema e.profile.flowsPerPacket.toNat →
        (sink.write packet.encode).1 = .ok () := by
    intro packet carries
    apply Sink.write_of_room
    rw [carries.length_encode]
    exact room
  obtain ⟨packet, e', written, -, count, carries⟩ := e.write_full drawnAt sentAt words accepts
  refine ⟨packet, e', _, written, ?_, carries, count⟩
  apply Sink.taken_of_write_eq_ok (b := packet.encode)
  rw [← accepts packet carries]

end Exporter

/-- **The check lets through what fits a datagram, and nothing else.** -/
theorem Profile.check_agrees (p : Profile) (drawnAt sentAt : Moment) (words : Words) :
    (∃ e : Exporter, e.DrawsFor p) ∧
    (∀ e : Exporter, e.DrawsFor p → (p.check = .ok () ↔
      p.flowsPerPacket ≠ 0 ∧ ∃ packet,
        (e.data drawnAt sentAt p.flowsPerPacket words).1.1 = .ok packet ∧
          packet.encode.length ≤ maxDatagram)) ∧
    (p.check = .ok () ↔ ∃ e : Exporter, e.profile = p) ∧
    ∀ e : Exporter, e.profile = p →
      (∀ count : UInt16, count.toNat ≤ p.flowsPerPacket.toNat →
        ∃ (packet : Packet) (e' : Exporter),
          (e.data drawnAt sentAt count words).1 = (.ok packet, e') ∧
          packet.Carries p.schema count.toNat ∧
          packet.encode.length = dataPacketSize p.schema count.toNat) ∧
      ∀ sink : Sink,
        (∀ room, sink.room = some room → dataPacketSize p.schema p.flowsPerPacket.toNat ≤ room) →
        ∃ (packet : Packet) (e' : Exporter) (sink' : Sink),
          (e.write drawnAt sentAt maxDatagram sink words).1 = (.ok (), e', sink') ∧
          sink'.taken = sink.taken ++ packet.encode ∧
          packet.Carries p.schema p.flowsPerPacket.toNat ∧
          e'.written = some p.flowsPerPacket.toNat := by
  refine ⟨Exporter.exists_drawsFor p, ?_, ?_, ?_⟩
  · intro e draws
    rw [check_eq_ok_iff, e.exists_data_within_iff drawnAt sentAt words, draws.schema]
  · constructor
    · intro checked
      exact ⟨⟨p, checked, 0, 0, none⟩, rfl⟩
    · rintro ⟨e, rfl⟩
      exact e.checked
  · rintro e rfl
    constructor
    · intro count few
      obtain ⟨packet, e', built, fills⟩ := e.data_fills few drawnAt sentAt words
      exact ⟨packet, e', built, fills.carries, fills.carries.length_encode⟩
    · intro sink room
      exact e.write_of_room drawnAt sentAt words room

example : (Profile.check ⟨.https, 1637, .private10, .private10⟩).isOk ∧
    ¬ (Profile.check ⟨.https, 1638, .private10, .private10⟩).isOk := by decide

end FlowTraffic.Netflow
