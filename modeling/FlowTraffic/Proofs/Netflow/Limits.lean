import Mathlib.Data.Nat.Find
import FlowTraffic.Proofs.Netflow.Sending

/-!
# Writing within a limit

An exporter leaves room for the most padding that there may be (`amplePacketSize`), so what it writes
keeps the limit. Where the records happen to need less padding, the limit may have room for a record more
than is written, and never for two (`Exporter.writeCount_eq`).
-/

namespace FlowTraffic.Netflow

/-! ## Packets of records -/

theorem dataPacketSize_mod_four (s : Schema) (n : Nat) : dataPacketSize s n % 4 = 0 := by
  have aligned := add_paddingFor_mod (setHeaderSize + n * s.recordSize)
  simp only [dataPacketSize, Header.size]
  omega

namespace Packet.Carries

variable {s : Schema} {n : Nat} {p : Packet}

theorem length_encode (h : p.Carries s n) : p.encode.length = dataPacketSize s n := by
  obtain ⟨set, hset, length⟩ := h.dataSets
  obtain ⟨built, -, layout⟩ := h.isOf.data set (by simp [hset])
  obtain ⟨-, -, size, -⟩ := DataSet.of_ofRecords_eq_ok built.made
  rw [← length, DataSet.dataPacketSize_eq layout, ← size, built.framed.length, encode_eq,
    h.templateSets, hset]
  simp

theorem parseAlone_encode (h : p.Carries s n) : parseAlone p.encode = .ok p := by
  have known : Registry.builtin.Knows s := by cases s <;> rfl
  rw [parseAlone, h.isOf.parse_encode_of_knows .builtin (.inr known)]

end Packet.Carries

namespace Exporter

variable (e : Exporter)

/-! ## How many records are written -/

theorem le_writeCount_iff {n : Nat} (positive : 0 < n) (maxBytes : Nat) :
    n ≤ e.writeCount maxBytes ↔
      n ≤ e.profile.flowsPerPacket.toNat ∧ amplePacketSize e.profile.schema n ≤ maxBytes := by
  have some : 0 < n * e.profile.schema.recordSize := Nat.mul_pos positive e.profile.schema.recordSize_pos
  rw [writeCount, Nat.le_min, Nat.le_div_iff_mul_le e.profile.schema.recordSize_pos, amplePacketSize]
  exact and_congr_right fun _ => by omega

/-- The most records, up to what the profile asks for, whose packet keeps a limit. -/
def mostRecords (maxBytes : Nat) : Nat :=
  Nat.findGreatest (dataPacketSize e.profile.schema · ≤ maxBytes) e.profile.flowsPerPacket.toNat

theorem writeCount_eq (maxBytes : Nat) :
    e.writeCount maxBytes =
      if amplePacketSize e.profile.schema (e.mostRecords maxBytes) ≤ maxBytes then
        e.mostRecords maxBytes
      else e.mostRecords maxBytes - 1 := by
  obtain ⟨asked, fits, greatest⟩ := Nat.findGreatest_eq_iff.1 (Eq.refl (e.mostRecords maxBytes))
  generalize e.mostRecords maxBytes = most at asked fits greatest ⊢
  have upper : e.writeCount maxBytes ≤ most := by
    by_contra more
    obtain ⟨few, ample⟩ := (e.le_writeCount_iff (by omega) maxBytes).1 (Nat.le_refl _)
    exact greatest (Nat.not_le.1 more) few (Nat.le_trans (dataPacketSize_le_ample ..) ample)
  split
  · rename_i ample
    refine Nat.le_antisymm upper ?_
    rcases Nat.eq_zero_or_pos most with zero | positive
    · omega
    · exact (e.le_writeCount_iff positive maxBytes).2 ⟨asked, ample⟩
  · rename_i tight
    have lower : most - 1 ≤ e.writeCount maxBytes := by
      rcases Nat.eq_zero_or_pos (most - 1) with zero | positive
      · omega
      · refine (e.le_writeCount_iff positive maxBytes).2 ⟨by omega, ?_⟩
        have larger := ample_lt_dataPacketSize e.profile.schema (show most - 1 < most by omega)
        exact Nat.le_of_lt (Nat.lt_of_lt_of_le larger (fits (by omega)))
    have proper : most = 0 ∨ e.writeCount maxBytes ≠ most := by
      refine Nat.eq_zero_or_pos most |>.imp_right fun positive all => tight ?_
      exact ((e.le_writeCount_iff positive maxBytes).1 (Nat.le_of_eq all.symm)).2
    omega

theorem mostRecords_eq_zero_iff (maxBytes : Nat) :
    e.mostRecords maxBytes = 0 ↔ maxBytes < dataPacketSize e.profile.schema 1 := by
  have some := e.flowsPerPacket_pos
  rw [mostRecords, Nat.findGreatest_eq_zero_iff]
  constructor
  · intro none
    exact Nat.not_le.1 (none Nat.one_pos some)
  · intro small n positive _ fits
    have least : dataPacketSize e.profile.schema 1 ≤ dataPacketSize e.profile.schema n :=
      dataPacketSize_mono e.profile.schema positive
    omega

/-! ## Into a sink without bound -/

theorem write_unbounded (drawnAt sentAt : Moment) (maxBytes : Nat) (taken : Bytes) (words : Words) :
    (e.writeCount maxBytes = 0 ∧ (e.write drawnAt sentAt maxBytes { taken } words).1 =
      (.error (.tooLarge ⟨dataPacketSize e.profile.schema 1, maxBytes⟩), { e with written := none },
        { taken })) ∨
    ∃ p e', 0 < e.writeCount maxBytes ∧ e.Fills (e.writeCount maxBytes) p e' ∧
      (e.write drawnAt sentAt maxBytes { taken } words).1 =
        (.ok (), { e' with written := some (e.writeCount maxBytes) },
          { taken := taken ++ p.encode }) :=
  e.write_accepted drawnAt sentAt maxBytes words fun _ _ => rfl

/-- **A write keeps its limit.** The datagram is one of whole words with one set of records, as many as
its header and the exporter tell, and their addresses are of the ranges. Where there is no room for a
record nothing happens, and nothing else goes wrong. -/
theorem write_within (drawnAt sentAt : Moment) (maxBytes : Nat) (taken : Bytes) (words : Words) :
    let outcome := (e.write drawnAt sentAt maxBytes { taken } words).1
    (∀ e' sink', outcome = (.ok (), e', sink') →
      ∃ b p set, sink' = { taken := taken ++ b } ∧ b.length ≤ maxBytes ∧ b.length % 4 = 0 ∧
        Packet.parseAlone b = .ok p ∧ p.templateSets = [] ∧ p.dataSets = [set] ∧
        set.records.length = p.header.flowCount.toNat ∧ e'.written = some set.records.length ∧
        set.records.length ≤ e.profile.flowsPerPacket.toNat ∧
        ∀ x ∈ set.records, e.profile.src.contains x.srcAddr = true ∧
          e.profile.dst.contains x.dstAddr = true) ∧
    ∀ err e' sink', outcome = (.error err, e', sink') →
      (∃ large, err = .tooLarge large) ∧ sink' = { taken } ∧ e'.sequence = e.sequence ∧
        e'.written = none := by
  intro outcome
  rcases e.write_unbounded drawnAt sentAt maxBytes taken words with ⟨-, eq⟩ | ⟨p, e₁, room, fills, eq⟩
  · refine ⟨fun e' sink' h => ?_, fun err e' sink' h => ?_⟩
    · cases eq.symm.trans h
    · cases eq.symm.trans h
      exact ⟨⟨_, rfl⟩, rfl, rfl, rfl⟩
  · refine ⟨fun e' sink' h => ?_, fun err e' sink' h => ?_⟩
    · cases eq.symm.trans h
      have carries := fills.carries
      obtain ⟨set, hset, length⟩ := carries.dataSets
      obtain ⟨asked, ample⟩ := (e.le_writeCount_iff room maxBytes).1 (Nat.le_refl _)
      refine ⟨p.encode, p, set, rfl, ?_, ?_, carries.parseAlone_encode, carries.templateSets, hset,
        length.trans carries.flowCount.symm, congrArg some length.symm, length ▸ asked, ?_⟩
      · rw [carries.length_encode]
        exact Nat.le_trans (dataPacketSize_le_ample ..) ample
      · rw [carries.length_encode]
        exact dataPacketSize_mod_four ..
      · intro x hx
        have drawn := fills.drawn x (by simpa [Packet.records, hset] using hx)
        exact ⟨drawn.srcAddr, drawn.dstAddr⟩
    · cases eq.symm.trans h

/-- **A write holds the most records that fit, or one fewer.** It holds one fewer where the limit has no
room for the most padding that there may be. So it may fail although one record fits. -/
theorem write_most (drawnAt sentAt : Moment) (maxBytes : Nat) (taken : Bytes) (words : Words) :
    let most := e.mostRecords maxBytes
    let count := if amplePacketSize e.profile.schema most ≤ maxBytes then most else most - 1
    let outcome := (e.write drawnAt sentAt maxBytes { taken } words).1
    (count = 0 → outcome = (.error (.tooLarge ⟨dataPacketSize e.profile.schema 1, maxBytes⟩),
      { e with written := none }, { taken })) ∧
    (0 < count → ∃ (p : Packet) (e' : Exporter),
      outcome = (.ok (), e', { taken := taken ++ p.encode }) ∧
        p.Carries e.profile.schema count ∧ e'.written = some count) ∧
    (most = 0 ↔ maxBytes < dataPacketSize e.profile.schema 1) := by
  intro most count outcome
  have written : e.writeCount maxBytes = count := e.writeCount_eq maxBytes
  refine ⟨fun none => ?_, fun some => ?_, e.mostRecords_eq_zero_iff maxBytes⟩
  · rcases e.write_unbounded drawnAt sentAt maxBytes taken words with ⟨-, eq⟩ | ⟨p, e', room, -, -⟩
    · exact eq
    · omega
  · rcases e.write_unbounded drawnAt sentAt maxBytes taken words with ⟨full, -⟩ | ⟨p, e', -, fills, eq⟩
    · omega
    · rw [written] at fills eq
      exact ⟨p, _, eq, fills.carries, rfl⟩

def singles : Profile := ⟨.https, 1, .private10, .private10⟩

def single : Exporter := ⟨singles, rfl, 618, 0, none⟩

theorem write_most_refuses :
    single.mostRecords 64 = 1 ∧
      (single.write {} {} 64 {} ⟨.ofNat, 0⟩).1.1 = .error (.tooLarge ⟨64, 64⟩) := by
  exact ⟨by decide, rfl⟩

end Exporter

end FlowTraffic.Netflow
