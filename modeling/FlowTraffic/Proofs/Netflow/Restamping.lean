import FlowTraffic.Netflow.Timestamp
import FlowTraffic.Proofs.Netflow.Acceptance

/-!
# What a new time changes

A payload that gets a new time is the same outside of the four bytes of the time, and what is no packet or
too short for a header stays as it is. These four bytes are the time of the header: a collector that reads
the payload sees another time and nothing else (`restamp_only_time`).
-/

namespace FlowTraffic.Netflow

open Bytes

/-! ## The bytes -/

/-- A datagram is a payload, but for the time in the header if it is long enough for one. -/
structure SameButTime (payload datagram : Bytes) : Prop where
  length_eq : datagram.length = payload.length
  short : payload.length < 20 → datagram = payload
  outside : ∀ i, i < 8 ∨ 12 ≤ i → datagram[i]? = payload[i]?

theorem SameButTime.refl (payload : Bytes) : SameButTime payload payload :=
  ⟨rfl, fun _ => rfl, fun _ _ => rfl⟩

theorem sameButTime_restamp (unixSecs : UInt32) (payload : Bytes) :
    SameButTime payload (restamp unixSecs payload) := by
  unfold restamp
  split
  · rename_i packet
    have hlong : 20 ≤ payload.length := of_decide_eq_true (Bool.and_eq_true_iff.1 packet).2
    have htime : (Bytes.ofWord32 unixSecs).length = 4 := Bytes.length_ofWord32 unixSecs
    refine ⟨?_, fun short => by omega, fun i outside => ?_⟩
    · simp only [List.length_append, List.length_take, List.length_drop, htime, timeOffset]
      omega
    · have hfront : (payload.take timeOffset ++ Bytes.ofWord32 unixSecs).length = 12 := by
        simp only [List.length_append, List.length_take, htime, timeOffset]
        omega
      rcases outside with before | after
      · have hbefore : i < (payload.take timeOffset).length := by
          simp only [List.length_take, timeOffset]
          omega
        rw [List.append_assoc, List.getElem?_append_left hbefore]
        exact List.getElem?_take_of_lt before
      · rw [List.getElem?_append_right (by omega), hfront, List.getElem?_drop]
        congr 1
        simp only [timeOffset]
        omega
  · exact .refl payload

theorem restamp_of_short {payload : Bytes} (short : payload.length < Header.size) (unixSecs : UInt32) :
    restamp unixSecs payload = payload := (sameButTime_restamp unixSecs payload).short short

/-! ## The header -/

theorem isNetflow_append (h : Header) (body : Bytes) :
    isNetflow (h.encode ++ body) = .ok (h.version == version) := by
  obtain ⟨high, low, hbytes, hjoin⟩ := exists_ofWord16_eq h.version
  simp only [Header.encode, hbytes, List.cons_append, List.append_assoc, isNetflow, hjoin]

namespace Header

/-- The header with another time. A header of another version stays as it is. -/
def restamped (unixSecs : UInt32) (h : Header) : Header :=
  if h.version = Netflow.version then { h with unixSecs } else h

@[simp] theorem version_restamped (unixSecs : UInt32) (h : Header) :
    (h.restamped unixSecs).version = h.version := by
  unfold restamped
  split <;> rfl

@[simp] theorem restamped_restamped (first second : UInt32) (h : Header) :
    (h.restamped first).restamped second = h.restamped second := by
  by_cases hv : h.version = Netflow.version <;> simp [restamped, hv]

theorem restamp_append (unixSecs : UInt32) (h : Header) (body : Bytes) :
    restamp unixSecs (h.encode ++ body) = (h.restamped unixSecs).encode ++ body := by
  rw [restamp, isPacket, isNetflow_append]
  by_cases hv : h.version = Netflow.version
  · -- The time lies between the words before it and the words after it.
    obtain ⟨front, after, hfront, hencode⟩ : ∃ front after : Bytes, front.length = timeOffset ∧
        ∀ time, ({ h with unixSecs := time } : Header).encode ++ body =
          front ++ (ofWord32 time ++ (after ++ body)) :=
      ⟨ofWord16 h.version ++ ofWord16 h.flowCount ++ ofWord32 h.sysUptime,
        ofWord32 h.sequence ++ ofWord32 h.sourceId, by simp [timeOffset],
        fun time => by simp only [encode, List.append_assoc]⟩
    have hdrop : (h.encode ++ body).drop (timeOffset + 4) = after ++ body := by
      rw [hencode h.unixSecs, ← List.append_assoc]
      exact List.drop_left' (by rw [List.length_append, hfront, length_ofWord32])
    rw [if_pos (by simp [hv]), restamped, if_pos hv, hdrop, hencode unixSecs, hencode h.unixSecs,
      List.take_left' hfront, List.append_assoc]
  · rw [restamped, if_neg hv, beq_false_of_ne hv]
    rfl

theorem isPrefix_of_version {h : Header} (hv : h.version = Netflow.version) (body : Bytes) :
    [0, 9] <+: h.encode ++ body := by
  have hword : ofWord16 h.version = [0, 9] := by rw [hv]; decide
  rw [encode, hword]
  simp only [List.append_assoc]
  exact List.prefix_append _ _

end Header

/-! ## The packet -/

/-- A payload with another time is read as the same packet with another time, or refused for the same
reason, and teaches the same. -/
theorem Packet.parse_restamp (r : Registry) (unixSecs : UInt32) (payload : Bytes) :
    parse r (restamp unixSecs payload) =
      ((parse r payload).1.map fun p => { p with header.unixSecs := unixSecs },
        (parse r payload).2) := by
  obtain short | ⟨h, body, rfl⟩ := Header.short_or_append payload
  · rw [restamp_of_short short, parse, if_pos short]
    rfl
  · rw [Header.restamp_append, parse_append, parse_append, Header.version_restamped]
    by_cases hv : h.version = version
    · rw [if_neg (not_not.2 hv), if_neg (not_not.2 hv), Header.restamped, if_pos hv]
      cases (FlowSet.readBody r body).fault with
      | some e => rfl
      | none => rfl
    · rw [if_pos hv, if_pos hv]
      rfl

theorem headed_of_restamp_ne {unixSecs : UInt32} {payload : Bytes}
    (changed : restamp unixSecs payload ≠ payload) : 20 ≤ payload.length ∧ [0, 9] <+: payload := by
  obtain short | ⟨h, body, rfl⟩ := Header.short_or_append payload
  · exact absurd (restamp_of_short short unixSecs) changed
  · refine ⟨by simp [Header.size], Header.isPrefix_of_version ?_ body⟩
    by_contra hv
    rw [Header.restamp_append, Header.restamped, if_neg hv] at changed
    exact changed rfl

/-- **A new time changes the time and nothing else.** Only bytes 8 to 11 can change, and only of what has
the length and the version of a packet. Whatever a collector knows, it reads the same packet with the new
time and learns the same, or refuses both payloads for the same reason. The first look at the version
number says the same of both, and of two new times the later one counts. -/
theorem restamp_only_time (r : Registry) (unixSecs : UInt32) (payload : Bytes) :
    (restamp unixSecs payload).length = payload.length ∧
    (∀ i, (restamp unixSecs payload)[i]? ≠ payload[i]? →
      (8 ≤ i ∧ i < 12) ∧ 20 ≤ payload.length ∧ [0, 9] <+: payload) ∧
    Packet.parse r (restamp unixSecs payload) =
      ((Packet.parse r payload).1.map fun p => { p with header.unixSecs := unixSecs },
        (Packet.parse r payload).2) ∧
    isNetflow (restamp unixSecs payload) = isNetflow payload ∧
    ∀ later, restamp later (restamp unixSecs payload) = restamp later payload := by
  have hsame := sameButTime_restamp unixSecs payload
  refine ⟨hsame.length_eq, fun i changed => ⟨?_, ?_⟩, Packet.parse_restamp r unixSecs payload, ?_⟩
  · by_contra outside
    exact changed (hsame.outside i (by omega))
  · exact headed_of_restamp_ne fun same => changed (by rw [same])
  · obtain short | ⟨h, body, rfl⟩ := Header.short_or_append payload
    · rw [restamp_of_short short]
      exact ⟨rfl, fun _ => rfl⟩
    · refine ⟨?_, fun later => ?_⟩
      · rw [Header.restamp_append, isNetflow_append, isNetflow_append, Header.version_restamped]
      · simp only [Header.restamp_append, Header.restamped_restamped]

end FlowTraffic.Netflow
