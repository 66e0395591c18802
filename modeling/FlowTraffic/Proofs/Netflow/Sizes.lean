import FlowTraffic.Proofs.Netflow.RoundTrip

/-!
# The size of a data set

A set is made of its records exactly when its size, rounded up to a multiple of four, fits the length
field. What it is written as has that size: the ID and the length, the records in their order, and the
zeros that round it up.
-/

namespace FlowTraffic.Netflow

def roundUp (n : Nat) : Nat := (n + 3) / 4 * 4

theorem add_paddingFor (n : Nat) : n + paddingFor n = roundUp n := by
  unfold paddingFor roundUp
  omega

theorem eq_paddingFor_iff {n p : Nat} : p < 4 ∧ 4 ∣ n + p ↔ p = paddingFor n := by
  unfold paddingFor
  omega

namespace DataSet

theorem paddedSize_eq_roundUp (records : List Flow) :
    paddedSize records = roundUp (4 + total (records.map Flow.size)) :=
  add_paddingFor _

theorem length_flatMap_encode (records : List Flow) :
    (records.flatMap Flow.encode).length = total (records.map Flow.size) := by
  simp only [length_flatMap_eq_total, Flow.length_encode]

/-- The bytes say what the set says: its ID and its length in two bytes each, its records one after the
other, and the padding in zeros up to the end. -/
structure Spells (b : Bytes) (s : DataSet) : Prop where
  id : Bytes.toNat (b.take 2) = s.id.toNat
  length : Bytes.toNat ((b.drop 2).take 2) = s.length.toNat
  record : ∀ before x after, before ++ x :: after = s.records →
    (b.drop (4 + total (before.map Flow.size))).take x.size = x.encode
  zeros : b.drop (4 + total (s.records.map Flow.size)) = List.replicate s.padding.toNat 0

theorem spells_encode (s : DataSet) : Spells s.encode s := by
  have row : s.encode = Bytes.ofWord16 s.id ++ Bytes.ofWord16 s.length ++ s.body := by
    simp only [encode, body, List.append_assoc]
  obtain ⟨hid, hlength, hrest⟩ := Bytes.words_in_front s.id s.length s.body
  rw [← row] at hid hlength hrest
  have hdrop (n : Nat) : s.encode.drop (4 + n) = s.body.drop n := by
    rw [← List.drop_drop, hrest]
  refine ⟨hid, hlength, ?_, ?_⟩
  · intro before x after hrecords
    have hrow : s.body =
        before.flatMap Flow.encode ++ (x.encode ++ (after.flatMap Flow.encode ++
          List.replicate s.padding.toNat 0)) := by
      simp [body, ← hrecords]
    rw [hdrop, hrow, List.drop_left' (length_flatMap_encode before),
      List.take_left' (Flow.length_encode x)]
  · rw [hdrop, body, List.drop_left' (length_flatMap_encode s.records)]

theorem length_encode_eq_add (s : DataSet) :
    s.encode.length = 4 + total (s.records.map Flow.size) + s.padding.toNat := by
  rw [length_encode_eq, body, List.length_append, length_flatMap_encode, List.length_replicate,
    ← Nat.add_assoc]
  rfl

/-- **A data set is exact at its limit.** Records make a set if and only if four bytes and their sizes,
rounded up to a multiple of four, are at most 65535. The length field of the set has the rounded size,
and the padding is the one number below four that fills up to it. The set is written in that many bytes:
the ID, the length, the records in their order and the padding in zeros. Records that make no set are
refused with the rounded size and the limit. -/
theorem ofRecords_exact (id : UInt16) (records : List Flow) :
    let size := 4 + total (records.map Flow.size)
    ((∃ s, ofRecords id records = .ok s) ↔ roundUp size ≤ 65535) ∧
      (∀ s, ofRecords id records = .ok s →
        s.id = id ∧ s.records = records ∧ s.length.toNat = roundUp size ∧ 4 ∣ s.length.toNat ∧
          s.length.toNat = size + s.padding.toNat ∧
          (∀ p, p < 4 ∧ 4 ∣ size + p ↔ p = s.padding.toNat) ∧
          s.encode.length = s.length.toNat ∧ Spells s.encode s) ∧
      ∀ e, ofRecords id records = .error e → e = ⟨roundUp size, 65535⟩ := by
  intro size
  refine ⟨?_, fun s made => ?_, fun e refused => ?_⟩
  · rw [← paddedSize_eq_roundUp, ofRecords]
    split
    · rename_i fits
      exact iff_of_true ⟨_, rfl⟩ fits
    · rename_i large
      exact iff_of_false (by rintro ⟨s, hs⟩; cases hs) large
  · obtain ⟨rfl, rfl, hlength, hpadding⟩ := of_ofRecords_eq_ok made
    have hsize : s.length.toNat = size + s.padding.toNat := by
      rw [hlength, hpadding]
      rfl
    have hround : s.length.toNat = roundUp size := hlength.trans (paddedSize_eq_roundUp _)
    refine ⟨rfl, rfl, hround, ?_, hsize, fun p => ?_, ?_, s.spells_encode⟩
    · rw [hround]
      exact Nat.dvd_mul_left 4 _
    · rw [hpadding]
      exact eq_paddingFor_iff
    · rw [hsize]
      exact s.length_encode_eq_add
  · rw [ofRecords] at refused
    split at refused
    · cases refused
    · rw [← paddedSize_eq_roundUp]
      exact (Except.error.inj refused).symm

/-- So many records of the longer kind, and 37 of the shorter. -/
def mixed (n : Nat) : List Flow :=
  List.replicate n (.https {}) ++ List.replicate 37 (.generic {})

theorem total_mixed (n : Nat) : total ((mixed n).map Flow.size) = 40 * n + 1369 := by
  have hhttps : total (List.replicate n 40) = 40 * n := by
    induction n with
    | zero => rfl
    | succ n ih =>
      rw [List.replicate_succ, total_cons, ih]
      omega
  rw [mixed, List.map_append, List.map_replicate, List.map_replicate, total_append]
  exact congrArg (· + 1369) hhttps

/-- 65533 bytes would fit the length field, but they are rounded up past it. One record less makes a set
again, with a padding of three. -/
theorem ofRecords_exact_mixed :
    ofRecords 257 (mixed 1604) = .error ⟨65536, 65535⟩ ∧
      ∃ s, ofRecords 257 (mixed 1603) = .ok s ∧ s.length.toNat = 65496 ∧ s.padding.toNat = 3 ∧
        s.encode.length = 65496 := by
  constructor
  · obtain ⟨made, -, refused⟩ := ofRecords_exact 257 (mixed 1604)
    rw [total_mixed] at made refused
    cases result : ofRecords 257 (mixed 1604) with
    | error e => rw [refused e result]; rfl
    | ok s => exact absurd (made.1 ⟨s, result⟩) (by decide)
  · obtain ⟨made, fits, -⟩ := ofRecords_exact 257 (mixed 1603)
    rw [total_mixed] at made fits
    obtain ⟨s, hs⟩ := made.2 (by decide)
    obtain ⟨-, -, hlength, -, -, hpadding, hencode, -⟩ := fits s hs
    have hlength : s.length.toNat = 65496 := hlength
    exact ⟨s, hs, hlength, ((hpadding 3).1 (by decide)).symm, hencode.trans hlength⟩

end DataSet

end FlowTraffic.Netflow
