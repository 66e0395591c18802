import FlowTraffic.Netflow.Packet
import FlowTraffic.Proofs.Bytes.Words

/-!
# Headers, records and templates on the wire

Reading undoes writing with any bytes after it, and bytes that are long enough are what is read off
them, written out.
-/

namespace FlowTraffic.Netflow

open Bytes

/-! ## Headers -/

theorem Header.decode_append (h : Header) (rest : Bytes) :
    Header.decode (h.encode ++ rest) = (h, rest) := by
  simp only [decode, encode, List.append_assoc, reader_bind, reader_pure, word16_append,
    word32_append]

theorem Header.encode_decode {b : Bytes} (h : Header.size ≤ b.length) :
    (Header.decode b).1.encode ++ (Header.decode b).2 = b := by
  simp only [size] at h
  simp only [decode, encode, List.append_assoc, reader_bind, reader_pure]
  -- The words fold back from the last one to the first.
  simp (disch := simp only [length_word16, length_word32]; omega) only [ofWord16_word16,
    ofWord32_word32]
  exact ofWord16_word16 (by omega)

theorem Header.short_or_append (b : Bytes) :
    b.length < Header.size ∨ ∃ (h : Header) (body : Bytes), b = h.encode ++ body := by
  by_cases short : b.length < Header.size
  · exact .inl short
  · exact .inr ⟨_, _, (Header.encode_decode (Nat.not_lt.1 short)).symm⟩

/-! ## Records -/

namespace Flow

theorem schema_decode (s : Schema) (b : Bytes) : (decode s b).1.schema = s := by
  cases s <;> rfl

theorem decode_append (x : Flow) (rest : Bytes) : decode x.schema (x.encode ++ rest) = (x, rest) := by
  cases x <;> simp only [decode, schema, encode, encodeAddr, decodeAddr, List.append_assoc,
    reader_bind, reader_pure, word8_append, word16_append, word32_append]

theorem encode_decode {s : Schema} {b : Bytes} (h : s.recordSize ≤ b.length) :
    (decode s b).1.encode ++ (decode s b).2 = b := by
  cases s with
  | https =>
    rw [Schema.recordSize_https] at h
    simp only [decode, decodeAddr, encode, encodeAddr, List.append_assoc, reader_bind, reader_pure]
    simp (disch := simp only [length_word8, length_word16, length_word32]; omega) only
      [ofWord8_word8, ofWord16_word16, ofWord32_word32]
    exact ofWord32_word32 (by omega)
  | generic =>
    rw [Schema.recordSize_generic] at h
    simp only [decode, decodeAddr, encode, encodeAddr, List.append_assoc, reader_bind, reader_pure]
    simp (disch := simp only [length_word8, length_word16, length_word32]; omega) only
      [ofWord8_word8, ofWord16_word16, ofWord32_word32]
    exact ofWord32_word32 (by omega)

theorem decodeMany_append {s : Schema} {xs : List Flow} (h : ∀ x ∈ xs, x.schema = s)
    (rest : Bytes) : decodeMany s xs.length (xs.flatMap encode ++ rest) = (xs, rest) := by
  induction xs with
  | nil => rfl
  | cons x xs ih =>
    obtain ⟨hx, hxs⟩ := List.forall_mem_cons.1 h
    simp only [List.length_cons, List.flatMap_cons, List.append_assoc, decodeMany, reader_bind,
      reader_pure]
    rw [← hx, decode_append, hx, ih hxs]

theorem length_flatMap_encode {s : Schema} {xs : List Flow} (h : ∀ x ∈ xs, x.schema = s) :
    (xs.flatMap encode).length = xs.length * s.recordSize :=
  length_flatMap_of_length fun x hx => by rw [length_encode, size, h x hx]

theorem decodeMany_of_body {s : Schema} {body filler : Bytes} {xs : List Flow}
    (hbody : body = xs.flatMap encode ++ filler) (hlayout : ∀ x ∈ xs, x.schema = s)
    (hcount : xs.length = body.length / s.recordSize) :
    (decodeMany s (body.length / s.recordSize)).run body = (xs, filler) := by
  have hread := decodeMany_append hlayout filler
  rwa [hcount, ← hbody] at hread

theorem exists_row (s : Schema) {n : Nat} {b : Bytes} (h : n * s.recordSize ≤ b.length) :
    ∃ (xs : List Flow) (rest : Bytes),
      xs.length = n ∧ (∀ x ∈ xs, x.schema = s) ∧ b = xs.flatMap encode ++ rest := by
  refine exists_flatMap_append (fun b hb => ?_) n b h
  refine ⟨(decode s b).1, (decode s b).2, schema_decode s b, ?_, (encode_decode hb).symm⟩
  rw [length_encode, size, schema_decode]

end Flow

/-! ## Fields -/

namespace Field

theorem decode_append (f : Field) (rest : Bytes) : decode (f.encode ++ rest) = (f, rest) := by
  simp only [decode, encode, List.append_assoc, reader_bind, reader_pure, word16_append]

theorem decodeMany_append (fs : List Field) (rest : Bytes) :
    decodeMany fs.length (fs.flatMap encode ++ rest) = (fs, rest) := by
  induction fs with
  | nil => rfl
  | cons f fs ih =>
    simp only [List.length_cons, List.flatMap_cons, List.append_assoc, decodeMany, reader_bind,
      reader_pure, decode_append, ih]

theorem length_flatMap_encode (fs : List Field) : (fs.flatMap encode).length = fs.length * 4 :=
  length_flatMap_of_length fun f _ => length_encode f

theorem exists_row {n : Nat} {b : Bytes} (h : n * 4 ≤ b.length) :
    ∃ (fs : List Field) (rest : Bytes), fs.length = n ∧ b = fs.flatMap encode ++ rest := by
  have front : ∀ b : Bytes, 4 ≤ b.length →
      ∃ (f : Field) (rest : Bytes), True ∧ f.encode.length = 4 ∧ b = f.encode ++ rest := by
    intro b hb
    obtain ⟨code, b, rfl⟩ := exists_ofWord16_append (b := b) (by omega)
    rw [List.length_append, length_ofWord16] at hb
    obtain ⟨length, rest, rfl⟩ := exists_ofWord16_append (b := b) (by omega)
    exact ⟨⟨code, length⟩, rest, trivial, length_encode _, by rw [encode, List.append_assoc]⟩
  obtain ⟨fs, rest, hn, -, hb⟩ := exists_flatMap_append front n b h
  exact ⟨fs, rest, hn, hb⟩

end Field

/-! ## Templates -/

namespace Template

/-- The number of the fields is the number that the wire carries. -/
def Whole (t : Template) : Prop := t.fields.length ≤ 65535

theorem Whole.toNat_fieldCount {t : Template} (h : t.Whole) :
    t.fieldCount.toNat = t.fields.length := by
  unfold Whole at h
  exact UInt16.toNat_ofNat_of_lt' (by simp only [UInt16.size]; omega)

theorem decodeAll_of_short {b : Bytes} (h : b.length < 4) : decodeAll b = .ok [] := by
  match b, h with
  | [], _ | [_], _ | [_, _], _ | [_, _, _], _ => simp [decodeAll]; rfl

theorem decodeAll_words (id count : UInt16) (rest : Bytes) :
    decodeAll (ofWord16 id ++ ofWord16 count ++ rest) =
      if rest.length < 4 * count.toNat then
        .error (.short ⟨.templateFields, 4 * count.toNat, rest.length⟩)
      else
        (decodeAll (rest.drop (4 * count.toNat))).map
          (⟨id, (Field.decodeMany count.toNat (rest.take (4 * count.toNat))).1⟩ :: ·) := by
  obtain ⟨i, i', hi, rfl⟩ := exists_ofWord16_eq id
  obtain ⟨c, c', hc, rfl⟩ := exists_ofWord16_eq count
  rw [hi, hc]
  show decodeAll (i :: i' :: c :: c' :: rest) = _
  rw [decodeAll]
  have hshort : (rest.take (4 * (join16 c c').toNat)).length < 4 * (join16 c c').toNat ↔
      rest.length < 4 * (join16 c c').toNat := by rw [List.length_take]; omega
  simp only [hshort]
  split
  · rfl
  · cases decodeAll (rest.drop (4 * (join16 c c').toNat)) <;> rfl

theorem decodeAll_of_torn {count : UInt16} {tail : Bytes} (id : UInt16)
    (h : tail.length < 4 * count.toNat) :
    decodeAll (ofWord16 id ++ ofWord16 count ++ tail) =
      .error (.short ⟨.templateFields, 4 * count.toNat, tail.length⟩) := by
  rw [decodeAll_words, if_pos h]

theorem decodeAll_append {t : Template} (h : t.Whole) (rest : Bytes) :
    decodeAll (t.encode ++ rest) = (decodeAll rest).map (t :: ·) := by
  have hlen : (t.fields.flatMap Field.encode).length = 4 * t.fieldCount.toNat := by
    rw [Field.length_flatMap_encode, h.toNat_fieldCount, Nat.mul_comm]
  rw [encode, List.append_assoc, decodeAll_words, if_neg (by rw [List.length_append]; omega),
    List.take_left' hlen, List.drop_left' hlen, h.toNat_fieldCount]
  have hfields := Field.decodeMany_append t.fields []
  rw [List.append_nil] at hfields
  rw [hfields]

theorem decodeAll_row {ts : List Template} (h : ∀ t ∈ ts, t.Whole) (rest : Bytes) :
    decodeAll (ts.flatMap encode ++ rest) = (decodeAll rest).map (ts ++ ·) := by
  induction ts with
  | nil => cases hrest : decodeAll rest <;> simp [Except.map, hrest]
  | cons t ts ih =>
    obtain ⟨ht, hts⟩ := List.forall_mem_cons.1 h
    rw [List.flatMap_cons, List.append_assoc, decodeAll_append ht, ih hts]
    cases decodeAll rest <;> rfl

theorem decodeAll_row_of_short {ts : List Template} {filler : Bytes} (h : ∀ t ∈ ts, t.Whole)
    (hfiller : filler.length < 4) : decodeAll (ts.flatMap encode ++ filler) = .ok ts := by
  rw [decodeAll_row h, decodeAll_of_short hfiller]
  simp [Except.map]

/-- Any bytes are a row of templates, and after it either filler or a template that is cut off. -/
theorem exists_row (b : Bytes) : ∃ (ts : List Template) (rest : Bytes),
    b = ts.flatMap encode ++ rest ∧ (∀ t ∈ ts, t.Whole) ∧
      (rest.length < 4 ∨ ∃ (id count : UInt16) (tail : Bytes),
        rest = ofWord16 id ++ ofWord16 count ++ tail ∧ tail.length < 4 * count.toNat) := by
  -- On the bytes that are left: every template takes at least four.
  induction hn : b.length using Nat.strongRecOn generalizing b with
  | ind n ih =>
    by_cases hshort : b.length < 4
    · exact ⟨[], b, rfl, by simp, .inl hshort⟩
    obtain ⟨id, b, rfl⟩ := exists_ofWord16_append (b := b) (by omega)
    rw [List.length_append, length_ofWord16] at hn hshort
    obtain ⟨count, b, rfl⟩ := exists_ofWord16_append (b := b) (by omega)
    by_cases htorn : b.length < 4 * count.toNat
    · exact ⟨[], ofWord16 id ++ (ofWord16 count ++ b), rfl, by simp,
        .inr ⟨id, count, b, (List.append_assoc ..).symm, htorn⟩⟩
    obtain ⟨fs, b, hfs, rfl⟩ := Field.exists_row (n := count.toNat) (b := b) (by omega)
    have hcount : UInt16.ofNat fs.length = count := by rw [hfs, UInt16.ofNat_toNat]
    have hwhole : Whole ⟨id, fs⟩ := by
      have := count.toNat_lt
      simp only [Whole, hfs]
      omega
    simp only [List.length_append, length_ofWord16] at hn
    obtain ⟨ts, rest, rfl, hts, hrest⟩ := ih b.length (by omega) b rfl
    refine ⟨⟨id, fs⟩ :: ts, rest, ?_, List.forall_mem_cons.2 ⟨hwhole, hts⟩, hrest⟩
    simp [encode, fieldCount, hcount]

end Template

end FlowTraffic.Netflow
