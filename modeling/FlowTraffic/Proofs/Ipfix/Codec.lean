import FlowTraffic.Ipfix.Template
import FlowTraffic.Proofs.Bytes.Words

/-!
# IPFIX template records on the wire

A record can be written if its IDs leave the top bit free and its counts fit. Reading finds exactly such
records, and each of them only in the bytes that writing gives (`decode_exact`), so nothing is found in a
record that is cut short.
-/

namespace FlowTraffic.Ipfix

open Bytes

/-! ## The top bit -/

section

variable {id : UInt16}

theorem toNat_or_enterpriseBit (h : id < enterpriseBit) :
    (id ||| enterpriseBit).toNat = id.toNat + 32768 := by
  rw [UInt16.toNat_or, Nat.or_comm, Nat.add_comm]
  exact (Nat.two_pow_add_eq_or_of_lt (i := 15) (UInt16.lt_iff_toNat_lt.1 h) 1).symm

theorem not_or_enterpriseBit_lt (h : id < enterpriseBit) : ¬ (id ||| enterpriseBit) < enterpriseBit := by
  rw [UInt16.lt_iff_toNat_lt, toNat_or_enterpriseBit h]
  exact Nat.not_lt.2 (Nat.le_add_left ..)

theorem or_enterpriseBit_sub (h : id < enterpriseBit) :
    (id ||| enterpriseBit) - enterpriseBit = id := by
  apply UInt16.toNat_inj.1
  rw [UInt16.toNat_sub_of_le _ _ (UInt16.not_lt.1 (not_or_enterpriseBit_lt h)), toNat_or_enterpriseBit h]
  exact Nat.add_sub_cancel ..

theorem toNat_sub_enterpriseBit (h : ¬ id < enterpriseBit) :
    (id - enterpriseBit).toNat = id.toNat - 32768 :=
  UInt16.toNat_sub_of_le _ _ (UInt16.not_lt.1 h)

theorem sub_enterpriseBit_lt (h : ¬ id < enterpriseBit) : id - enterpriseBit < enterpriseBit := by
  rw [UInt16.lt_iff_toNat_lt, toNat_sub_enterpriseBit h]
  have fits := id.toNat_lt
  show id.toNat - 32768 < 32768
  omega

theorem sub_or_enterpriseBit (h : ¬ id < enterpriseBit) :
    (id - enterpriseBit) ||| enterpriseBit = id := by
  apply UInt16.toNat_inj.1
  rw [toNat_or_enterpriseBit (sub_enterpriseBit_lt h), toNat_sub_enterpriseBit h]
  have top : 32768 ≤ id.toNat := UInt16.le_iff_toNat_le.1 (UInt16.not_lt.1 h)
  omega

end

/-! ## Field specifiers -/

namespace FieldSpecifier

theorem decode_words (id length : UInt16) (rest : Bytes) :
    decode (ofWord16 id ++ ofWord16 length ++ rest) =
      if id < enterpriseBit then .ok (⟨id, length, none⟩, rest)
      else if rest.length < 4 then .error ⟨.ipfixEnterpriseNumber, 4, rest.length⟩
      else .ok (⟨id - enterpriseBit, length, some (word32 rest).1⟩, (word32 rest).2) := by
  obtain ⟨i, i', hi, rfl⟩ := exists_ofWord16_eq id
  obtain ⟨l, l', hl, rfl⟩ := exists_ofWord16_eq length
  rw [hi, hl]
  show decode (i :: i' :: l :: l' :: rest) = _
  rw [decode.eq_def]
  dsimp only
  split
  · rfl
  · rcases rest with _ | ⟨n₁, _ | ⟨n₂, _ | ⟨n₃, _ | ⟨n₄, rest⟩⟩⟩⟩
    · rfl
    · rfl
    · rfl
    · rfl
    · have enough : ¬ (n₁ :: n₂ :: n₃ :: n₄ :: rest).length < 4 := by simp
      rw [if_neg enough]
      rfl

theorem decode_of_short {b : Bytes} (h : b.length < 4) :
    decode b = .error ⟨.ipfixFieldSpecifier, 4, b.length⟩ := by
  match b, h with
  | [], _ | [_], _ | [_, _], _ | [_, _, _], _ => rfl

theorem decode_append {f : FieldSpecifier} (h : f.id < enterpriseBit) (rest : Bytes) :
    decode (f.encode ++ rest) = .ok (f, rest) := by
  obtain ⟨id, length, _ | n⟩ := f
  · simp only [encode, decode_words, if_pos h]
  · rw [encode, List.append_assoc, decode_words, if_neg (not_or_enterpriseBit_lt h),
      if_neg (by simp [length_ofWord32]), word32_append, or_enterpriseBit_sub h]

theorem encode_of_decode {b rest : Bytes} {f : FieldSpecifier} (h : decode b = .ok (f, rest)) :
    f.id < enterpriseBit ∧ f.encode ++ rest = b := by
  by_cases hshort : b.length < 4
  · rw [decode_of_short hshort] at h
    cases h
  obtain ⟨id, b, rfl⟩ := exists_ofWord16_append (b := b) (by omega)
  rw [List.length_append, length_ofWord16] at hshort
  obtain ⟨length, b, rfl⟩ := exists_ofWord16_append (b := b) (by omega)
  rw [← List.append_assoc, decode_words] at h
  split at h
  · rename_i plain
    cases h
    exact ⟨plain, by rw [encode, List.append_assoc]⟩
  · rename_i marked
    split at h
    · cases h
    · rename_i enough
      cases h
      refine ⟨sub_enterpriseBit_lt marked, ?_⟩
      simp only [encode, sub_or_enterpriseBit marked, List.append_assoc]
      rw [ofWord32_word32 (Nat.not_lt.1 enough)]

theorem decodeMany_append {fs : List FieldSpecifier} (h : ∀ f ∈ fs, f.id < enterpriseBit)
    (rest : Bytes) : decodeMany fs.length (fs.flatMap encode ++ rest) = .ok (fs, rest) := by
  induction fs with
  | nil => rfl
  | cons f fs ih =>
    obtain ⟨hf, hfs⟩ := List.forall_mem_cons.1 h
    rw [List.flatMap_cons, List.append_assoc, List.length_cons, decodeMany, decode_append hf]
    show (decodeMany fs.length _ >>= _) = _
    rw [ih hfs]
    rfl

theorem encode_of_decodeMany {n : Nat} {b rest : Bytes} {fs : List FieldSpecifier}
    (h : decodeMany n b = .ok (fs, rest)) :
    fs.length = n ∧ (∀ f ∈ fs, f.id < enterpriseBit) ∧ fs.flatMap encode ++ rest = b := by
  induction n generalizing b fs with
  | zero =>
    cases h
    exact ⟨rfl, by simp, rfl⟩
  | succ n ih =>
    unfold decodeMany at h
    obtain ⟨⟨f, later⟩, hf, h⟩ := exists_of_bind h
    obtain ⟨⟨fs, last⟩, hm, h⟩ := exists_of_bind h
    cases h
    obtain ⟨hid, hb⟩ := encode_of_decode hf
    obtain ⟨hlength, hids, hrest⟩ := ih hm
    refine ⟨by rw [List.length_cons, hlength], List.forall_mem_cons.2 ⟨hid, hids⟩, ?_⟩
    rw [List.flatMap_cons, List.append_assoc, hrest, hb]

end FieldSpecifier

/-! ## Records -/

namespace TemplateRecord

/-- The wire has room for what the record says. Only the record with the ID 0 has a scope field count. -/
structure Writable (r : TemplateRecord) : Prop where
  count : r.fields.length ≤ 65535
  ids : ∀ f ∈ r.fields, f.id < enterpriseBit
  scope : r.id ≠ 0 → r.scopeFieldCount = 0

/-- The scope field count where the record has one. -/
def scopeBytes (r : TemplateRecord) : Bytes := if r.isScoped then ofWord16 r.scopeFieldCount else []

theorem length_encode (r : TemplateRecord) : r.encode.length = r.size := by
  simp only [encode, size, List.length_append, length_flatMap_eq_total, FieldSpecifier.length_encode,
    length_ofWord16]
  split
  · rw [length_ofWord16]
  · rw [List.length_nil]

theorem decode_words (id count : UInt16) (rest : Bytes) :
    decode (ofWord16 id ++ ofWord16 count ++ rest) = do
      let (scope, rest) ← scopeCount id rest
      let (fields, rest) ← FieldSpecifier.decodeMany count.toNat rest
      return (⟨id, scope, fields⟩, rest) := by
  obtain ⟨i, i', hi, rfl⟩ := exists_ofWord16_eq id
  obtain ⟨c, c', hc, rfl⟩ := exists_ofWord16_eq count
  rw [hi, hc]
  rfl

theorem decode_of_short {b : Bytes} (h : b.length < 4) :
    decode b = .error ⟨.ipfixTemplateHeader, 4, b.length⟩ := by
  match b, h with
  | [], _ | [_], _ | [_, _], _ | [_, _, _], _ => rfl

theorem scopeCount_zero (b : Bytes) :
    scopeCount 0 b =
      if b.length < 2 then .error ⟨.ipfixScopeFieldCount, 2, b.length⟩ else .ok (word16 b) := by
  match b with
  | [] | [_] => rfl
  | s :: s' :: rest =>
    rw [if_neg (by simp)]
    rfl

theorem scopeCount_append {r : TemplateRecord} (h : r.Writable) (rest : Bytes) :
    scopeCount r.id (r.scopeBytes ++ rest) = .ok (r.scopeFieldCount, rest) := by
  unfold scopeBytes isScoped
  by_cases hid : r.id = 0
  · simp only [hid, beq_self_eq_true, if_true]
    have long : ¬ (ofWord16 r.scopeFieldCount ++ rest).length < 2 := by
      rw [List.length_append, length_ofWord16]
      omega
    rw [scopeCount_zero, if_neg long, word16_append]
  · rw [if_neg (by simpa using hid), h.scope hid, List.nil_append]
    unfold scopeCount
    rw [if_neg hid]

theorem decode_append {r : TemplateRecord} (h : r.Writable) (rest : Bytes) :
    decode (r.encode ++ rest) = .ok (r, rest) := by
  have hencode : r.encode ++ rest = ofWord16 r.id ++ ofWord16 (UInt16.ofNat r.fields.length) ++
      (r.scopeBytes ++ (r.fields.flatMap FieldSpecifier.encode ++ rest)) := by
    simp only [encode, scopeBytes, List.append_assoc]
  have hcount : (UInt16.ofNat r.fields.length).toNat = r.fields.length := by
    have := h.count
    exact UInt16.toNat_ofNat_of_lt' (by simp only [UInt16.size]; omega)
  rw [hencode, decode_words, scopeCount_append h, hcount]
  show (FieldSpecifier.decodeMany _ _ >>= _) = _
  rw [FieldSpecifier.decodeMany_append h.ids]
  rfl

theorem encode_of_scopeCount {id scope : UInt16} {b rest : Bytes}
    (h : scopeCount id b = .ok (scope, rest)) (fields : List FieldSpecifier) :
    (id ≠ 0 → scope = 0) ∧ scopeBytes ⟨id, scope, fields⟩ ++ rest = b := by
  unfold scopeBytes isScoped
  by_cases hid : id = 0
  · subst hid
    rw [scopeCount_zero] at h
    split at h
    · cases h
    · rename_i enough
      have hword : word16 b = (scope, rest) := Except.ok.inj h
      have hback := ofWord16_word16 (Nat.not_lt.1 enough)
      rw [hword] at hback
      exact ⟨fun nonzero => absurd rfl nonzero, hback⟩
  · unfold scopeCount at h
    rw [if_neg hid] at h
    cases h
    exact ⟨fun _ => rfl, by rw [if_neg (by simpa using hid), List.nil_append]⟩

theorem encode_of_decode {b rest : Bytes} {r : TemplateRecord} (h : decode b = .ok (r, rest)) :
    r.Writable ∧ r.encode ++ rest = b := by
  by_cases hshort : b.length < 4
  · rw [decode_of_short hshort] at h
    cases h
  obtain ⟨id, b, rfl⟩ := exists_ofWord16_append (b := b) (by omega)
  rw [List.length_append, length_ofWord16] at hshort
  obtain ⟨count, b, rfl⟩ := exists_ofWord16_append (b := b) (by omega)
  rw [← List.append_assoc, decode_words] at h
  obtain ⟨⟨scope, later⟩, hscope, h⟩ := exists_of_bind h
  obtain ⟨⟨fields, last⟩, hfields, h⟩ := exists_of_bind h
  cases h
  obtain ⟨hzero, hb⟩ := encode_of_scopeCount hscope fields
  obtain ⟨hlength, hids, hb'⟩ := FieldSpecifier.encode_of_decodeMany hfields
  have fits := count.toNat_lt
  refine ⟨⟨by simp only [hlength]; omega, hids, hzero⟩, ?_⟩
  rw [← hb, ← hb']
  simp only [encode, scopeBytes, hlength, UInt16.ofNat_toNat, List.append_assoc]

theorem decode_of_proper_prefix {r : TemplateRecord} (h : r.Writable) {b : Bytes} (part : b <+: r.encode)
    (proper : b ≠ r.encode) : ∃ shortage, decode b = .error shortage := by
  cases hdecode : decode b with
  | error shortage => exact ⟨shortage, rfl⟩
  | ok found =>
    obtain ⟨r', rest⟩ := found
    obtain ⟨later, hlater⟩ := part
    obtain ⟨hr', rfl⟩ := encode_of_decode hdecode
    -- The record that is found is found in the whole as well, and nothing is left there.
    have hwhole := decode_append h []
    rw [List.append_nil, ← hlater, List.append_assoc, decode_append hr'] at hwhole
    have hnone : rest ++ later = [] := congrArg Prod.snd (Except.ok.inj hwhole)
    rw [(List.append_eq_nil_iff.1 hnone).2, List.append_nil] at hlater
    exact absurd hlater proper

/-- **Reading undoes writing and the other way round.** A record with some bytes after it is found in the
bytes that it is written as and in no others, if it can be written; no other record is ever found. It is
written in as many bytes as its size says, and with any of them missing at the end there is a shortage. -/
theorem decode_exact (r : TemplateRecord) :
    (∀ b rest, decode b = .ok (r, rest) ↔ r.Writable ∧ b = r.encode ++ rest) ∧
      r.encode.length = r.size ∧
      (r.Writable → ∀ b, b <+: r.encode → b ≠ r.encode → ∃ shortage, decode b = .error shortage) := by
  refine ⟨fun b rest => ⟨fun h => ?_, ?_⟩, r.length_encode, fun h b => decode_of_proper_prefix h⟩
  · obtain ⟨writable, hb⟩ := encode_of_decode h
    exact ⟨writable, hb.symm⟩
  · rintro ⟨writable, rfl⟩
    exact decode_append writable rest

/-- A record with a scope, a plain field and a field of an enterprise. -/
def meterRecord : TemplateRecord where
  id := 0
  scopeFieldCount := 1
  fields := [⟨149, 4, none⟩, ⟨8, 65535, some 29305⟩]

theorem decode_exact_meterRecord :
    meterRecord.Writable ∧ decode (meterRecord.encode ++ [0, 7]) = .ok (meterRecord, [0, 7]) ∧
      meterRecord.encode.length = 18 ∧ meterRecord.encode.take 17 <+: meterRecord.encode ∧
      meterRecord.encode.take 17 ≠ meterRecord.encode ∧
      ∃ shortage, decode (meterRecord.encode.take 17) = .error shortage := by
  have writable : meterRecord.Writable := ⟨by decide, by decide, by decide⟩
  obtain ⟨found, length, missing⟩ := decode_exact meterRecord
  have part : meterRecord.encode.take 17 <+: meterRecord.encode := List.take_prefix 17 _
  have proper : meterRecord.encode.take 17 ≠ meterRecord.encode := by decide
  exact ⟨writable, (found _ _).2 ⟨writable, rfl⟩, length.trans (by decide), part, proper,
    missing writable _ part proper⟩

end TemplateRecord

end FlowTraffic.Ipfix
