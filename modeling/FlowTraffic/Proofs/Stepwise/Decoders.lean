import FlowTraffic.Ipfix.Header
import FlowTraffic.Proofs.Ipfix.Codec
import FlowTraffic.Proofs.Stepwise.Netflow

/-!
# No decoder meets a hazard

The IPFIX decoders step by step, and what holds of all four decoders (`decoders_meet_no_hazard`). Each
field specifier takes at least four bytes.
-/

namespace FlowTraffic

open Bytes Steps

namespace Ipfix

/-! ## The top bit as a mask -/

section

variable (id : UInt16)

theorem and_enterpriseBit_eq_zero_iff : id &&& enterpriseBit = 0 ↔ id < enterpriseBit := by
  have toNat : (id &&& enterpriseBit).toNat = id.toNat &&& 2 ^ 15 := UInt16.toNat_and ..
  rw [← UInt16.toNat_inj, toNat, UInt16.lt_iff_toNat_lt]
  constructor
  · intro zero
    have top : id.toNat.testBit 15 = false := by
      have bit : (id.toNat &&& 2 ^ 15).testBit 15 = false := by
        rw [zero]
        exact Nat.zero_testBit 15
      rwa [Nat.testBit_and, Nat.testBit_two_pow_self, Bool.and_true] at bit
    have fits := id.toNat_lt
    rw [Nat.testBit_eq_decide_div_mod_eq, decide_eq_false_iff_not] at top
    show id.toNat < 32768
    omega
  · intro low
    apply Nat.eq_of_testBit_eq
    intro i
    rw [Nat.testBit_and, Nat.testBit_two_pow]
    by_cases h : 15 = i
    · subst h
      rw [Nat.testBit_lt_two_pow low]
      rfl
    · simp [h]

theorem toNat_and_not_enterpriseBit : (id &&& ~~~enterpriseBit).toNat = id.toNat % 32768 := by
  rw [UInt16.toNat_and]
  exact Nat.and_two_pow_sub_one_eq_mod id.toNat 15

theorem and_not_enterpriseBit_of_lt {id : UInt16} (low : id < enterpriseBit) :
    id &&& ~~~enterpriseBit = id := by
  apply UInt16.toNat_inj.1
  rw [toNat_and_not_enterpriseBit]
  exact Nat.mod_eq_of_lt (UInt16.lt_iff_toNat_lt.1 low)

theorem and_not_enterpriseBit_of_not_lt {id : UInt16} (top : ¬ id < enterpriseBit) :
    id &&& ~~~enterpriseBit = id - enterpriseBit := by
  apply UInt16.toNat_inj.1
  have fits := id.toNat_lt
  have high : 32768 ≤ id.toNat := UInt16.le_iff_toNat_le.1 (UInt16.not_lt.1 top)
  rw [toNat_and_not_enterpriseBit, toNat_sub_enterpriseBit top]
  omega

end

/-! ## Headers -/

namespace Header

def readStepwise : Steps Shortage Header := do
  return {
    version := ← word16, length := ← word16, exportTime := ← word32
    sequence := ← word32, domainId := ← word32 }

def decodeStepwise : Steps Shortage Header := do
  demand .ipfixHeader size
  readStepwise

theorem reads : Reads size readStepwise fields :=
  Reads.word16.bind fun _ => Reads.word16.bind fun _ => Reads.word32.bind fun _ =>
    Reads.word32.bind fun _ => Reads.word32.map _

theorem decodeStepwise_eq (b : Bytes) : decodeStepwise b = .ok (decode b) :=
  reads.ensured (fun s => s) .ipfixHeader b

end Header

/-! ## Field specifiers -/

namespace FieldSpecifier

/-- The enterprise number, where the raw ID says that there is one. -/
def enterpriseStepwise (rawId : UInt16) : Steps Shortage (Option UInt32) :=
  if rawId &&& enterpriseBit = 0 then return none
  else do
    demand .ipfixEnterpriseNumber 4
    return some (← word32)

def decodeStepwise : Steps Shortage FieldSpecifier := do
  demand .ipfixFieldSpecifier 4
  let rawId ← word16
  let length ← word16
  let enterprise ← enterpriseStepwise rawId
  return ⟨rawId &&& ~~~enterpriseBit, length, enterprise⟩

def manyStepwise : Nat → Steps Shortage (List FieldSpecifier)
  | 0 => return []
  | n + 1 => do
    let f ← taking 4 decodeStepwise
    return f :: (← manyStepwise n)

theorem enterpriseStepwise_eq (rawId : UInt16) (b : Bytes) :
    enterpriseStepwise rawId b = .ok (
      if rawId < enterpriseBit then .ok (none, b)
      else if b.length < 4 then .error ⟨.ipfixEnterpriseNumber, 4, b.length⟩
      else .ok (some (Bytes.word32 b).1, (Bytes.word32 b).2)) := by
  unfold enterpriseStepwise
  by_cases low : rawId < enterpriseBit
  · rw [if_pos ((and_enterpriseBit_eq_zero_iff rawId).2 low), if_pos low, pure_apply]
  · rw [if_neg (mt (and_enterpriseBit_eq_zero_iff rawId).1 low), if_neg low]
    exact (Reads.word32.map some).ensured (fun s => s) .ipfixEnterpriseNumber b

theorem decodeStepwise_eq (b : Bytes) : decodeStepwise b = .ok (decode b) := by
  unfold decodeStepwise
  by_cases short : b.length < 4
  · rw [bind_of_refused (ensure_of_lt _ _ short), decode_of_short short]
  rw [bind_of_ok (ensure_of_le _ _ (Nat.not_lt.1 short))]
  obtain ⟨rawId, b, rfl⟩ := exists_ofWord16_append (b := b) (by omega)
  rw [List.length_append, length_ofWord16] at short
  obtain ⟨length, b, rfl⟩ := exists_ofWord16_append (b := b) (by omega)
  rw [bind_of_ok (word16_append ..), bind_of_ok (word16_append ..), ← List.append_assoc, decode_words]
  have number := enterpriseStepwise_eq rawId b
  by_cases low : rawId < enterpriseBit
  · rw [if_pos low] at number ⊢
    rw [bind_of_ok number, and_not_enterpriseBit_of_lt low]
    rfl
  rw [if_neg low] at number ⊢
  rw [and_not_enterpriseBit_of_not_lt low]
  by_cases missing : b.length < 4
  · rw [if_pos missing] at number ⊢
    exact bind_of_refused number
  · rw [if_neg missing] at number ⊢
    exact bind_of_ok number

theorem four_le_of_decode {b rest : Bytes} {f : FieldSpecifier} (h : decode b = .ok (f, rest)) :
    rest.length + 4 ≤ b.length := by
  obtain ⟨-, rfl⟩ := encode_of_decode h
  have four : 4 ≤ f.size := by
    unfold size
    split <;> omega
  rw [List.length_append, length_encode]
  omega

theorem manyStepwise_eq (n : Nat) (b : Bytes) : manyStepwise n b = .ok (decodeMany n b) := by
  induction n generalizing b with
  | zero => rfl
  | succ n ih =>
    have first := taking_of_found (decodeStepwise_eq b) fun f rest => four_le_of_decode
    unfold manyStepwise decodeMany
    exact bind_of_found first fun f rest _ => bind_of_found (ih rest) fun fs rest _ => rfl

end FieldSpecifier

/-! ## Template records -/

namespace TemplateRecord

def scopeStepwise (rid : UInt16) : Steps Shortage UInt16 :=
  if rid = 0 then do
    demand .ipfixScopeFieldCount 2
    word16
  else return 0

def decodeStepwise : Steps Shortage TemplateRecord := do
  demand .ipfixTemplateHeader 4
  let rid ← word16
  let count ← word16
  let scope ← scopeStepwise rid
  let fields ← FieldSpecifier.manyStepwise count.toNat
  return ⟨rid, scope, fields⟩

theorem scopeStepwise_eq (rid : UInt16) (b : Bytes) :
    scopeStepwise rid b = .ok (scopeCount rid b) := by
  unfold scopeStepwise
  by_cases zero : rid = 0
  · subst zero
    rw [if_pos rfl, scopeCount_zero]
    exact Reads.word16.ensured (fun s => s) .ipfixScopeFieldCount b
  · unfold scopeCount
    rw [if_neg zero, if_neg zero]
    rfl

theorem decodeStepwise_eq (b : Bytes) : decodeStepwise b = .ok (decode b) := by
  unfold decodeStepwise
  by_cases short : b.length < 4
  · rw [bind_of_refused (ensure_of_lt _ _ short), decode_of_short short]
  rw [bind_of_ok (ensure_of_le _ _ (Nat.not_lt.1 short))]
  obtain ⟨rid, b, rfl⟩ := exists_ofWord16_append (b := b) (by omega)
  rw [List.length_append, length_ofWord16] at short
  obtain ⟨count, b, rfl⟩ := exists_ofWord16_append (b := b) (by omega)
  rw [bind_of_ok (word16_append ..), bind_of_ok (word16_append ..), ← List.append_assoc, decode_words]
  exact bind_of_found (scopeStepwise_eq rid b) fun scope rest _ =>
    bind_of_found (FieldSpecifier.manyStepwise_eq count.toNat rest) fun fields rest _ => rfl

end TemplateRecord

end Ipfix

/-- **No decoder meets a hazard.** Whatever the bytes and the registry are, no step reads or splits past
the end, divides by zero, makes a length smaller than zero, asks for a record where there is not all of
one, or goes round a loop without having taken four bytes; and what the steps come to is what the decoder
finds. -/
theorem decoders_meet_no_hazard (r : Netflow.Registry) (b : Bytes) :
    alone Netflow.isNetflowStepwise b = .ok (Netflow.isNetflow b) ∧
      Netflow.Packet.parseStepwise r b = .ok (Netflow.Packet.parse r b) ∧
      Ipfix.Header.decodeStepwise b = .ok (Ipfix.Header.decode b) ∧
      Ipfix.TemplateRecord.decodeStepwise b = .ok (Ipfix.TemplateRecord.decode b) :=
  ⟨Netflow.alone_isNetflowStepwise b, Netflow.Packet.parseStepwise_eq r b,
    Ipfix.Header.decodeStepwise_eq b, Ipfix.TemplateRecord.decodeStepwise_eq b⟩

/-- The same reads without the length check in front of them do meet one. -/
example : Ipfix.Header.readStepwise [0, 10, 0] = .error .readPastEnd := by rfl

end FlowTraffic
