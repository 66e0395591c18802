import FlowTraffic.Proofs.Netflow.Reading
import FlowTraffic.Proofs.Stepwise.Steps

/-!
# Reading packets step by step

The packet parser in one pass over the bytes, with a hazard behind every step that could go wrong. For any
bytes and any registry it finds what the parser finds: each read has a length check before it, a record is
only read where all its bytes are, and every flow set and every template takes at least four bytes.
-/

namespace FlowTraffic.Netflow

open Bytes Steps

/-! ## Version and header -/

def isNetflowStepwise : Steps Shortage Bool := do
  demand .version 2
  return (← word16) == Netflow.version

theorem alone_isNetflowStepwise (b : Bytes) : alone isNetflowStepwise b = .ok (isNetflow b) := by
  match b with
  | [] | [_] => rfl
  | _ :: _ :: _ => rfl

namespace Header

def readStepwise {ε : Type} : Steps ε Header := do
  return {
    version := ← word16, flowCount := ← word16
    sysUptime := ← word32, unixSecs := ← word32
    sequence := ← word32, sourceId := ← word32 }

theorem reads {ε : Type} : Reads size (readStepwise : Steps ε Header) decode :=
  Reads.word16.bind fun _ => Reads.word16.bind fun _ => Reads.word32.bind fun _ =>
    Reads.word32.bind fun _ => Reads.word32.bind fun _ => Reads.word32.map _

def decodeStepwise : Steps DecodeError Header := do
  ensure .short .header size
  readStepwise

end Header

/-! ## Records -/

namespace Flow

variable {ε : Type}

def addrStepwise : Steps ε Ipv4 := do return ⟨← word32⟩

theorem reads_addr : Reads 4 (addrStepwise : Steps ε Ipv4) decodeAddr := Reads.word32.map _

/-- The fields of a record, one number after the other. -/
def fieldsStepwise : Schema → Steps ε Flow
  | .https => do
    return .https {
      inBytes := ← word32, outBytes := ← word32, inPackets := ← word32, outPackets := ← word32
      srcAddr := ← addrStepwise, dstAddr := ← addrStepwise
      srcPort := ← word16, dstPort := ← word16, protocol := ← word8, tcpFlags := ← word8
      firstSwitched := ← word32, lastSwitched := ← word32
      engineType := ← word8, engineId := ← word8 }
  | .generic => do
    return .generic {
      inBytes := ← word32, inPackets := ← word32
      protocol := ← word8, srcTos := ← word8, tcpFlags := ← word8
      srcPort := ← word16, srcAddr := ← addrStepwise, srcMask := ← word8
      inputInterface := ← word16, dstPort := ← word16
      dstAddr := ← addrStepwise, dstMask := ← word8, outputInterface := ← word16
      firstSwitched := ← word32, lastSwitched := ← word32 }

theorem reads_fields (s : Schema) :
    Reads s.recordSize (fieldsStepwise s : Steps ε Flow) (decode s) := by
  cases s with
  | https =>
    rw [Schema.recordSize_https]
    exact Reads.word32.bind fun _ => Reads.word32.bind fun _ => Reads.word32.bind fun _ =>
      Reads.word32.bind fun _ => reads_addr.bind fun _ => reads_addr.bind fun _ =>
      Reads.word16.bind fun _ => Reads.word16.bind fun _ => Reads.word8.bind fun _ =>
      Reads.word8.bind fun _ => Reads.word32.bind fun _ => Reads.word32.bind fun _ =>
      Reads.word8.bind fun _ => Reads.word8.map _
  | generic =>
    rw [Schema.recordSize_generic]
    exact Reads.word32.bind fun _ => Reads.word32.bind fun _ => Reads.word8.bind fun _ =>
      Reads.word8.bind fun _ => Reads.word8.bind fun _ => Reads.word16.bind fun _ =>
      reads_addr.bind fun _ => Reads.word8.bind fun _ => Reads.word16.bind fun _ =>
      Reads.word16.bind fun _ => reads_addr.bind fun _ => Reads.word8.bind fun _ =>
      Reads.word16.bind fun _ => Reads.word32.bind fun _ => Reads.word32.map _

/-- One record. It is a hazard to ask for one where its bytes are not all there. -/
def decodeStepwise (s : Schema) : Steps ε Flow := do
  if (← remaining) < s.recordSize then hazard .recordPastEnd else fieldsStepwise s

theorem reads (s : Schema) : Reads s.recordSize (decodeStepwise s : Steps ε Flow) (decode s) where
  same b enough := by
    unfold decodeStepwise
    rw [bind_of_ok rfl, if_neg (Nat.not_lt.2 enough)]
    exact (reads_fields s).same b enough
  taken := (reads_fields (ε := ε) s).taken

def manyStepwise (s : Schema) : Nat → Steps ε (List Flow)
  | 0 => return []
  | n + 1 => do
    let r ← decodeStepwise s
    return r :: (← manyStepwise s n)

theorem reads_many (s : Schema) (n : Nat) :
    Reads (n * s.recordSize) (manyStepwise s n : Steps ε (List Flow)) (decodeMany s n) := by
  induction n with
  | zero =>
    rw [Nat.zero_mul]
    exact .pure []
  | succ n ih =>
    rw [Nat.succ_mul]
    exact (reads s).bind fun r => ih.map (r :: ·)

end Flow

namespace DataSet

variable {ε : Type}

/-- As many records as fit in the bytes, and how many bytes are left. -/
def decodeStepwise (id length : UInt16) (s : Schema) : Steps ε DataSet := do
  let count ← divide (← remaining) s.recordSize
  let records ← Flow.manyStepwise s count
  return ⟨id, length, records, UInt8.ofNat (← remaining)⟩

theorem alone_decodeStepwise (id length : UInt16) (s : Schema) (body : Bytes) :
    alone (decodeStepwise id length s : Steps ε DataSet) body =
      .ok (.ok (decode id length s body)) := by
  have records := Flow.reads_many (ε := ε) s (body.length / s.recordSize)
  have enough : body.length / s.recordSize * s.recordSize ≤ body.length := Nat.div_mul_le_self ..
  have left := records.taken body enough
  have split := Nat.mod_add_div' body.length s.recordSize
  have padding : (Flow.decodeMany s (body.length / s.recordSize) body).2.length =
      body.length % s.recordSize := by omega
  have step : (decodeStepwise id length s : Steps ε DataSet) body =
      .ok (.ok (decode id length s body, (Flow.decodeMany s (body.length / s.recordSize) body).2)) := by
    unfold decodeStepwise
    rw [bind_of_ok rfl, bind_of_ok (divide_of_pos s.recordSize_pos ..),
      bind_of_ok (records.same body enough), bind_of_ok rfl, pure_apply, padding]
    rfl
  exact alone_of_ok step

end DataSet

/-! ## Templates -/

namespace Field

variable {ε : Type}

def decodeStepwise : Steps ε Field := do return { code := ← word16, length := ← word16 }

theorem reads : Reads 4 (decodeStepwise : Steps ε Field) decode :=
  Reads.word16.bind fun _ => Reads.word16.map _

def manyStepwise : Nat → Steps ε (List Field)
  | 0 => return []
  | n + 1 => do
    let f ← decodeStepwise
    return f :: (← manyStepwise n)

theorem reads_many (n : Nat) : Reads (4 * n) (manyStepwise n : Steps ε (List Field)) (decodeMany n) := by
  induction n with
  | zero => exact .pure []
  | succ n ih => exact reads.bind fun f => ih.map (f :: ·)

end Field

namespace Template

def decodeStepwise : Steps DecodeError Template := do
  ensure .short .templateHeader 4
  let id ← word16
  let count ← word16
  ensure .short .templateFields (4 * count.toNat)
  return ⟨id, ← Field.manyStepwise count.toNat⟩

/-- Templates while there is room for the header of one. -/
def allStepwise (b : Bytes) : Except Hazard (Except DecodeError (List Template)) :=
  if b.length < 4 then .ok (.ok [])
  else
    match _h : taking 4 decodeStepwise b with
    | .error hazard => .error hazard
    | .ok (.error e) => .ok (.error e)
    | .ok (.ok (t, rest)) => (allStepwise rest).map (·.map (t :: ·))
termination_by b.length
decreasing_by
  have := length_le_of_taking _h
  omega

theorem decodeStepwise_words (id count : UInt16) (rest : Bytes) :
    decodeStepwise (ofWord16 id ++ (ofWord16 count ++ rest)) =
      .ok (if rest.length < 4 * count.toNat then
          .error (.short ⟨.templateFields, 4 * count.toNat, rest.length⟩)
        else .ok (⟨id, (Field.decodeMany count.toNat rest).1⟩, (Field.decodeMany count.toNat rest).2)) := by
  unfold decodeStepwise
  rw [bind_of_ok (ensure_of_le _ _ (by simp; omega)), bind_of_ok (word16_append ..),
    bind_of_ok (word16_append ..)]
  exact ((Field.reads_many count.toNat).map _).ensured DecodeError.short .templateFields rest

theorem decodeStepwise_append {t : Template} (whole : t.Whole) (rest : Bytes) :
    decodeStepwise (t.encode ++ rest) = .ok (.ok (t, rest)) := by
  have enough : ¬ (t.fields.flatMap Field.encode ++ rest).length < 4 * t.fieldCount.toNat := by
    rw [whole.toNat_fieldCount, List.length_append, Field.length_flatMap_encode]
    omega
  rw [encode, List.append_assoc, List.append_assoc, decodeStepwise_words, if_neg enough,
    whole.toNat_fieldCount, Field.decodeMany_append]

theorem allStepwise_of_short {b : Bytes} (short : b.length < 4) : allStepwise b = .ok (.ok []) := by
  rw [allStepwise, if_pos short]

theorem allStepwise_of_torn {count : UInt16} {tail : Bytes} (id : UInt16)
    (torn : tail.length < 4 * count.toNat) :
    allStepwise (ofWord16 id ++ ofWord16 count ++ tail) =
      .ok (.error (.short ⟨.templateFields, 4 * count.toNat, tail.length⟩)) := by
  have step := decodeStepwise_words id count tail
  rw [if_pos torn] at step
  rw [allStepwise, if_neg (by simp; omega), List.append_assoc, taking_of_refused step]

theorem allStepwise_append {t : Template} (whole : t.Whole) (rest : Bytes) :
    allStepwise (t.encode ++ rest) = (allStepwise rest).map (·.map (t :: ·)) := by
  have four : rest.length + 4 ≤ (t.encode ++ rest).length := by
    rw [List.length_append, length_encode, size]
    omega
  rw [allStepwise, if_neg (by omega), taking_of_ok (decodeStepwise_append whole rest) four]

theorem allStepwise_eq (b : Bytes) : allStepwise b = .ok (decodeAll b) := by
  obtain ⟨ts, rest, rfl, whole, last⟩ := exists_row b
  rw [decodeAll_row whole]
  induction ts with
  | nil =>
    rw [List.flatMap_nil, List.nil_append]
    rcases last with short | ⟨id, count, tail, rfl, torn⟩
    · rw [allStepwise_of_short short, decodeAll_of_short short]
      rfl
    · rw [allStepwise_of_torn id torn, decodeAll_of_torn id torn]
      rfl
  | cons t ts ih =>
    obtain ⟨ht, hts⟩ := List.forall_mem_cons.1 whole
    rw [List.flatMap_cons, List.append_assoc, allStepwise_append ht, ih hts]
    cases decodeAll rest <;> rfl

end Template

/-! ## Flow sets -/

namespace FlowSet

/-- The templates of a body, if none of them has a reserved ID. -/
def templatesStepwise (r : Registry) (length : UInt16) (body : Bytes) :
    Steps DecodeError (FlowSet × Registry) := do
  let ts ← within body Template.allStepwise
  match ts.find? (·.id < minDataId) with
  | some t => throw (.reservedFlowSet t.id)
  | none => return (.templates ⟨length, ts⟩, r.registerAll ts)

/-- The records of a body, laid out as the registry says. -/
def recordsStepwise (r : Registry) (id length : UInt16) (body : Bytes) :
    Steps DecodeError (FlowSet × Registry) := do
  let s ← result (r.schema id)
  let set ← within body (alone (DataSet.decodeStepwise id length s))
  return (.data set, r)

def frameStepwise : Steps DecodeError Frame := do
  ensure .short .flowSetHeader setHeaderSize
  let id ← word16
  let length ← word16
  if length.toNat < setHeaderSize then throw (.flowSetLength id length)
  else
    let size ← subtract length.toNat setHeaderSize
    let left ← remaining
    if left < size then throw (.flowSetLength id length)
    else
      let body ← splitAt size
      return ⟨id, length, body⟩

def decodeStepwise (r : Registry) : Steps DecodeError (FlowSet × Registry) := do
  let f ← frameStepwise
  if f.id = 0 then templatesStepwise r f.length f.body
  else if f.id < minDataId then throw (.reservedFlowSet f.id)
  else recordsStepwise r f.id f.length f.body

/-- Flow sets to the end of the bytes, each read with what those before it taught. -/
def allStepwise (r : Registry) (b : Bytes) : Except Hazard Reading :=
  if b = [] then .ok ⟨[], r, none⟩
  else
    match _h : taking setHeaderSize (decodeStepwise r) b with
    | .error hazard => .error hazard
    | .ok (.error e) => .ok ⟨[], r, some e⟩
    | .ok (.ok ((set, r), rest)) => (allStepwise r rest).map (·.after [set])
termination_by b.length
decreasing_by
  have := length_le_of_taking _h
  simp only [setHeaderSize] at this
  omega

theorem templatesStepwise_apply (r : Registry) {f : Frame} (zero : f.id = 0) (rest : Bytes) :
    templatesStepwise r f.length f.body rest = .ok ((read r f).map (·, rest)) := by
  have step := within_of_ok (Template.allStepwise_eq f.body) rest
  unfold templatesStepwise read
  rw [if_pos zero]
  cases hts : Template.decodeAll f.body with
  | error e =>
    rw [hts] at step
    rw [bind_of_refused step]
    rfl
  | ok ts =>
    rw [hts] at step
    rw [bind_of_ok step]
    show _ = Except.ok (Except.map _ (match ts.find? (·.id < minDataId) with
      | some t => .error (DecodeError.reservedFlowSet t.id)
      | none => .ok (FlowSet.templates ⟨f.length, ts⟩, r.registerAll ts)))
    cases ts.find? (·.id < minDataId) <;> rfl

theorem recordsStepwise_apply (r : Registry) {f : Frame} (data : minDataId ≤ f.id) (rest : Bytes) :
    recordsStepwise r f.id f.length f.body rest = .ok ((read r f).map (·, rest)) := by
  have step := result_apply (r.schema f.id) rest
  unfold recordsStepwise
  rw [read_of_data data]
  cases hs : r.schema f.id with
  | error e =>
    rw [hs] at step
    rw [bind_of_refused step]
    rfl
  | ok s =>
    rw [hs] at step
    have hset := within_of_ok (DataSet.alone_decodeStepwise (ε := DecodeError) f.id f.length s f.body) rest
    rw [bind_of_ok step, bind_of_ok hset]
    rfl

theorem frameStepwise_words (id length : UInt16) (rest : Bytes) :
    frameStepwise (ofWord16 id ++ (ofWord16 length ++ rest)) =
      .ok (if length.toNat < setHeaderSize ∨ setHeaderSize + rest.length < length.toNat then
          .error (.flowSetLength id length)
        else
          .ok (⟨id, length, rest.take (length.toNat - setHeaderSize)⟩,
            rest.drop (length.toNat - setHeaderSize))) := by
  have header : setHeaderSize ≤ (ofWord16 id ++ (ofWord16 length ++ rest)).length := by
    simp only [List.length_append, length_ofWord16, setHeaderSize]
    omega
  unfold frameStepwise
  rw [bind_of_ok (ensure_of_le _ _ header), bind_of_ok (word16_append ..),
    bind_of_ok (word16_append ..)]
  by_cases covers : length.toNat < setHeaderSize
  · rw [if_pos covers, if_pos (.inl covers), throw_apply]
  rw [if_neg covers, bind_of_ok (subtract_of_le (Nat.not_lt.1 covers) _), bind_of_ok rfl]
  by_cases past : rest.length < length.toNat - setHeaderSize
  · rw [if_pos past, if_pos (.inr (by omega)), throw_apply]
  · rw [if_neg past, if_neg (by omega), bind_of_ok (splitAt_of_le (Nat.not_lt.1 past)), pure_apply]

theorem frameStepwise_append {f : Frame} (sized : f.Sized) (rest : Bytes) :
    frameStepwise (f.encode ++ rest) = .ok (.ok (f, rest)) := by
  have hsize : f.body.length = f.length.toNat - setHeaderSize := by rw [sized]; omega
  have fits : ¬ (f.length.toNat < setHeaderSize ∨
      setHeaderSize + (f.body ++ rest).length < f.length.toNat) := by
    rw [sized, List.length_append]
    omega
  rw [Frame.encode, List.append_assoc, List.append_assoc, frameStepwise_words, if_neg fits,
    List.take_left' hsize, List.drop_left' hsize]

theorem frameStepwise_of_torn {b : Bytes} {e : DecodeError} (torn : Torn b e) :
    frameStepwise b = .ok (.error e) := by
  cases torn with
  | header nonempty short =>
    unfold frameStepwise
    rw [bind_of_refused (ensure_of_lt _ _ short)]
  | length bad => rw [List.append_assoc, frameStepwise_words, if_pos bad]

theorem decodeStepwise_append (r : Registry) {f : Frame} (sized : f.Sized) (rest : Bytes) :
    decodeStepwise r (f.encode ++ rest) = .ok ((read r f).map (·, rest)) := by
  unfold decodeStepwise
  rw [bind_of_ok (frameStepwise_append sized rest)]
  by_cases zero : f.id = 0
  · rw [if_pos zero]
    exact templatesStepwise_apply r zero rest
  rw [if_neg zero]
  by_cases reserved : f.id < minDataId
  · unfold read
    rw [if_pos reserved, throw_apply, if_neg zero, if_pos reserved]
    rfl
  · rw [if_neg reserved]
    exact recordsStepwise_apply r (UInt16.not_lt.1 reserved) rest

theorem ne_nil_of_torn {b : Bytes} {e : DecodeError} (torn : Torn b e) : b ≠ [] := by
  cases torn with
  | header nonempty short => exact nonempty
  | length bad =>
    rw [← List.length_pos_iff, List.length_append, List.length_append, length_ofWord16]
    omega

theorem allStepwise_eq (r : Registry) (b : Bytes) : allStepwise r b = .ok (readBody r b) := by
  -- On the bytes that are left: every flow set takes at least the four of its header.
  induction hn : b.length using Nat.strongRecOn generalizing b r with
  | ind n ih =>
    rw [allStepwise]
    rcases front_cases b with rfl | ⟨e, torn⟩ | ⟨f, rest, sized, rfl⟩
    · rw [if_pos rfl, readBody_nil]
    · have step : decodeStepwise r b = .ok (.error e) := bind_of_refused (frameStepwise_of_torn torn)
      rw [if_neg (ne_nil_of_torn torn), taking_of_refused step, readBody_of_torn r torn]
    have step := decodeStepwise_append r sized rest
    have four : rest.length + setHeaderSize ≤ (f.encode ++ rest).length := by
      rw [List.length_append, Frame.length_encode]
      omega
    have nonempty : f.encode ++ rest ≠ [] := by
      intro h
      rw [h] at four
      simp [setHeaderSize] at four
    rw [if_neg nonempty]
    cases hread : read r f with
    | error e =>
      rw [hread] at step
      rw [taking_of_refused step, readBody_of_read_error sized hread]
    | ok found =>
      obtain ⟨set, r'⟩ := found
      rw [hread] at step
      rw [taking_of_ok step four, readBody_of_read sized hread]
      simp only [setHeaderSize] at four
      show (allStepwise r' rest).map _ = _
      rw [ih rest.length (by omega) r' rest rfl]
      rfl

end FlowSet

/-! ## Packets -/

namespace Packet

/-- The packet in the bytes, and the registry with all templates that were read before the end or the
first fault. -/
def parseStepwise (r : Registry) (b : Bytes) :
    Except Hazard (Except DecodeError Packet × Registry) :=
  match Header.decodeStepwise b with
  | .error hazard => .error hazard
  | .ok (.error e) => .ok (.error e, r)
  | .ok (.ok (h, body)) =>
    if h.version ≠ Netflow.version then .ok (.error (.version h.version), r)
    else
      (FlowSet.allStepwise r body).map fun reading =>
        match reading.fault with
        | some e => (.error e, reading.registry)
        | none => (.ok (ofSets h reading.sets), reading.registry)

theorem parseStepwise_eq (r : Registry) (b : Bytes) : parseStepwise r b = .ok (parse r b) := by
  have header := Header.reads.ensured DecodeError.short .header b
  unfold parseStepwise parse Header.decodeStepwise
  rw [header]
  by_cases short : b.length < Header.size
  · rw [if_pos short, if_pos short]
  rw [if_neg short, if_neg short]
  obtain ⟨⟨h, body⟩, found⟩ : ∃ hb, Header.decode b = hb := ⟨_, rfl⟩
  simp only [StateT.run, found, FlowSet.allStepwise_eq, FlowSet.readBody, Except.map]
  split
  · rfl
  · rfl

end Packet

end FlowTraffic.Netflow
