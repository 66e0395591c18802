import FlowTraffic.Netflow.Exporter
import FlowTraffic.Proofs.Bytes.Sinks
import FlowTraffic.Proofs.Netflow.Drawing
import FlowTraffic.Proofs.Netflow.RoundTrip

/-!
# What an exporter builds

Records are drawn for the profile of the exporter, and packed: either they fit a set, and the packet takes
the next number, or there is no packet and the exporter is left as it was (`Exporter.Packs`). A profile
that passed its check asks for no more records than fit, so a write is over before it has a packet, or
with all of the packet taken, or with a part of it (`Exporter.Writes`).
-/

namespace FlowTraffic.Netflow

/-! ## Records that are drawn -/

/-- The record has the schema, and addresses of the ranges. -/
structure Flow.DrawnFrom (s : Schema) (src dst : Cidr) (x : Flow) : Prop where
  schema : x.schema = s
  srcAddr : src.contains x.srcAddr = true
  dstAddr : dst.contains x.dstAddr = true

theorem Flow.InRange.drawnFrom {s : Schema} {src dst : Cidr} {x : Flow} (h : x.InRange src dst s) :
    x.DrawnFrom s src dst := by
  cases h with
  | https fields => exact ⟨rfl, fields.srcAddr, fields.dstAddr⟩
  | generic fields => exact ⟨rfl, fields.srcAddr, fields.dstAddr⟩

theorem Schema.drawnFrom_generate (s : Schema) (src dst : Cidr) (uptime : UInt32) :
    (s.generate src dst uptime).Always (·.DrawnFrom s src dst) := by
  intro words
  cases s with
  | https => exact (generate_https src dst uptime words).drawnFrom
  | generic => exact (generate_generic src dst uptime words).drawnFrom

/-! ## Packets of a schema -/

/-- The packet is one of the schema: its template or nothing, and well-made sets of its records. -/
structure Packet.IsOf (s : Schema) (p : Packet) : Prop where
  version : p.header.version = Netflow.version
  templates : p.templateSets = [] ∨ p.templateSets = [.ofTemplates [s.template]]
  data : ∀ d ∈ p.dataSets, d.Built ∧ d.id = s.templateId ∧ ∀ x ∈ d.records, x.schema = s

theorem Schema.minDataId_le_templateId (s : Schema) : minDataId ≤ s.templateId := by
  cases s <;> decide

namespace Packet

/-- The packet has the template of the schema and nothing else. -/
structure Announces (s : Schema) (p : Packet) : Prop where
  isOf : p.IsOf s
  flowCount : p.header.flowCount = 1
  templateSets : p.templateSets = [.ofTemplates [s.template]]
  dataSets : p.dataSets = []

/-- The packet has one set of so many records of the schema and nothing else. -/
structure Carries (s : Schema) (n : Nat) (p : Packet) : Prop where
  isOf : p.IsOf s
  flowCount : p.header.flowCount.toNat = n
  templateSets : p.templateSets = []
  dataSets : ∃ set, p.dataSets = [set] ∧ set.records.length = n

theorem Announces.mem_templates {s : Schema} {p : Packet} (h : p.Announces s) :
    s.template ∈ p.templates := by
  unfold templates
  rw [h.templateSets]
  exact List.mem_singleton.2 rfl

def records (p : Packet) : List Flow := p.dataSets.flatMap (·.records)

theorem Carries.templates_eq_nil {s : Schema} {n : Nat} {p : Packet} (h : p.Carries s n) :
    p.templates = [] := by
  unfold templates
  rw [h.templateSets]
  rfl

theorem Carries.length_records {s : Schema} {n : Nat} {p : Packet} (h : p.Carries s n) :
    p.records.length = n := by
  obtain ⟨set, hset, length⟩ := h.dataSets
  unfold records
  rw [hset, List.flatMap_singleton, length]

end Packet

/-! ## The room that records take -/

namespace DataSet

theorem unpaddedSize_of_schema {s : Schema} {records : List Flow} (h : ∀ x ∈ records, x.schema = s) :
    unpaddedSize records = setHeaderSize + records.length * s.recordSize := by
  unfold unpaddedSize
  congr 1
  induction records with
  | nil => simp
  | cons x records ih =>
    obtain ⟨hx, hrest⟩ := List.forall_mem_cons.1 h
    rw [List.map_cons, total_cons, ih hrest, Flow.size, hx, List.length_cons, Nat.succ_mul,
      Nat.add_comm]

theorem dataPacketSize_eq {s : Schema} {records : List Flow} (h : ∀ x ∈ records, x.schema = s) :
    dataPacketSize s records.length = Header.size + paddedSize records := by
  unfold dataPacketSize paddedSize
  rw [unpaddedSize_of_schema h]
  exact Nat.add_assoc ..

theorem exists_ofRecords_iff {s : Schema} {records : List Flow} (h : ∀ x ∈ records, x.schema = s)
    (id : UInt16) : (∃ set, ofRecords id records = .ok set) ↔
      dataPacketSize s records.length ≤ Header.size + maxSize := by
  rw [dataPacketSize_eq h, Nat.add_le_add_iff_left, ofRecords]
  split
  · rename_i fits
    exact iff_of_true ⟨_, rfl⟩ fits
  · rename_i large
    exact iff_of_false (by rintro ⟨set, hset⟩; cases hset) large

end DataSet

theorem Profile.check_eq_ok_iff {p : Profile} :
    p.check = .ok () ↔
      p.flowsPerPacket ≠ 0 ∧ dataPacketSize p.schema p.flowsPerPacket.toNat ≤ maxDatagram := by
  unfold check
  by_cases none : p.flowsPerPacket = 0
  · simp [none]
  · have least : max p.flowsPerPacket.toNat 1 = p.flowsPerPacket.toNat := by
      apply Nat.max_eq_left
      apply Nat.one_le_iff_ne_zero.2
      intro zero
      exact none (UInt16.toNat_inj.1 zero)
    simp [none, least]

theorem Profile.of_check {p : Profile} (h : p.check = .ok ()) :
    p.flowsPerPacket ≠ 0 ∧ dataPacketSize p.schema p.flowsPerPacket.toNat ≤ maxDatagram :=
  check_eq_ok_iff.1 h

theorem Schema.four_le_recordSize (s : Schema) : 4 ≤ s.recordSize := by cases s <;> decide

/-- The size of a packet of so many records with the most padding that there may be. -/
def amplePacketSize (s : Schema) (count : Nat) : Nat :=
  Header.size + setHeaderSize + count * s.recordSize + 3

theorem dataPacketSize_le_ample (s : Schema) (n : Nat) : dataPacketSize s n ≤ amplePacketSize s n := by
  have padding := paddingFor_lt (setHeaderSize + n * s.recordSize)
  simp only [dataPacketSize, amplePacketSize]
  omega

theorem ample_lt_dataPacketSize (s : Schema) {m n : Nat} (h : m < n) :
    amplePacketSize s m < dataPacketSize s n := by
  have more : (m + 1) * s.recordSize ≤ n * s.recordSize := Nat.mul_le_mul_right _ h
  -- One record more takes more room than any padding.
  have wide := s.four_le_recordSize
  rw [Nat.succ_mul] at more
  simp only [dataPacketSize, amplePacketSize]
  omega

theorem dataPacketSize_mono (s : Schema) {m n : Nat} (h : m ≤ n) :
    dataPacketSize s m ≤ dataPacketSize s n := by
  rcases Nat.eq_or_lt_of_le h with rfl | h
  · exact Nat.le_refl _
  · exact Nat.le_of_lt (Nat.lt_of_le_of_lt (dataPacketSize_le_ample s m) (ample_lt_dataPacketSize s h))

namespace Exporter

theorem of_new {profile : Profile} {sourceId : UInt32} {e : Exporter}
    (h : new profile sourceId = .ok e) :
    e.profile = profile ∧ e.sourceId = sourceId ∧ e.sequence = 0 ∧ e.written = none := by
  unfold new at h
  split at h
  · cases h
    exact ⟨rfl, rfl, rfl, rfl⟩
  · cases h

theorem exists_new {profile : Profile} (fits : profile.check = .ok ()) (sourceId : UInt32) :
    ∃ e, new profile sourceId = .ok e := by
  unfold new
  split
  · exact ⟨_, rfl⟩
  · rename_i refused
    cases fits.symm.trans refused

variable (e : Exporter)

theorem flowsPerPacket_pos : 0 < e.profile.flowsPerPacket.toNat := by
  obtain ⟨asks, -⟩ := Profile.of_check e.checked
  apply Nat.pos_of_ne_zero
  intro zero
  exact asks (UInt16.toNat_inj.1 zero)

theorem writeCount_le (maxBytes : Nat) : e.writeCount maxBytes ≤ e.profile.flowsPerPacket.toNat :=
  Nat.min_le_left ..

theorem toNat_writeCount (maxBytes : Nat) :
    (UInt16.ofNat (e.writeCount maxBytes)).toNat = e.writeCount maxBytes :=
  UInt16.toNat_ofNat_of_lt'
    (Nat.lt_of_le_of_lt (e.writeCount_le maxBytes) e.profile.flowsPerPacket.toNat_lt)

theorem writeCount_maxDatagram : e.writeCount maxDatagram = e.profile.flowsPerPacket.toNat := by
  obtain ⟨-, fits⟩ := Profile.of_check e.checked
  refine Nat.min_eq_left ((Nat.le_div_iff_mul_le e.profile.schema.recordSize_pos).2 ?_)
  have aligned := add_paddingFor_mod
    (setHeaderSize + e.profile.flowsPerPacket.toNat * e.profile.schema.recordSize)
  simp only [dataPacketSize, Header.size, setHeaderSize, maxDatagram] at fits aligned ⊢
  omega

/-! ## Packets that are built -/

/-- The packet has the exporter's next number, and the exporter goes on from there. -/
structure Makes (e : Exporter) (p : Packet) (e' : Exporter) : Prop where
  profile : e'.profile = e.profile
  sourceId : e'.sourceId = e.sourceId
  sequence : e'.sequence = nextSequence e.sequence
  number : p.header.sequence = nextSequence e.sequence
  source : p.header.sourceId = e.sourceId

/-- What comes of so many records, drawn for the profile and packed with some template sets: the next
packet, or nothing if the records do not fit a set. -/
inductive Packs (e : Exporter) (sentAt : Moment) (flowCount : UInt16) (templates : List TemplateSet)
    (count : Nat) : Except TooLarge Packet × Exporter → Prop
  | fits {records : List Flow} {set : DataSet}
      (drawn : ∀ x ∈ records, x.DrawnFrom e.profile.schema e.profile.src e.profile.dst)
      (length : records.length = count)
      (made : DataSet.ofRecords e.profile.schema.templateId records = .ok set) :
      Packs e sentAt flowCount templates count
        (.ok ⟨(e.stamp sentAt flowCount).1, templates, [set]⟩, (e.stamp sentAt flowCount).2)
  | tooLarge {records : List Flow} {err : TooLarge}
      (drawn : ∀ x ∈ records, x.DrawnFrom e.profile.schema e.profile.src e.profile.dst)
      (length : records.length = count)
      (made : DataSet.ofRecords e.profile.schema.templateId records = .error err) :
      Packs e sentAt flowCount templates count (.error err, e)

theorem dataSet_eq (now : Moment) (count : UInt16) (words : Words) :
    ∃ records : List Flow, records.length = count.toNat ∧
      (∀ x ∈ records, x.DrawnFrom e.profile.schema e.profile.src e.profile.dst) ∧
      (e.dataSet now count words).1 = DataSet.ofRecords e.profile.schema.templateId records := by
  have drawn := (e.profile.schema.drawnFrom_generate e.profile.src e.profile.dst now.uptime).many
    count.toNat words
  exact ⟨_, Draw.length_many _ _ words, drawn, rfl⟩

theorem data_packs (drawnAt sentAt : Moment) (count : UInt16) (words : Words) :
    e.Packs sentAt count [] count.toNat (e.data drawnAt sentAt count words).1 := by
  obtain ⟨records, length, drawn, hset⟩ := e.dataSet_eq drawnAt count words
  unfold data
  rw [Draw.bind_apply, hset]
  cases made : DataSet.ofRecords e.profile.schema.templateId records with
  | ok set => exact .fits drawn length made
  | error err => exact .tooLarge drawn length made

theorem combined_packs {count : UInt16} (h : count ≠ 0xFFFF) (drawnAt sentAt : Moment) (words : Words) :
    e.Packs sentAt (count + 1) [e.templateSet] count.toNat
      (e.combined drawnAt sentAt count words).1 := by
  obtain ⟨records, length, drawn, hset⟩ := e.dataSet_eq drawnAt count words
  unfold combined
  simp only [if_neg h, Draw.bind_apply, hset]
  cases made : DataSet.ofRecords e.profile.schema.templateId records with
  | ok set => exact .fits drawn length made
  | error err => exact .tooLarge drawn length made

theorem combined_full (drawnAt sentAt : Moment) (words : Words) :
    (e.combined drawnAt sentAt 0xFFFF words).1 = (.error ⟨65536, 65535⟩, e) := rfl

section

variable {e} {p : Packet} {e' : Exporter} {sentAt : Moment} {flowCount : UInt16}
  {templates : List TemplateSet} {count : Nat}

theorem Packs.makes (h : e.Packs sentAt flowCount templates count (.ok p, e')) : e.Makes p e' := by
  cases h
  exact ⟨rfl, rfl, rfl, rfl, rfl⟩

theorem Packs.isOf (h : e.Packs sentAt flowCount templates count (.ok p, e'))
    (ht : templates = [] ∨ templates = [e.templateSet]) : p.IsOf e.profile.schema := by
  cases h with
  | fits drawn length made =>
    obtain ⟨hid, rfl, -, -⟩ := DataSet.of_ofRecords_eq_ok made
    refine ⟨rfl, ht, List.forall_mem_singleton.2 ⟨⟨?_, by rw [hid, made]⟩, hid, ?_⟩⟩
    · rw [hid]
      exact e.profile.schema.minDataId_le_templateId
    · exact fun x hx => (drawn x hx).schema

theorem Packs.room (h : e.Packs sentAt flowCount templates count (.ok p, e')) :
    dataPacketSize e.profile.schema count ≤ Header.size + DataSet.maxSize := by
  cases h with
  | @fits records set drawn length made =>
    rw [← length]
    exact (DataSet.exists_ofRecords_iff (fun x hx => (drawn x hx).schema) _).1 ⟨set, made⟩

theorem Packs.large {err : TooLarge} (h : e.Packs sentAt flowCount templates count (.error err, e')) :
    Header.size + DataSet.maxSize < dataPacketSize e.profile.schema count := by
  cases h with
  | @tooLarge records err drawn length made =>
    rw [← length]
    refine Nat.not_le.1 fun room => ?_
    obtain ⟨set, hset⟩ := (DataSet.exists_ofRecords_iff (fun x hx => (drawn x hx).schema) _).2 room
    cases made.symm.trans hset

end

theorem makes_template (now : Moment) : e.Makes (e.template now).1 (e.template now).2 :=
  ⟨rfl, rfl, rfl, rfl, rfl⟩

theorem template_isOf (now : Moment) : (e.template now).1.IsOf e.profile.schema :=
  ⟨rfl, .inr rfl, fun _ h => by cases h⟩

theorem template_announces (now : Moment) : (e.template now).1.Announces e.profile.schema :=
  ⟨e.template_isOf now, rfl, rfl, rfl⟩

/-- The packet is the next one of the exporter and carries so many records, drawn for the profile. -/
structure Fills (e : Exporter) (count : Nat) (p : Packet) (e' : Exporter) : Prop where
  makes : e.Makes p e'
  carries : p.Carries e.profile.schema count
  drawn : ∀ x ∈ p.records, x.DrawnFrom e.profile.schema e.profile.src e.profile.dst
  written : e'.written = e.written

theorem data_fills_of_room {count : UInt16}
    (room : dataPacketSize e.profile.schema count.toNat ≤ Header.size + DataSet.maxSize)
    (drawnAt sentAt : Moment) (words : Words) :
    ∃ p e', (e.data drawnAt sentAt count words).1 = (.ok p, e') ∧ e.Fills count.toNat p e' := by
  have packs := e.data_packs drawnAt sentAt count words
  generalize (e.data drawnAt sentAt count words).1 = built at packs ⊢
  have whole := packs
  cases packs with
  | @fits records set drawn length made =>
    obtain ⟨-, same, -, -⟩ := DataSet.of_ofRecords_eq_ok made
    refine ⟨_, _, rfl, whole.makes, ⟨whole.isOf (.inl rfl), rfl, rfl, set, rfl, ?_⟩, ?_, rfl⟩
    · rw [same, length]
    · simpa [Packet.records, same] using drawn
  | tooLarge drawn length made => exact absurd room (Nat.not_le.2 whole.large)

theorem data_fills {count : UInt16} (h : count.toNat ≤ e.profile.flowsPerPacket.toNat)
    (drawnAt sentAt : Moment) (words : Words) :
    ∃ p e', (e.data drawnAt sentAt count words).1 = (.ok p, e') ∧ e.Fills count.toNat p e' := by
  obtain ⟨-, fits⟩ := Profile.of_check e.checked
  have within := Nat.le_trans (dataPacketSize_mono e.profile.schema h) fits
  exact e.data_fills_of_room (Nat.le_trans within (by decide)) drawnAt sentAt words

/-! ## Packets that are written -/

/-- The packet that a write builds, where there is room for a record. -/
def packet? (drawnAt sentAt : Moment) (maxBytes : Nat) (words : Words) : Option Packet :=
  if e.writeCount maxBytes = 0 then none
  else (e.data drawnAt sentAt (UInt16.ofNat (e.writeCount maxBytes)) words).1.1.toOption

/-- What a write comes to: there is no room for a record, or a packet is built, and the sink takes all of
it or not. -/
inductive Writes (e : Exporter) (maxBytes : Nat) (sink : Sink) :
    Option Packet → Except WriteError Unit × Exporter × Sink → Prop
  | noRoom (full : e.writeCount maxBytes = 0) :
      Writes e maxBytes sink none
        (.error (.tooLarge ⟨dataPacketSize e.profile.schema 1, maxBytes⟩), { e with written := none },
          sink)
  | done {p : Packet} {e' : Exporter} {sink' : Sink} (room : 0 < e.writeCount maxBytes)
      (fills : e.Fills (e.writeCount maxBytes) p e') (taken : sink.write p.encode = (.ok (), sink')) :
      Writes e maxBytes sink (some p)
        (.ok (), { e' with written := some (e.writeCount maxBytes) }, sink')
  | cutShort {p : Packet} {e' : Exporter} {f : Fault} {sink' : Sink} (room : 0 < e.writeCount maxBytes)
      (fills : e.Fills (e.writeCount maxBytes) p e') (taken : sink.write p.encode = (.error f, sink')) :
      Writes e maxBytes sink (some p) (.error (.fault f), e', sink')

theorem write_writes (drawnAt sentAt : Moment) (maxBytes : Nat) (sink : Sink) (words : Words) :
    e.Writes maxBytes sink (e.packet? drawnAt sentAt maxBytes words)
      (e.write drawnAt sentAt maxBytes sink words).1 := by
  unfold packet? write
  by_cases full : e.writeCount maxBytes = 0
  · simp only [if_pos full]
    exact .noRoom full
  have count := e.toNat_writeCount maxBytes
  obtain ⟨p, e', hdata, fills⟩ :=
    e.data_fills (Nat.le_trans (Nat.le_of_eq count) (e.writeCount_le maxBytes)) drawnAt sentAt words
  rw [count] at fills
  simp only [if_neg full, Draw.bind_apply, hdata]
  have pieces : sink.writeAll p.sections = sink.write p.encode := Sink.writeAll_eq_write ..
  cases taken : sink.write p.encode with
  | mk result sink' =>
    rw [taken] at pieces
    cases result with
    | ok u =>
      simp only [pieces]
      exact .done (Nat.pos_of_ne_zero full) fills taken
    | error f =>
      simp only [pieces]
      exact .cutShort (Nat.pos_of_ne_zero full) fills taken

end Exporter

end FlowTraffic.Netflow
