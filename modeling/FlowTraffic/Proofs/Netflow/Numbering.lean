import FlowTraffic.Proofs.Netflow.Sending

/-!
# The numbers of an exporter

Whatever is asked of an exporter, and whatever comes of it, the packets that it builds are numbered from
one without gaps, and its latest number tells how many there are. Records that do not fit use no number;
a write whose sink gives out has used one.
-/

namespace FlowTraffic.Netflow

namespace Exporter

/-! ## What comes of a call -/

/-- The packet that a call builds, if it comes to that. -/
def built? (e : Exporter) : Call → Option Packet
  | .template now => some (e.template now).1
  | .data drawnAt sentAt count words => (e.data drawnAt sentAt count words).1.1.toOption
  | .combined drawnAt sentAt count words => (e.combined drawnAt sentAt count words).1.1.toOption
  | .write drawnAt sentAt maxBytes _ words => e.packet? drawnAt sentAt maxBytes words

/-- How a call ends. -/
def ending (e : Exporter) : Call → Except WriteError Unit
  | .template _ => .ok ()
  | .data drawnAt sentAt count words =>
    ((e.data drawnAt sentAt count words).1.1.map fun _ => ()).mapError .tooLarge
  | .combined drawnAt sentAt count words =>
    ((e.combined drawnAt sentAt count words).1.1.map fun _ => ()).mapError .tooLarge
  | .write drawnAt sentAt maxBytes sink words => (e.write drawnAt sentAt maxBytes sink words).1.1

/-- How many templates and records a call is to send. -/
def flowsOf (e : Exporter) : Call → Nat
  | .template _ => 1
  | .data _ _ count _ => count.toNat
  | .combined _ _ count _ => count.toNat + 1
  | .write _ _ maxBytes _ _ => e.writeCount maxBytes

/-- The records asked for do not fit a set, or there is not even room for one. -/
def Overasked (e : Exporter) : Call → Prop
  | .template _ => False
  | .data _ _ count _ | .combined _ _ count _ =>
    Header.size + DataSet.maxSize < dataPacketSize e.profile.schema count.toNat
  | .write _ _ maxBytes _ _ => e.writeCount maxBytes = 0

/-- No number is used. -/
structure Rests (e e' : Exporter) : Prop where
  sourceId : e'.sourceId = e.sourceId
  sequence : e'.sequence = e.sequence

/-- What a call comes to: nothing is built and no number used, or the next packet is built, also where a
sink does not take it. -/
inductive Outcome (e : Exporter) (call : Call) :
    Option Packet → Except WriteError Unit → Exporter → Prop
  | refused {err : TooLarge} {e' : Exporter} (large : e.Overasked call) (rests : e.Rests e') :
      Outcome e call none (.error (.tooLarge err)) e'
  | built {p : Packet} {ending : Except WriteError Unit} {e' : Exporter} (room : ¬ e.Overasked call)
      (makes : e.Makes p e') (notLarge : ∀ err, ending ≠ .error (.tooLarge err))
      (flowCount : p.header.flowCount.toNat = e.flowsOf call)
      (contents : p.templates.length + p.records.length = e.flowsOf call) :
      Outcome e call (some p) ending e'

variable {e : Exporter}

theorem Packs.outcome {sentAt : Moment} {flowCount : UInt16} {templates : List TemplateSet} {count : Nat}
    {result : Except TooLarge Packet × Exporter} {call : Call}
    (h : e.Packs sentAt flowCount templates count result)
    (large : e.Overasked call ↔ Header.size + DataSet.maxSize < dataPacketSize e.profile.schema count)
    (flows : flowCount.toNat = e.flowsOf call)
    (contents : (templates.flatMap (·.templates)).length + count = e.flowsOf call) :
    e.Outcome call result.1.toOption ((result.1.map fun _ => ()).mapError .tooLarge) result.2 := by
  have packs := h
  cases h with
  | @fits records set drawn length made =>
    obtain ⟨-, same, -, -⟩ := DataSet.of_ofRecords_eq_ok made
    refine .built (fun asked => ?_) packs.makes (by rintro err ⟨⟩) flows ?_
    · exact Nat.not_lt.2 packs.room (large.1 asked)
    · rw [← contents, ← length, ← same]
      simp [Packet.templates, Packet.records]
  | tooLarge drawn length made => exact .refused (large.2 packs.large) ⟨rfl, rfl⟩

theorem Outcome.of_carries {call : Call} {p : Packet} {ending : Except WriteError Unit} {e' : Exporter}
    (room : ¬ e.Overasked call) (makes : e.Makes p e')
    (notLarge : ∀ err, ending ≠ .error (.tooLarge err))
    (carries : p.Carries e.profile.schema (e.flowsOf call)) : e.Outcome call (some p) ending e' := by
  refine .built room makes notLarge carries.flowCount ?_
  rw [carries.templates_eq_nil, carries.length_records]
  exact Nat.zero_add _

theorem outcome (e : Exporter) (call : Call) :
    e.Outcome call (e.built? call) (e.ending call) (e.perform call).2 := by
  cases call with
  | template now => exact .built id (e.makes_template now) (by rintro err ⟨⟩) rfl rfl
  | data drawnAt sentAt count words =>
    exact (e.data_packs drawnAt sentAt count words).outcome Iff.rfl rfl (Nat.zero_add _)
  | combined drawnAt sentAt count words =>
    by_cases full : count = 0xFFFF
    · subst full
      simp only [built?, ending, perform, e.combined_full]
      refine .refused ?_ ⟨rfl, rfl⟩
      show Header.size + DataSet.maxSize < dataPacketSize e.profile.schema 65535
      cases e.profile.schema <;> decide
    · refine (e.combined_packs full drawnAt sentAt words).outcome Iff.rfl ?_ (Nat.add_comm ..)
      have less : count.toNat ≠ 65535 := fun h => full (UInt16.toNat_inj.1 h)
      have bound := count.toNat_lt
      rw [UInt16.toNat_add, UInt16.toNat_one]
      exact Nat.mod_eq_of_lt (by omega)
  | write drawnAt sentAt maxBytes sink words =>
    have writes := e.write_writes drawnAt sentAt maxBytes sink words
    show e.Outcome _ (e.packet? drawnAt sentAt maxBytes words) _ _
    simp only [ending, perform]
    generalize e.packet? drawnAt sentAt maxBytes words = packet at writes ⊢
    generalize (e.write drawnAt sentAt maxBytes sink words).1 = result at writes ⊢
    cases writes with
    | noRoom full => exact .refused full ⟨rfl, rfl⟩
    | done room fills taken =>
      exact .of_carries (Nat.ne_of_gt room) { fills.makes with } (by rintro err ⟨⟩) fills.carries
    | cutShort room fills taken =>
      exact .of_carries (Nat.ne_of_gt room) fills.makes (by rintro err ⟨⟩) fills.carries

/-! ## Rows of calls -/

def after (e : Exporter) (calls : List Call) : Exporter :=
  calls.foldl (fun e call => (e.perform call).2) e

def builds (e : Exporter) : List Call → List Packet
  | [] => []
  | call :: calls => (e.built? call).toList ++ (e.perform call).2.builds calls

/-- What an exporter that started with no packet has come to: its packets are numbered in a row, and the
latest number is its own. -/
structure Counts (start e : Exporter) (ps : List Packet) : Prop where
  sourceId : e.sourceId = start.sourceId
  sequence : e.sequence = latestNumber ps.length
  numbers : ps.map (·.header.sequence) = (List.range ps.length).map packetNumber
  sources : ∀ p ∈ ps, p.header.sourceId = start.sourceId
  flowCounts : ∀ p ∈ ps, p.header.flowCount.toNat = p.templates.length + p.records.length

theorem Counts.start (fresh : e.sequence = 0) : Counts e e [] :=
  ⟨rfl, fresh, rfl, by simp, by simp⟩

theorem Counts.call {start : Exporter} {ps : List Packet} (h : Counts start e ps) (call : Call) :
    Counts start (e.perform call).2 (ps ++ (e.built? call).toList) := by
  have outcome := e.outcome call
  generalize (e.perform call).2 = e', e.built? call = packet, e.ending call = ending at outcome ⊢
  cases outcome with
  | refused large rests =>
    rw [Option.toList_none, List.append_nil]
    exact { h with
      sourceId := rests.sourceId.trans h.sourceId
      sequence := rests.sequence.trans h.sequence }
  | @built p _ _ room makes notLarge flowCount contents =>
    have next : nextSequence e.sequence = packetNumber ps.length := by
      rw [h.sequence, nextSequence_latestNumber]
    refine ⟨makes.sourceId.trans h.sourceId, ?_,
      numbers_concat h.numbers (makes.number.trans next), ?_, ?_⟩
    · rw [Option.toList_some, List.length_append, makes.sequence, next]
      rfl
    · refine List.forall_mem_append.2 ⟨h.sources, List.forall_mem_singleton.2 ?_⟩
      rw [makes.source, h.sourceId]
    · refine List.forall_mem_append.2 ⟨h.flowCounts, List.forall_mem_singleton.2 ?_⟩
      rw [flowCount, contents]

theorem Counts.calls {start : Exporter} {ps : List Packet} (h : Counts start e ps)
    (calls : List Call) : Counts start (e.after calls) (ps ++ e.builds calls) := by
  induction calls generalizing e ps with
  | nil => simpa [builds, after] using h
  | cons call calls ih =>
    rw [builds, ← List.append_assoc]
    exact ih (h.call call)

def pairs : Profile := ⟨.generic, 2, .private10, .private10⟩

end Exporter

end FlowTraffic.Netflow
