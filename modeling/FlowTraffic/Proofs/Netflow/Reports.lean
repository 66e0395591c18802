import FlowTraffic.Proofs.Netflow.Limits
import FlowTraffic.Proofs.Netflow.Numbering

/-!
# What an exporter reports

After a write an exporter tells how many records it has written: their number if all went well, and
nothing if there was no room. A write that its sink cuts short does not change what is told, so that may
be of an earlier write.
-/

namespace FlowTraffic.Netflow

namespace Exporter

/-- What a call sets the report to, if it does: the number of records of a write, or that there is none.
A write that its sink cuts short sets nothing, nor does any other call. -/
def report? (e : Exporter) : Call → Option (Option Nat)
  | .write drawnAt sentAt maxBytes sink words =>
    match (e.write drawnAt sentAt maxBytes sink words).1.1 with
    | .error (.fault _) => none
    | _ => some ((e.packet? drawnAt sentAt maxBytes words).map (·.records.length))
  | _ => none

/-- What calls set the report to, one after the other. -/
def reports (e : Exporter) : List Call → List (Option Nat)
  | [] => []
  | call :: calls => (e.report? call).toList ++ (e.perform call).2.reports calls

section

variable {e : Exporter}

theorem Packs.written {sentAt : Moment} {flowCount : UInt16} {templates : List TemplateSet} {count : Nat}
    {result : Except TooLarge Packet × Exporter} (h : e.Packs sentAt flowCount templates count result) :
    result.2.written = e.written := by
  cases h <;> rfl

end

variable (e : Exporter)

theorem written_perform (call : Call) :
    (e.perform call).2.written = (e.report? call).getD e.written := by
  cases call with
  | template now => rfl
  | data drawnAt sentAt count words => exact (e.data_packs drawnAt sentAt count words).written
  | combined drawnAt sentAt count words =>
    by_cases full : count = 0xFFFF
    · subst full
      show (e.combined drawnAt sentAt 0xFFFF words).1.2.written = e.written
      rw [e.combined_full]
    · exact (e.combined_packs full drawnAt sentAt words).written
  | write drawnAt sentAt maxBytes sink words =>
    have writes := e.write_writes drawnAt sentAt maxBytes sink words
    simp only [perform, report?]
    generalize e.packet? drawnAt sentAt maxBytes words = packet at writes ⊢
    generalize (e.write drawnAt sentAt maxBytes sink words).1 = outcome at writes ⊢
    cases writes with
    | noRoom full => rfl
    | done room fills taken => exact congrArg some fills.carries.length_records.symm
    | cutShort room fills taken => exact fills.written

theorem written_after (calls : List Call) :
    (e.after calls).written = (e.reports calls).getLast?.getD e.written := by
  induction calls generalizing e with
  | nil => rfl
  | cons call calls ih =>
    show ((e.perform call).2.after calls).written = _
    rw [ih, written_perform, reports, List.getLast?_append]
    cases (e.report? call) <;> cases ((e.perform call).2.reports calls).getLast? <;> rfl

/-- **The report is of the latest write, unless that one was cut short.** Then it is what was reported
before. -/
theorem written_by_latest (calls : List Call) (drawnAt sentAt : Moment) (maxBytes : Nat) (sink : Sink)
    (words : Words) :
    let outcome := ((e.after calls).write drawnAt sentAt maxBytes sink words).1
    (∀ e' sink', outcome = (.ok (), e', sink') →
      ∃ b p, sink'.taken = sink.taken ++ b ∧ Packet.parseAlone b = .ok p ∧
        e'.written = some p.records.length) ∧
    (∀ large e' sink', outcome = (.error (.tooLarge large), e', sink') → e'.written = none) ∧
    ∀ f e' sink', outcome = (.error (.fault f), e', sink') →
      e'.written = (e.reports calls).getLast?.getD e.written := by
  intro outcome
  have writes := (e.after calls).write_writes drawnAt sentAt maxBytes sink words
  generalize (e.after calls).packet? drawnAt sentAt maxBytes words = packet at writes
  change (e.after calls).Writes maxBytes sink packet outcome at writes
  refine ⟨fun e' sink' h => ?_, fun large e' sink' h => ?_, fun f e' sink' h => ?_⟩
  · rw [h] at writes
    cases writes with
    | @done p _ _ room fills taken =>
      exact ⟨p.encode, p, Sink.taken_of_write_eq_ok taken, fills.carries.parseAlone_encode,
        congrArg some fills.carries.length_records.symm⟩
  · rw [h] at writes
    cases writes with
    | noRoom full => rfl
  · rw [h] at writes
    cases writes with
    | cutShort room fills taken => rw [fills.written, written_after]

theorem written_by_earlier :
    let first : Call := .write {} {} 67 {} ⟨.ofNat, 0⟩
    let outcome := ((single.after [first]).write {} {} 67 { room := some 0 } ⟨.ofNat, 8⟩).1
    outcome.1 = .error (.fault .shortWrite) ∧ outcome.2.1.written = some 1 := by
  exact ⟨rfl, rfl⟩

end Exporter

end FlowTraffic.Netflow
