import FlowTraffic.Proofs.Sender.Barrage.Delivery
import Mathlib.Data.List.Nodup

/-!
# What the collector has in the end

A worker that has stopped reports once more, and nothing that it reported before comes later than that.
So once all workers have stopped and all reports are collected, the snapshot has the state of every worker
(`Reported.snapshot_eq`).
-/

namespace FlowTraffic.Sender.Barrage

/-! ## Reports on their way -/

theorem Worker.eq_report_of_tell {w : Worker} {refreshed : Bool} :
    ∀ report ∈ (w.tell refreshed).pending, report = (w.tell refreshed).report := by
  intro report hmem
  unfold tell at hmem
  split at hmem
  · cases hmem
    rfl
  · cases hmem

theorem Worker.pending_tell_ne_none {w : Worker} {refreshed : Bool}
    (stopped : (w.tell refreshed).stage = .stopped) : (w.tell refreshed).pending ≠ none := by
  have hstage : w.stage = .stopped := stopped
  simp [tell, hstage]

/-- What holds of a barrage of so many workers after these reports were collected. -/
structure Reported (n : Nat) (collected : List WorkerReport) (r : Run) : Prop where
  ids : r.workers.map (·.id) = workerIds n
  snapshot : r.snapshot = .ofReports collected
  known : ∀ report ∈ collected ++ r.reports.items, report.worker ∈ workerIds n
  pending : ∀ (i : Nat) (w : Worker), r.workers[i]? = some w → ∀ report ∈ w.pending, report = w.report
  latest : ∀ (i : Nat) (w : Worker), r.workers[i]? = some w → w.stage = .stopped → w.pending = none →
    Snapshot.latest? (collected ++ r.reports.items) w.id = some w.report

namespace Reported

variable {n : Nat} {collected : List WorkerReport} {r r' : Run} {i j : Nat} {v w w' : Worker}

theorem id_mem (h : Reported n collected r) (hw : r.workers[i]? = some w) : w.id ∈ workerIds n := by
  rw [← h.ids]
  exact List.mem_map_of_mem (List.mem_of_getElem? hw)

theorem id_ne (h : Reported n collected r) (hn : n < UInt16.size) (hv : r.workers[j]? = some v)
    (hw : r.workers[i]? = some w) (hj : j ≠ i) : v.id ≠ w.id := by
  have nodup := nodup_workerIds hn
  rw [← h.ids] at nodup
  have hv' : (r.workers.map (·.id))[j]? = some v.id := by rw [List.getElem?_map, hv, Option.map_some]
  have hw' : (r.workers.map (·.id))[i]? = some w.id := by rw [List.getElem?_map, hw, Option.map_some]
  obtain ⟨hlt, hvid⟩ := List.getElem?_eq_some_iff.1 hv'
  obtain ⟨hlt', hwid⟩ := List.getElem?_eq_some_iff.1 hw'
  intro same
  exact hj ((List.Nodup.getElem_inj_iff nodup).1 (hvid.trans (same.trans hwid.symm)))

theorem set (h : Reported n collected r) (hw : r.workers[i]? = some w) (hid : w'.id = w.id)
    (told : ∀ report ∈ w'.pending, report = w'.report)
    (latest : w'.stage = .stopped → w'.pending ≠ none) (metrics : Metrics) (sends : Nat) :
    Reported n collected { r with workers := r.workers.set i w', metrics, sends } where
  ids := (map_set_of_eq hw hid).trans h.ids
  snapshot := h.snapshot
  known := h.known
  pending j v hv := by
    rcases getElem?_set_cases hv with ⟨rfl, rfl⟩ | ⟨-, hv⟩
    · exact told
    · exact h.pending j v hv
  latest j v hv stopped idle := by
    rcases getElem?_set_cases hv with ⟨rfl, rfl⟩ | ⟨-, hv⟩
    · exact absurd idle (latest stopped)
    · exact h.latest j v hv stopped idle

theorem report (h : Reported n collected r) (hn : n < UInt16.size) (hw : r.workers[i]? = some w)
    {report : WorkerReport} (pending : w.pending = some report) :
    Reported n collected { r with
      workers := r.workers.set i { w with pending := none }
      reports := { r.reports with items := r.reports.items ++ [report] } } where
  ids := by
    have hid : { w with pending := none }.id = w.id := rfl
    exact (map_set_of_eq hw hid).trans h.ids
  snapshot := h.snapshot
  known := by
    have mine : report = w.report := h.pending i w hw report pending
    rw [← List.append_assoc, List.forall_mem_append, List.forall_mem_singleton, mine]
    exact ⟨h.known, h.id_mem hw⟩
  pending j v hv := by
    rcases getElem?_set_cases hv with ⟨rfl, rfl⟩ | ⟨-, hv⟩
    · simp
    · exact h.pending j v hv
  latest j v hv stopped idle := by
    have mine : report = w.report := h.pending i w hw report pending
    show Snapshot.latest? (collected ++ (r.reports.items ++ [report])) v.id = some v.report
    rw [← List.append_assoc, Snapshot.latest?_concat, mine]
    rcases getElem?_set_cases hv with ⟨rfl, rfl⟩ | ⟨hj, hv⟩
    · exact if_pos rfl
    · have other : w.report.worker ≠ v.id := (h.id_ne hn hv hw hj).symm
      rw [if_neg other]
      exact h.latest j v hv stopped idle

theorem step {net : Network} {config : Config} {m : Move} {e? : Option Event} (h : Reported n collected r)
    (hn : n < UInt16.size) (hc : r.Change net config m e? r') : ∃ collected', Reported n collected' r' := by
  cases hc with
  | @attempt w p exporter words refreshed _ _ result metrics a hw makes =>
    refine ⟨collected, h.set hw ?_ ?_ ?_ metrics _⟩
    · cases result <;> rfl
    · cases result <;> exact Worker.eq_report_of_tell
    · cases result <;> exact Worker.pending_tell_ne_none
  | @shutdown i w _ _ hw idle running =>
    have hid : { w with stage := .stopped, pending := some w.report }.id = w.id := rfl
    refine ⟨collected, h.set hw hid ?_ (fun _ => Option.some_ne_none _) _ _⟩
    rintro _ ⟨⟩
    rfl
  | report hw pending => exact ⟨collected, h.report hn hw pending⟩
  | @collect report items first =>
    have split : collected ++ r.reports.items = (collected ++ [report]) ++ items := by
      rw [first, List.append_assoc, List.singleton_append]
    refine ⟨collected ++ [report], h.ids, ?_, ?_, h.pending, ?_⟩
    · rw [h.snapshot, Snapshot.ofReports, Snapshot.ofReports, List.foldl_append]
      rfl
    · rw [← split]
      exact h.known
    · rw [← split]
      exact h.latest

theorem steps {net : Network} {config : Config} (h : Reported n [] r) (hn : n < UInt16.size)
    (moves : List Move) : ∃ collected, Reported n collected (r.steps net config moves) := by
  refine foldl_induction (P := fun r => ∃ collected, Reported n collected r) ?_ ⟨[], h⟩
  rintro r m - r' ⟨collected, h⟩ hs
  exact h.step hn (Run.change_of_step hs)

theorem snapshot_eq (h : Reported n collected r) (hn : n < UInt16.size) (finished : r.isFinished = true) :
    r.snapshot.workers.entries = r.workers.map (fun w => (w.id, w.report)) ∧
      r.snapshot.totals = .sum (r.workers.map (·.sent)) := by
  obtain ⟨stopped, taken⟩ := Run.isFinished_iff.1 finished
  have latest := h.latest
  have known := h.known
  rw [taken, List.append_nil] at latest known
  have ascending : (r.workers.map fun w => (w.id, w.report)).Pairwise fun a b => compare a.1 b.1 = .lt := by
    have hids := workerIds_ascending hn
    rw [← h.ids, List.pairwise_map] at hids
    exact List.pairwise_map.2 hids
  have hentries : r.snapshot.workers.entries = r.workers.map fun w => (w.id, w.report) := by
    -- What is kept of a worker is its latest report, and the latest is the one after it stopped.
    refine OrderedMap.eq_of_ascending r.snapshot.workers.ascending ascending fun ⟨id, report⟩ => ?_
    rw [h.snapshot, Snapshot.mem_entries_ofReports_iff, List.mem_map]
    constructor
    · intro hlatest
      obtain ⟨hmem, rfl⟩ := Snapshot.mem_of_latest? hlatest
      have hid := known report hmem
      rw [← h.ids] at hid
      obtain ⟨w, hw, hid⟩ := List.mem_map.1 hid
      obtain ⟨i, hi⟩ := List.getElem?_of_mem hw
      obtain ⟨hstage, idle⟩ := stopped w hw
      have hreport := latest i w hi hstage idle
      rw [hid, hlatest] at hreport
      exact ⟨w, hw, by rw [hid, Option.some.inj hreport]⟩
    · rintro ⟨w, hw, heq⟩
      cases heq
      obtain ⟨i, hi⟩ := List.getElem?_of_mem hw
      obtain ⟨hstage, idle⟩ := stopped w hw
      exact latest i w hi hstage idle
  refine ⟨hentries, ?_⟩
  rw [h.snapshot] at hentries ⊢
  rw [Snapshot.totals_eq_sum_values, OrderedMap.values, hentries, List.map_map, List.map_map]
  rfl

end Reported

end FlowTraffic.Sender.Barrage
