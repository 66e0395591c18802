import FlowTraffic.Proofs.Sender.Barrage.Moves
import FlowTraffic.Total
import Mathlib.Data.List.Basic

/-!
# A barrage comes to its end

The collector takes whatever is in the queue, so there is always room for a report again. Every worker can
be told to stop, and reports for the last time then. So whatever has happened, a barrage can come to its
end (`exists_finish`).
-/

namespace FlowTraffic.Sender.Barrage

open Netflow

/-- The moves that it takes at most until the collector has the last report of a worker. -/
def Worker.effort (w : Worker) : Nat :=
  let moves := match w.stage with
    | .starting => 6
    | .running => 3
    | .stopped => 0
  moves + if w.pending.isSome then 2 else 0

namespace Run

/-- The moves that it takes at most until a barrage has come to its end. -/
def effort (r : Run) : Nat := r.reports.items.length + total (r.workers.map Worker.effort)

/-- What keeps the reports going. -/
structure Live (r : Run) : Prop where
  isOpen : r.reports.isOpen = true
  roomy : 0 < r.reports.capacity

variable {net : Network} {config : Config} {r r' : Run} {m : Move} {e? : Option Event} {i : Nat}
  {w w' : Worker}

theorem Live.start (config : Config) (workers : List Worker) : Live (Run.start config workers) where
  isOpen := rfl
  roomy := Nat.succ_pos _

theorem Live.step (h : Live r) (hc : Change net config r m e? r') : Live r' := by
  cases hc <;> exact { h with }

theorem Live.steps (h : Live r) (moves : List Move) : Live (r.steps net config moves) :=
  foldl_induction (fun _ _ _ _ h hs => h.step (change_of_step hs)) h

/-! ## Going on -/

theorem effort_attempted_lt (starting : w.stage = .starting) (p : Packet) (exporter : Exporter)
    (words : Words) (refreshed : Bool) (result : Except TransportError Unit) :
    (w.attempted p exporter words refreshed result).effort < w.effort := by
  have hbefore : 6 ≤ w.effort := by
    rw [Worker.effort, starting]
    exact Nat.le_add_right _ _
  refine Nat.lt_of_lt_of_le ?_ hbefore
  cases result <;> cases refreshed <;> simp [Worker.attempted, Worker.tell, Worker.effort]

theorem effort_set_lt (hw : r.workers[i]? = some w) (less : w'.effort < w.effort) (metrics : Metrics)
    (sends : Nat) :
    effort { r with workers := r.workers.set i w', metrics, sends } < r.effort := by
  have hworkers := total_map_set hw Worker.effort w'
  simp only [effort]
  omega

theorem Live.exists_report (h : Live r) (net : Network) (config : Config) (hw : r.workers[i]? = some w)
    {report : WorkerReport} (pending : w.pending = some report) (empty : r.reports.items = []) :
    ∃ m r', r.step net config m = some r' ∧ r'.effort < r.effort := by
  have room : r.reports.push? report = some { r.reports with items := [] ++ [report] } := by
    rw [Queue.push?_eq_some_iff, empty]
    exact ⟨h.isOpen, h.roomy, rfl⟩
  have hs : r.step net config (.report i) = some { r with
      workers := r.workers.set i { w with pending := none }
      reports := { r.reports with items := [] ++ [report] } } := by
    simp only [Run.step, hw, pending, room, Option.bind_eq_bind, Option.bind_some]
    rfl
  have hworkers := total_map_set hw Worker.effort { w with pending := none }
  have told : w.effort = Worker.effort { w with pending := none } + 2 := by
    simp [Worker.effort, pending]
  refine ⟨_, _, hs, ?_⟩
  simp only [effort, empty, List.nil_append, List.length_singleton, List.length_nil]
  omega

theorem exists_tick (net : Network) (config : Config) (hw : r.workers[i]? = some w)
    (idle : w.pending = none) (awake : w.stage ≠ .stopped) :
    ∃ m r', r.step net config m = some r' ∧ r'.effort < r.effort := by
  cases hstage : w.stage with
  | stopped => exact absurd hstage awake
  | starting =>
    have enabled : (r.step net config (.tick i .start {})).isSome := by
      simp [Run.step, hw, Worker.step, Worker.make, Tick.comes, idle, hstage]
    obtain ⟨r', hs⟩ := Option.isSome_iff_exists.1 enabled
    refine ⟨_, r', hs, ?_⟩
    -- Whether the template goes out or not, the worker has come nearer to its last report.
    have hc := change_of_step hs
    generalize r.event? net config _ = e? at hc
    cases hc with
    | attempt a hw' =>
      obtain rfl := Option.some.inj (hw.symm.trans hw')
      exact effort_set_lt hw (effort_attempted_lt hstage _ _ _ _ _) _ _
  | running =>
    have enabled : (r.step net config (.tick i .shutdown {})).isSome := by
      simp [Run.step, hw, Worker.step, Worker.make, Tick.comes, idle, hstage]
    obtain ⟨r', hs⟩ := Option.isSome_iff_exists.1 enabled
    refine ⟨_, r', hs, ?_⟩
    have hc : Change net config r (.tick i .shutdown {}) (some (.shutdown i)) r' := change_of_step hs
    cases hc with
    | shutdown hw' =>
      obtain rfl := Option.some.inj (hw.symm.trans hw')
      refine effort_set_lt hw ?_ _ _
      simp [Worker.effort, idle, hstage]

theorem Live.exists_step (h : Live r) (net : Network) (config : Config)
    (unfinished : ¬ r.isFinished = true) :
    ∃ m r', r.step net config m = some r' ∧ r'.effort < r.effort := by
  cases hitems : r.reports.items with
  | cons report items =>
    have popped : r.reports.pop? = some (report, { r.reports with items }) :=
      Queue.pop?_eq_some_iff.2 ⟨items, hitems, rfl⟩
    have hs : r.step net config .collect = some { r with
        reports := { r.reports with items }, snapshot := r.snapshot.record report } := by
      simp only [Run.step, popped, Option.bind_eq_bind, Option.bind_some]
      rfl
    refine ⟨_, _, hs, ?_⟩
    simp only [effort, hitems, List.length_cons]
    omega
  | nil =>
    obtain ⟨w, hmem, busy⟩ : ∃ w ∈ r.workers, ¬ (w.stage = .stopped ∧ w.pending = none) := by
      simpa [isFinished_iff, hitems] using unfinished
    obtain ⟨i, hw⟩ := List.getElem?_of_mem hmem
    cases hpending : w.pending with
    | some report => exact h.exists_report net config hw hpending hitems
    | none => exact exists_tick net config hw hpending fun stopped => busy ⟨stopped, hpending⟩

theorem Live.exists_finish (h : Live r) :
    ∃ moves, (r.steps net config moves).isFinished = true := by
  have advance : ∀ r : Run, Live r → ¬ r.isFinished = true →
      ∃ m r', True ∧ r.step net config m = some r' ∧ Live r' ∧ r'.effort < r.effort := by
    intro r h unfinished
    obtain ⟨m, r', hs, less⟩ := h.exists_step net config unfinished
    exact ⟨m, r', trivial, hs, h.step (change_of_step hs), less⟩
  obtain ⟨moves, -, -, finished⟩ := exists_reaching effort advance h
  exact ⟨moves, finished⟩

end Run

end FlowTraffic.Sender.Barrage
