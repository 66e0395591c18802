import FlowTraffic.Proofs.Snapshots
import Mathlib.Algebra.BigOperators.Group.Finset.Basic

/-!
# What a collector shows

A collector shows a snapshot before the first report and one after each. Whatever came before, a snapshot
has the latest report of every worker that has reported, and the totals are the sums over these: a report
that is overtaken by another of the same worker leaves no trace.
-/

namespace FlowTraffic

theorem total_map_eq_sum {α : Type} [DecidableEq α] {as : List α} (once : as.Nodup) (f : α → Nat) :
    total (as.map f) = ∑ a ∈ as.toFinset, f a := by
  induction as with
  | nil => rfl
  | cons a as ih =>
    obtain ⟨hnew, honce⟩ := List.nodup_cons.1 once
    rw [List.map_cons, total_cons, List.toFinset_cons,
      Finset.sum_insert (by simpa using hnew), ih honce]

namespace Amounts

def parts : List (Amounts → Nat) := [flows, cycles, bytes, packets]

theorem part_sum {part : Amounts → Nat} (hpart : part ∈ parts) (as : List Amounts) :
    part (sum as) = total (as.map part) := by
  rw [sum_eq]
  simp only [parts, List.mem_cons, List.not_mem_nil, or_false] at hpart
  rcases hpart with rfl | rfl | rfl | rfl <;> rfl

theorem part_sum_le_of_prefix {part : Amounts → Nat} (hpart : part ∈ parts) {front as : List Amounts}
    (h : front <+: as) : part (sum front) ≤ part (sum as) := by
  obtain ⟨rest, rfl⟩ := h
  rw [part_sum hpart, part_sum hpart, List.map_append, total_append]
  exact Nat.le_add_right _ _

end Amounts

namespace Snapshot

/-- The snapshots that a collector shows, starting with one, as the reports come. -/
def shown (s : Snapshot) : List WorkerReport → List Snapshot
  | [] => [s]
  | r :: rs => s :: (s.record r).shown rs

def reporters (rs : List WorkerReport) : Finset UInt32 := (rs.map (·.worker)).toFinset

/-- One amount of a worker's latest report. -/
def latestAmount (part : Amounts → Nat) (rs : List WorkerReport) (id : UInt32) : Nat :=
  (latest? rs id).elim 0 fun r => part r.sent

/-! ## Every snapshot -/

theorem shown_getElem? (s : Snapshot) (rs : List WorkerReport) (n : Nat) :
    (s.shown rs)[n]? = if n ≤ rs.length then some ((rs.take n).foldl record s) else none := by
  induction rs generalizing s n with
  | nil => cases n <;> simp [shown]
  | cons r rs ih =>
    cases n with
    | zero => simp [shown]
    | succ n => simp [shown, ih]

theorem length_shown (s : Snapshot) (rs : List WorkerReport) : (s.shown rs).length = rs.length + 1 := by
  induction rs generalizing s with
  | nil => rfl
  | cons r rs ih => exact congrArg (· + 1) (ih _)

/-! ## One snapshot -/

theorem find?_ofReports (rs : List WorkerReport) (id : UInt32) :
    (ofReports rs).workers.find? id = latest? rs id := by
  refine Option.ext fun r => ?_
  rw [OrderedMap.find?_eq_some_iff, mem_entries_ofReports_iff]

theorem mem_reporters_iff {rs : List WorkerReport} {id : UInt32} :
    id ∈ reporters rs ↔ ∃ r, latest? rs id = some r := by
  simp only [reporters, List.mem_toFinset, List.mem_map, latest?, ← Option.isSome_iff_exists,
    List.find?_isSome, List.mem_reverse, decide_eq_true_eq]

theorem reporters_eq_keys (rs : List WorkerReport) :
    reporters rs = ((ofReports rs).workers.entries.map (·.1)).toFinset := by
  refine Finset.ext fun id => ?_
  rw [mem_reporters_iff, List.mem_toFinset, List.mem_map]
  constructor
  · rintro ⟨r, hr⟩
    exact ⟨(id, r), mem_entries_ofReports_iff.2 hr, rfl⟩
  · rintro ⟨⟨id, r⟩, hr, rfl⟩
    exact ⟨r, mem_entries_ofReports_iff.1 hr⟩

theorem part_totals {part : Amounts → Nat} (hpart : part ∈ Amounts.parts) (rs : List WorkerReport) :
    part (ofReports rs).totals = ∑ id ∈ reporters rs, latestAmount part rs id := by
  rw [totals_eq_sum_values, Amounts.part_sum hpart, reporters_eq_keys,
    ← total_map_eq_sum (OrderedMap.nodup_keys _), OrderedMap.values, List.map_map, List.map_map, List.map_map]
  congr 1
  refine List.map_congr_left ?_
  rintro ⟨id, r⟩ hr
  simp [latestAmount, mem_entries_ofReports_iff.1 hr]

theorem ofReports_eq_iff {rs rs' : List WorkerReport} :
    ofReports rs = ofReports rs' ↔ ∀ id, latest? rs id = latest? rs' id := by
  constructor
  · intro same id
    rw [← find?_ofReports, same, find?_ofReports]
  · intro same
    have hworkers : (ofReports rs).workers = (ofReports rs').workers := by
      refine OrderedMap.ext_find? fun id => ?_
      rw [find?_ofReports, same, find?_ofReports]
    have htotals : (ofReports rs).totals = (ofReports rs').totals := by
      rw [totals_eq_sum_values, hworkers, ← totals_eq_sum_values]
    exact congrArg₂ Snapshot.mk hworkers htotals

/-- **A snapshot depends on the latest reports only.** A collector shows one snapshot before the first
report and one after each, the last of them after all. Every snapshot on the way has the latest report of
each worker that has reported by then and nothing else, and each total is the sum over these. No sum that
is formed on the way to a total is larger than the total, so that nothing overflows where the totals fit
their words. And of any two collectors, any two snapshots are equal if and only if every worker had the
same latest report by then. -/
theorem shows_latest_only (rs : List WorkerReport) :
    (shown {} rs).length = rs.length + 1 ∧ (shown {} rs)[rs.length]? = some (ofReports rs) ∧
      ∀ n s, (shown {} rs)[n]? = some s →
        (∀ id, s.workers.find? id = latest? (rs.take n) id) ∧
          (∀ part ∈ Amounts.parts,
            part s.totals = ∑ id ∈ reporters (rs.take n), latestAmount part (rs.take n) id ∧
              ∀ front, front <+: s.workers.values.map (·.sent) →
                part (.sum front) ≤ part s.totals) ∧
          ∀ rs' n' s', (shown {} rs')[n']? = some s' →
            (s = s' ↔ ∀ id, latest? (rs.take n) id = latest? (rs'.take n') id) := by
  have hshown {rs : List WorkerReport} {n : Nat} {s : Snapshot} (h : (shown {} rs)[n]? = some s) :
      s = ofReports (rs.take n) := by
    rw [shown_getElem?] at h
    split at h
    · exact (Option.some.inj h).symm
    · cases h
  refine ⟨length_shown _ rs, ?_, fun n s hs => ⟨fun id => ?_, fun part hpart => ⟨?_, ?_⟩, ?_⟩⟩
  · rw [shown_getElem?, if_pos (Nat.le_refl _), List.take_length, ofReports]
  · rw [hshown hs]
    exact find?_ofReports _ id
  · rw [hshown hs]
    exact part_totals hpart _
  · intro front hfront
    rw [hshown hs] at hfront ⊢
    rw [totals_eq_sum_values]
    exact Amounts.part_sum_le_of_prefix hpart hfront
  · intro rs' n' s' hs'
    rw [hshown hs, hshown hs']
    exact ofReports_eq_iff

/-- The first worker reports twice, with another worker in between. -/
def overtaken : List WorkerReport :=
  [{ worker := 1, sent := { packets := 5 } }, { worker := 2, sent := { packets := 1 } },
    { worker := 1, sent := { packets := 7 } }]

/-- The other worker reports first and twice, and the first one reports once more in the end. -/
def repeated : List WorkerReport :=
  [{ worker := 2, sent := { packets := 1 } }, { worker := 2, sent := { packets := 1 } },
    { worker := 1, sent := { packets := 7 } }, { worker := 1, sent := { packets := 9 } }]

theorem shows_latest_only_overtaken :
    ∃ s, (shown {} overtaken)[3]? = some s ∧ (shown {} repeated)[3]? = some s ∧
      s.workers.find? 1 = some { worker := 1, sent := { packets := 7 } } ∧ s.totals.packets = 8 := by
  obtain ⟨-, -, each⟩ := shows_latest_only overtaken
  have hs : (shown {} overtaken)[3]? = some (ofReports overtaken) := rfl
  have hs' : (shown {} repeated)[3]? = some (ofReports (repeated.take 3)) := rfl
  obtain ⟨latest, -, same⟩ := each 3 _ hs
  have hsame : ofReports overtaken = ofReports (repeated.take 3) := by
    refine (same repeated 3 _ hs').2 fun id => ?_
    by_cases h₁ : 1 = id <;> by_cases h₂ : 2 = id <;> simp [latest?, overtaken, repeated, h₁, h₂]
  exact ⟨_, hs, hsame ▸ hs', (latest 1).trans rfl, by decide⟩

end Snapshot

end FlowTraffic
