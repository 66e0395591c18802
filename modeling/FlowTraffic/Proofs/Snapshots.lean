import FlowTraffic.Proofs.Maps
import FlowTraffic.Stats
import FlowTraffic.Total

/-!
# What a collector has at its end

Workers report at their own times. If every worker has reported once, the snapshot is the same in
whatever order the reports came: it has the reports in the order of the workers, and what they come to
together (`entries_ofReports`, `totals_ofReports`).
-/

namespace FlowTraffic

/-! ## Amounts -/

namespace Amounts

theorem sum_eq (as : List Amounts) :
    sum as = ⟨total (as.map (·.flows)), total (as.map (·.cycles)), total (as.map (·.bytes)),
      total (as.map (·.packets))⟩ := by
  suffices h : ∀ a : Amounts, as.foldl (· + ·) a =
      ⟨a.flows + total (as.map (·.flows)), a.cycles + total (as.map (·.cycles)),
        a.bytes + total (as.map (·.bytes)), a.packets + total (as.map (·.packets))⟩ by
    simpa [sum] using h {}
  induction as with
  | nil => intro a; rfl
  | cons b as ih =>
    intro a
    rw [List.foldl_cons, ih]
    simp only [List.map_cons, total_cons, ← Nat.add_assoc]
    rfl

end Amounts

/-! ## Worker IDs -/

def workerIds (n : Nat) : List UInt32 := (List.range n).map fun i => UInt32.ofNat (i + 1)

theorem workerIds_ascending {n : Nat} (hn : n < UInt16.size) :
    (workerIds n).Pairwise fun a b => compare a b = .lt := by
  refine List.pairwise_map.2 (List.pairwise_lt_range.imp_of_mem fun {i j} _ hj hij => ?_)
  have hj : j < n := List.mem_range.1 hj
  unfold UInt16.size at hn
  have hlt : (UInt32.ofNat (i + 1)).toNat < (UInt32.ofNat (j + 1)).toNat := by
    simp only [UInt32.toNat_ofNat']
    omega
  exact Std.compare_eq_lt.2 (UInt32.lt_iff_toNat_lt.2 hlt)

theorem nodup_workerIds {n : Nat} (hn : n < UInt16.size) : (workerIds n).Nodup := by
  refine (workerIds_ascending hn).imp fun hlt same => ?_
  simp [same, Std.ReflCmp.compare_self] at hlt

theorem toNat_workerIds {n : Nat} (hn : n < UInt16.size) :
    (workerIds n).map UInt32.toNat = List.range' 1 n := by
  unfold workerIds
  rw [List.map_map, List.range'_eq_map_range]
  apply List.map_congr_left
  intro i hi
  have small : i + 1 < UInt32.size :=
    Nat.lt_trans (Nat.lt_of_le_of_lt (List.mem_range.1 hi) hn) (by decide)
  rw [Function.comp_apply, UInt32.toNat_ofNat_of_lt' small, Nat.add_comm]

/-! ## Snapshots -/

namespace Snapshot

theorem ofReports_eq (rs : List WorkerReport) :
    ofReports rs =
      { workers := .ofList (rs.map fun r => (r.worker, r))
        totals := .sum ((OrderedMap.ofList (rs.map fun r => (r.worker, r))).values.map (·.sent)) } := by
  induction rs using List.reverseRecOn with
  | nil => rfl
  | append_singleton rs r ih =>
    rw [ofReports, List.foldl_append, ← ofReports, ih, List.map_append, List.map_singleton,
      OrderedMap.ofList_concat]
    rfl

def latest? (rs : List WorkerReport) (id : UInt32) : Option WorkerReport :=
  rs.reverse.find? (·.worker = id)

theorem latest?_concat (rs : List WorkerReport) (r : WorkerReport) (id : UInt32) :
    latest? (rs ++ [r]) id = if r.worker = id then some r else latest? rs id := by
  by_cases mine : r.worker = id <;> simp [latest?, mine]

theorem mem_of_latest? {rs : List WorkerReport} {id : UInt32} {r : WorkerReport}
    (h : latest? rs id = some r) : r ∈ rs ∧ r.worker = id :=
  ⟨List.mem_reverse.1 (List.mem_of_find?_eq_some h), by simpa using List.find?_some h⟩

theorem mem_entries_ofReports_iff {rs : List WorkerReport} {id : UInt32} {r : WorkerReport} :
    (id, r) ∈ (ofReports rs).workers.entries ↔ latest? rs id = some r := by
  induction rs using List.reverseRecOn with
  | nil => simp [ofReports, latest?, OrderedMap.empty]
  | append_singleton rs r' ih =>
    have hrecord : (ofReports (rs ++ [r'])).workers = (ofReports rs).workers.put r'.worker r' := by
      simp [ofReports, record]
    rw [hrecord, OrderedMap.mem_put_iff, ih, latest?_concat]
    by_cases mine : r'.worker = id
    · subst mine
      simp [eq_comm]
    · simp [mine, Ne.symm mine]

theorem totals_eq_sum_values (rs : List WorkerReport) :
    (ofReports rs).totals = .sum ((ofReports rs).workers.values.map (·.sent)) := by
  rw [ofReports_eq]

variable {rs rs' : List WorkerReport} (h : rs.Perm rs')
  (ascending : rs'.Pairwise fun a b => compare a.worker b.worker = .lt)

include h ascending

theorem entries_ofReports : (ofReports rs).workers.entries = rs'.map fun r => (r.worker, r) := by
  rw [ofReports_eq]
  exact OrderedMap.entries_ofList_of_perm (h.map _) (List.pairwise_map.2 ascending)

theorem totals_ofReports : (ofReports rs).totals = .sum (rs'.map (·.sent)) := by
  have hentries := entries_ofReports h ascending
  rw [ofReports_eq] at hentries ⊢
  show Amounts.sum (List.map _ (List.map _ _)) = _
  rw [hentries, List.map_map, List.map_map]
  rfl

end Snapshot

end FlowTraffic
