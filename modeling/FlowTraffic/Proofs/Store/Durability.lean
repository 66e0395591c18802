import FlowTraffic.Proofs.Store.Puts
import FlowTraffic.Store.File

/-!
# The durability window

A crash takes from a store in a directory the puts since the latest durable commit. There are never more
than 1023 of them: the 1024th is committed durably, and so is everything at a flush (`Window.after`). A call
that fails, at whichever call of the database, changes nothing, so the store follows its window whatever
fails in between (`durability_window`).
-/

namespace FlowTraffic.FileStore

/-- What is asked of an opened store. -/
inductive Request
  | put (key value : Bytes)
  | flush

/-- The calls of the database that the request takes, in their order. -/
def calls (s : FileStore) : Request → List DatabaseCall
  | .put .. => [.begin, .openTable, .insert, .count, .commit]
  | .flush => if s.unsynced = 0 then [] else [.begin, .commit]

/-- Does what is asked, while some calls of the database fail. -/
def serve (s : FileStore) (trouble : Trouble) : Request → Except StoreError Unit × FileStore
  | .put key value => (putWith trouble key value).run s
  | .flush => (flushWith trouble).run s

/-- The store after requests, each with its own trouble. -/
def serveAll (s : FileStore) (asked : List (Trouble × Request)) : FileStore :=
  asked.foldl (fun s (trouble, request) => (s.serve trouble request).2) s

def successes (s : FileStore) : List (Trouble × Request) → List Request
  | [] => []
  | (trouble, request) :: asked =>
    (if (s.serve trouble request).1.toBool then [request] else []) ++
      (s.serve trouble request).2.successes asked

def Request.entry? : Request → Option (Bytes × Bytes)
  | .put key value => some (key, value)
  | .flush => none

/-- What a crash leaves behind. A request changes the database only when it commits, so a crash in the
middle of it leaves what one before it or one after it does. -/
def crash (s : FileStore) : Database := ⟨s.database.durable, s.database.durable⟩

/-! ## The window -/

/-- The entries put with success: those up to the latest durable commit, and those since then. -/
structure Window where
  safe : List (Bytes × Bytes) := []
  recent : List (Bytes × Bytes) := []

namespace Window

/-- The window after a request has succeeded. The 1024th put since the latest durable commit is committed
durably. A flush makes all puts durable. -/
def after (w : Window) : Request → Window
  | .put key value =>
    if w.recent.length + 1 = 1024 then ⟨w.safe ++ (w.recent ++ [(key, value)]), []⟩
    else ⟨w.safe, w.recent ++ [(key, value)]⟩
  | .flush => ⟨w.safe ++ w.recent, []⟩

/-- A store that held a table when it was opened is where its puts have brought it, and a crash takes it
back to where those up to the latest durable commit had brought it. -/
structure Of (w : Window) (opened : Table) (s : FileStore) : Prop where
  committed : s.database.committed = opened.putAll (w.safe ++ w.recent)
  durable : s.database.durable = opened.putAll w.safe
  length : s.length = s.database.committed.size
  unsynced : s.unsynced = w.recent.length
  bounded : w.recent.length ≤ 1023

theorem entries_after (w : Window) (request : Request) :
    (w.after request).safe ++ (w.after request).recent =
      w.safe ++ w.recent ++ request.entry?.toList := by
  cases request with
  | put key value =>
    simp only [after]
    split <;> simp [Request.entry?]
  | flush => simp [after, Request.entry?]

theorem entries_foldl_after (w : Window) (done : List Request) :
    (done.foldl after w).safe ++ (done.foldl after w).recent =
      w.safe ++ w.recent ++ done.filterMap Request.entry? := by
  induction done generalizing w with
  | nil => simp
  | cons request done ih =>
    rw [List.foldl_cons, ih, entries_after, List.append_assoc]
    cases request <;> rfl

end Window

/-! ## One call -/

/-- What comes of calls on the database: if one of them fails, nothing but its error. -/
def outcome (trouble : Trouble) (calls : List DatabaseCall) (before after : FileStore) :
    Except StoreError Unit × FileStore :=
  match calls.findSome? trouble with
  | some e => (.error (.database e), before)
  | none => (.ok (), after)

theorem run_call_bind {trouble : Trouble} {c : DatabaseCall} {calls : List DatabaseCall}
    {work : Unit → Work Unit} {before after : FileStore}
    (h : (work ()).run before = outcome trouble calls before after) :
    (call trouble c >>= work).run before = outcome trouble (c :: calls) before after := by
  cases hc : trouble c with
  | some e =>
    simp only [call, outcome, List.findSome?_cons, hc]
    rfl
  | none =>
    simp only [call, outcome, List.findSome?_cons, hc] at h ⊢
    exact h

theorem run_get_bind (work : FileStore → Work Unit) (s : FileStore) :
    (get >>= work).run s = (work s).run s := rfl

theorem run_modify_bind (f : FileStore → FileStore) (work : Unit → Work Unit) (s : FileStore) :
    (modify f >>= work).run s = (work ()).run (f s) := rfl

/-- The store after a request that meets no trouble. -/
def done (s : FileStore) : Request → FileStore
  | .put key value =>
    let table := s.database.committed.put key value
    let isDurable := decide (syncEvery ≤ s.unsynced + 1)
    { s with
      database := s.database.commit ⟨table, isDurable⟩
      length := table.size
      unsynced := if isDurable then 0 else s.unsynced + 1 }
  | .flush =>
    if s.unsynced = 0 then s
    else { s with database := s.database.commit { table := s.database.committed }, unsynced := 0 }

theorem isDurable_eq (s : FileStore) :
    (!decide (s.unsynced + 1 < syncEvery)) = decide (syncEvery ≤ s.unsynced + 1) := by
  rw [← decide_not, decide_eq_decide]
  omega

theorem serve_eq (s : FileStore) (trouble : Trouble) (request : Request) :
    s.serve trouble request = outcome trouble (s.calls request) s (s.done request) := by
  cases request with
  | put key value =>
    simp only [serve, calls, done, putWith, beginPut, commit, countCommit, bind_assoc, pure_bind]
    rw [run_get_bind]
    refine run_call_bind ?_
    rw [run_get_bind, isDurable_eq]
    -- whether the put is durable does not matter to what its calls come to
    generalize decide (syncEvery ≤ s.unsynced + 1) = isDurable
    refine run_call_bind (run_call_bind (run_call_bind (run_call_bind ?_)))
    rw [run_modify_bind, run_modify_bind]
    rfl
  | flush =>
    simp only [serve, calls, done, flushWith, commit, countCommit, bind_assoc]
    rw [run_get_bind]
    by_cases synced : s.unsynced = 0
    · rw [if_pos synced, if_pos synced, if_pos synced]
      rfl
    · rw [if_neg synced, if_neg synced, if_neg synced]
      refine run_call_bind (run_call_bind ?_)
      rw [run_modify_bind]
      rfl

/-- A request fails with the error of the first of its calls that fails. The store is then as it was. -/
theorem serve_of_some {s : FileStore} {trouble : Trouble} {request : Request} {e : DatabaseError}
    (failed : (s.calls request).findSome? trouble = some e) :
    s.serve trouble request = (.error (.database e), s) := by
  rw [serve_eq, outcome, failed]

theorem serve_of_none {s : FileStore} {trouble : Trouble} {request : Request}
    (works : (s.calls request).findSome? trouble = none) :
    s.serve trouble request = (.ok (), s.done request) := by
  rw [serve_eq, outcome, works]

namespace Window.Of

variable {w : Window} {opened : Table} {s : FileStore}

/-- A put is committed durably exactly if it is the 1024th since the latest durable commit. -/
theorem syncs_iff (h : w.Of opened s) : syncEvery ≤ s.unsynced + 1 ↔ w.recent.length + 1 = 1024 := by
  have bounded := h.bounded
  rw [h.unsynced, syncEvery]
  omega

theorem done_put (h : w.Of opened s) (key value : Bytes) :
    (w.after (.put key value)).Of opened (s.done (.put key value)) := by
  have committed : (s.done (.put key value)).database.committed =
      opened.putAll (w.safe ++ (w.recent ++ [(key, value)])) := by
    rw [← List.append_assoc, Table.putAll_concat, ← h.committed]
    rfl
  by_cases last : w.recent.length + 1 = 1024
  · have syncs : decide (syncEvery ≤ s.unsynced + 1) = true := decide_eq_true (h.syncs_iff.2 last)
    rw [Window.after, if_pos last]
    refine ⟨by rw [committed, List.append_nil], ?_, rfl, ?_, Nat.zero_le _⟩
    · rw [← committed]
      simp only [done, Database.commit, syncs, if_true]
    · simp only [done, syncs, if_true, List.length_nil]
  · have counts : decide (syncEvery ≤ s.unsynced + 1) = false :=
      decide_eq_false fun syncs => last (h.syncs_iff.1 syncs)
    have bounded := h.bounded
    rw [Window.after, if_neg last]
    refine ⟨committed, ?_, rfl, ?_, ?_⟩
    · simp only [done, Database.commit, counts]
      exact h.durable
    · simp only [done, counts, List.length_append, ← h.unsynced]
      rfl
    · rw [List.length_append, List.length_singleton]
      omega

theorem done_flush (h : w.Of opened s) : (w.after .flush).Of opened (s.done .flush) := by
  have committed : opened.putAll (w.safe ++ w.recent ++ []) = s.database.committed := by
    rw [List.append_nil, h.committed]
  by_cases synced : s.unsynced = 0
  · -- no put was lost from sight, so the latest commit was durable
    have nothing : w.recent = [] := List.eq_nil_of_length_eq_zero (h.unsynced ▸ synced)
    simp only [done, if_pos synced]
    refine ⟨committed.symm, ?_, h.length, synced, Nat.zero_le _⟩
    rw [h.durable, Window.after, nothing, List.append_nil]
  · simp only [done, if_neg synced]
    refine ⟨committed.symm, ?_, h.length, rfl, Nat.zero_le _⟩
    exact h.committed

theorem done (h : w.Of opened s) (request : Request) :
    (w.after request).Of opened (s.done request) := by
  cases request with
  | put key value => exact h.done_put key value
  | flush => exact h.done_flush

end Window.Of

/-! ## Many requests -/

theorem Window.Of.opened {dir : String} {found : Directory} {s : FileStore}
    (h : openAt dir found = .ok s) : Window.Of {} s.database.committed s := by
  cases found with
  | empty =>
    cases h
    exact ⟨rfl, rfl, rfl, rfl, Nat.zero_le _⟩
  | closed database =>
    cases h
    exact ⟨rfl, rfl, rfl, rfl, Nat.zero_le _⟩
  | refused why => cases h
  | unusable why => cases h

theorem Window.Of.serveAll {opened : Table} (asked : List (Trouble × Request)) {w : Window} {s : FileStore}
    (h : w.Of opened s) : ((s.successes asked).foldl after w).Of opened (s.serveAll asked) := by
  induction asked generalizing w s with
  | nil => exact h
  | cons a asked ih =>
    obtain ⟨trouble, request⟩ := a
    rw [successes, FileStore.serveAll, List.foldl_cons, ← FileStore.serveAll]
    cases calls : (s.calls request).findSome? trouble with
    | some e =>
      simp only [serve_of_some calls]
      exact ih h
    | none =>
      simp only [serve_of_none calls]
      exact ih (h.done request)

theorem succeeds_iff {s : FileStore} {trouble : Trouble} {request : Request} :
    (s.serve trouble request).1 = .ok () ↔ ∀ c ∈ s.calls request, trouble c = none := by
  rw [← List.findSome?_eq_none_iff]
  cases calls : (s.calls request).findSome? trouble with
  | some e => simp [serve_of_some calls]
  | none => simp [serve_of_none calls]

/-- **The durability window.** Whatever is asked of a store since it was opened, and whichever calls fail: the entries put with
success are those up to the latest durable commit and, after them, at most 1023 that a crash takes away.
The next request succeeds if none of its calls fails, and otherwise leaves the store as it is. A put that
succeeds is committed durably exactly if it is the 1024th since the latest durable commit. A flush that
succeeds makes everything durable. -/
theorem durability_window {dir : String} {found : Directory} {s : FileStore}
    (opened : openAt dir found = .ok s) (asked : List (Trouble × Request)) :
    let now := s.serveAll asked
    let window := (s.successes asked).foldl Window.after {}
    window.Of s.database.committed now ∧
    (s.successes asked).filterMap Request.entry? = window.safe ++ window.recent ∧
    (∃ again, openAt dir (.closed now.crash) = .ok again ∧
      Store.contents again = .ok (s.database.committed.putAll window.safe)) ∧
    ∀ trouble : Trouble,
      (∀ request, (now.serve trouble request).1 = .ok () ↔ ∀ c ∈ now.calls request, trouble c = none) ∧
      (∀ request why, (now.serve trouble request).1 = .error why →
        (now.serve trouble request).2 = now) ∧
      (∀ key value, (now.serve trouble (.put key value)).1 = .ok () →
        (now.serve trouble (.put key value)).2.database = now.database.commit
          ⟨now.database.committed.put key value, decide (window.recent.length + 1 = 1024)⟩) ∧
      ((now.serve trouble .flush).1 = .ok () →
        (now.serve trouble .flush).2.database.durable = now.database.committed ∧
        (now.serve trouble .flush).2.database.committed = now.database.committed ∧
        (now.serve trouble .flush).2.unsynced = 0) := by
  intro now window
  have follows : window.Of s.database.committed now := (Window.Of.opened opened).serveAll asked
  have entries := Window.entries_foldl_after {} (s.successes asked)
  refine ⟨follows, entries.symm, ⟨_, rfl, congrArg _ follows.durable⟩, fun trouble => ⟨?_, ?_, ?_, ?_⟩⟩
  · exact fun request => succeeds_iff
  · intro request why failed
    cases calls : (now.calls request).findSome? trouble with
    | some e => rw [serve_of_some calls]
    | none => cases (congrArg Prod.fst (serve_of_none calls)).symm.trans failed
  · intro key value succeeds
    have works := List.findSome?_eq_none_iff.2 (succeeds_iff.1 succeeds)
    rw [serve_of_none works]
    exact congrArg (fun isDurable => now.database.commit ⟨_, isDurable⟩) (decide_eq_decide.2 follows.syncs_iff)
  · intro succeeds
    have works := List.findSome?_eq_none_iff.2 (succeeds_iff.1 succeeds)
    rw [serve_of_none works]
    have flushed := follows.done_flush
    exact ⟨flushed.durable.trans follows.committed.symm, flushed.committed.trans
      (by rw [Window.after, List.append_nil, follows.committed]), flushed.unsynced⟩

/-- A store in the empty directory `flows`. -/
def fresh : FileStore := { path := join "flows" fileName, database := {}, length := 0 }

/-- Two puts, the second only once its commit does not fail anymore, and a flush that fails. -/
def troubled : List (Trouble × Request) :=
  let fails (c : DatabaseCall) : Trouble := fun c' => if c' = c then some (.failed "disk full") else none
  [(fun _ => none, .put [1] [10]), (fails .commit, .put [2] [20]), (fails .begin, .put [2] [20]),
    (fun _ => none, .put [2] [20]), (fails .commit, .flush)]

theorem durability_window_troubled :
    openAt "flows" .empty = .ok fresh ∧
      Window.Of ⟨[], [([1], [10]), ([2], [20])]⟩ .empty (fresh.serveAll troubled) ∧
      ∃ again, openAt "flows" (.closed (fresh.serveAll troubled).crash) = .ok again ∧
        Store.contents again = .ok .empty := by
  have opened : openAt "flows" .empty = .ok fresh := rfl
  obtain ⟨follows, -, lost, -⟩ := durability_window opened troubled
  exact ⟨opened, follows, lost⟩

end FlowTraffic.FileStore
