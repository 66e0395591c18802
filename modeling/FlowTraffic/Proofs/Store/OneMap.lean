import Mathlib.Data.List.Dedup
import Mathlib.Data.List.Infix
import Mathlib.Data.List.Perm.Lattice
import FlowTraffic.Proofs.Bytes.Order
import FlowTraffic.Proofs.Store.Reliable

/-!
# Two stores, one map

A store in memory and a store in a directory are told apart by nothing that is asked of them: each
answer is that of the finite map made by the puts so far. A store in a directory keeps its size beside
the table, and it may be closed and opened again at any time. What carries the proof is that both go on
keeping the same table (`Keeps.performAll`).
-/

namespace FlowTraffic

/-- What can be asked of a store. A scan has enough at the first entry where `breaks` holds of the
entries seen so far, that one included. -/
inductive StoreCall
  | put (key value : Bytes)
  | scan (breaks : List (Bytes × Bytes) → Bool)
  | size
  | isEmpty
  | flush
  | reopen

inductive StoreReply
  | done
  | seen (entries : List (Bytes × Bytes))
  | size (n : Nat)
  | isEmpty (empty : Bool)

/-- Keeps what it sees, until `breaks` holds of that. -/
def Visitor.keepUntil (breaks : List (Bytes × Bytes) → Bool) : Visitor (List (Bytes × Bytes)) :=
  fun key value seen =>
    let seen := seen ++ [(key, value)]
    if breaks seen then .done seen else .yield seen

namespace Store

section

variable {σ : Type} [Store σ] (reopen : σ → Except StoreError σ)

/-- Puts a call to a store. It is given how the store is closed and opened again. -/
def perform (s : σ) : StoreCall → Except StoreError StoreReply × σ
  | .put key value =>
    let (result, s) := Store.put s key value
    (result.map fun _ => .done, s)
  | .scan breaks => ((Store.scan s (.keepUntil breaks) []).map .seen, s)
  | .size => (.ok (.size (Store.size s)), s)
  | .isEmpty => (.ok (.isEmpty (Store.isEmpty s)), s)
  | .flush =>
    let (result, s) := Store.flush s
    (result.map fun _ => .done, s)
  | .reopen =>
    match reopen s with
    | .ok s => (.ok .done, s)
    | .error e => (.error e, s)

def performAll (s : σ) (calls : List StoreCall) : σ :=
  calls.foldl (fun s call => (perform reopen s call).2) s

end

end Store

/-- There is nothing to close in memory. -/
def Table.reopen (t : Table) : Except StoreError Table := .ok t

def FileStore.reopen (dir : String) (s : FileStore) : Except StoreError FileStore :=
  FileStore.openAt dir (.closed s.close)

/-! ## The finite map -/

/-- The puts of a row of calls, in their order. -/
def putsIn : List StoreCall → List (Bytes × Bytes)
  | [] => []
  | .put key value :: calls => (key, value) :: putsIn calls
  | _ :: calls => putsIn calls

/-- Entries in strictly ascending order of their keys, each with the value of its latest put. -/
structure Lists (puts entries : List (Bytes × Bytes)) : Prop where
  ascending : entries.Pairwise fun a b => a.1 < b.1
  latest : ∀ key value : Bytes, (key, value) ∈ entries ↔ puts.reverse.lookup key = some value

/-- The entries from the front, up to the first at which a visitor breaks, that one included. -/
structure Sees (breaks : List (Bytes × Bytes) → Bool) (entries seen : List (Bytes × Bytes)) :
    Prop where
  front : seen <+: entries
  goesOn : ∀ p : List (Bytes × Bytes), p <+: seen → p ≠ [] → p ≠ seen → breaks p = false
  stops : seen = entries ∨ seen ≠ [] ∧ breaks seen = true

/-- What a map answers after some puts. -/
def Replies (puts : List (Bytes × Bytes)) : StoreCall → StoreReply → Prop
  | .scan breaks, reply =>
    ∃ entries seen, Lists puts entries ∧ Sees breaks entries seen ∧ reply = .seen seen
  | .size, reply => reply = .size (puts.map (·.1)).dedup.length
  | .isEmpty, reply => reply = .isEmpty puts.isEmpty
  | _, reply => reply = .done

theorem putsIn_append (before after : List StoreCall) :
    putsIn (before ++ after) = putsIn before ++ putsIn after := by
  induction before with
  | nil => rfl
  | cons call before ih => cases call <;> simp [putsIn, ih]

namespace Lists

variable {puts entries : List (Bytes × Bytes)}

theorem nil : Lists [] [] := ⟨.nil, by simp⟩

theorem put {t : Table} (h : Lists puts t.entries) (key value : Bytes) :
    Lists (puts ++ [(key, value)]) (t.put key value).entries where
  ascending := (t.put key value).ascending.imp Bytes.compare_eq_lt_iff.1
  latest k v := by
    rw [OrderedMap.mem_put_iff, h.latest, List.reverse_append, List.reverse_singleton,
      List.singleton_append, List.lookup_cons]
    by_cases same : k = key
    · subst same
      simp [eq_comm]
    · rw [beq_false_of_ne same]
      simp [same]

theorem mem_keys_iff (h : Lists puts entries) (key : Bytes) :
    key ∈ entries.map (·.1) ↔ key ∈ puts.map (·.1) := by
  have hlookup : key ∈ entries.map (·.1) ↔ (puts.reverse.lookup key).isSome := by
    simp only [List.mem_map, Prod.exists, exists_and_right, exists_eq_right, h.latest,
      Option.isSome_iff_exists]
  rw [hlookup, List.lookup_isSome_iff]
  simp

theorem nodup_keys (h : Lists puts entries) : (entries.map (·.1)).Nodup := by
  rw [List.Nodup, List.pairwise_map]
  refine h.ascending.imp ?_
  intro a b hlt same
  rw [same] at hlt
  exact List.lt_irrefl _ hlt

theorem length_eq (h : Lists puts entries) :
    entries.length = (puts.map (·.1)).dedup.length := by
  have hperm : (entries.map (·.1)).Perm (puts.map (·.1)).dedup :=
    (List.perm_ext_iff_of_nodup h.nodup_keys (List.nodup_dedup _)).2 fun key => by
      rw [h.mem_keys_iff, List.mem_dedup]
  simpa using hperm.length_eq

theorem isEmpty_eq (h : Lists puts entries) : (entries.length == 0) = puts.isEmpty := by
  rw [h.length_eq]
  cases puts with
  | nil => rfl
  | cons e puts =>
    simp

end Lists

/-! ## What a scan sees -/

theorem Sees.visit {breaks : List (Bytes × Bytes) → Bool} (entries seen : List (Bytes × Bytes))
    (goesOn : ∀ p : List (Bytes × Bytes), p <+: seen → p ≠ [] → breaks p = false) :
    Sees breaks (seen ++ entries) (Table.visit (.keepUntil breaks) entries seen) := by
  induction entries generalizing seen with
  | nil =>
    rw [List.append_nil]
    exact ⟨List.prefix_rfl, fun q hq hne _ => goesOn q hq hne, .inl rfl⟩
  | cons e entries ih =>
    have hsplit : seen ++ e :: entries = (seen ++ [e]) ++ entries := by simp
    unfold Table.visit
    simp only [Visitor.keepUntil]
    by_cases hbreak : breaks (seen ++ [e]) = true
    · rw [if_pos hbreak]
      refine ⟨hsplit ▸ List.prefix_append _ _, ?_, .inr ⟨by simp, hbreak⟩⟩
      intro p hp hne hproper
      rcases List.prefix_concat_iff.1 hp with h | h
      · exact absurd h hproper
      · exact goesOn p h hne
    · rw [if_neg hbreak, hsplit]
      refine ih (seen ++ [e]) ?_
      intro p hp hne
      rcases List.prefix_concat_iff.1 hp with rfl | h
      · exact Bool.eq_false_iff.2 hbreak
      · exact goesOn p h hne

theorem Sees.scan (breaks : List (Bytes × Bytes) → Bool) (t : Table) :
    Sees breaks t.entries (t.scan (.keepUntil breaks) []) :=
  Sees.visit t.entries [] fun _ hp hne => absurd (List.prefix_nil.1 hp) hne

/-! ## What a store that keeps a table answers -/

namespace Table

/-- What a table answers. -/
def answer (t : Table) : StoreCall → StoreReply
  | .scan breaks => .seen (t.scan (.keepUntil breaks) [])
  | .size => .size t.size
  | .isEmpty => .isEmpty (t.size == 0)
  | _ => .done

def after (t : Table) : StoreCall → Table
  | .put key value => t.put key value
  | _ => t

theorem replies_answer {puts : List (Bytes × Bytes)} {t : Table} (h : Lists puts t.entries)
    (call : StoreCall) : Replies puts call (t.answer call) := by
  cases call with
  | scan breaks => exact ⟨t.entries, _, h, Sees.scan breaks t, rfl⟩
  | size => exact congrArg StoreReply.size h.length_eq
  | isEmpty => exact congrArg StoreReply.isEmpty h.isEmpty_eq
  | put key value => rfl
  | flush => rfl
  | reopen => rfl

theorem lists_after {puts : List (Bytes × Bytes)} {t : Table} (h : Lists puts t.entries)
    (call : StoreCall) : Lists (puts ++ putsIn [call]) (t.after call).entries := by
  cases call with
  | put key value => exact h.put key value
  | scan breaks => simpa [putsIn, after] using h
  | size => simpa [putsIn, after] using h
  | isEmpty => simpa [putsIn, after] using h
  | flush => simpa [putsIn, after] using h
  | reopen => simpa [putsIn, after] using h

theorem lists_foldl_after (calls : List StoreCall) :
    Lists (putsIn calls) (calls.foldl after OrderedMap.empty).entries := by
  induction calls using List.reverseRecOn with
  | nil => exact Lists.nil
  | append_singleton calls call ih =>
    rw [List.foldl_append, putsIn_append]
    exact lists_after ih call

end Table

/-- Every call that changes a store keeps to the table, closing and opening included. -/
structure Faithful {σ : Type} [Store σ] (reopen : σ → Except StoreError σ) : Prop where
  put : ∀ {s : σ} {t : Table}, Keeps s t → ∀ key value : Bytes,
    (Store.put s key value).1 = .ok () ∧ Keeps (Store.put s key value).2 (t.put key value)
  flush : ∀ {s : σ} {t : Table}, Keeps s t →
    (Store.flush s).1 = .ok () ∧ Keeps (Store.flush s).2 t
  reopen : ∀ {s : σ} {t : Table}, Keeps s t → ∃ reopened, reopen s = .ok reopened ∧ Keeps reopened t

namespace Keeps

variable {σ : Type} [Store σ] {reopen : σ → Except StoreError σ} {s : σ} {t : Table}

theorem perform (faithful : Faithful reopen) (h : Keeps s t) (call : StoreCall) :
    (Store.perform reopen s call).1 = .ok (t.answer call) ∧
      Keeps (Store.perform reopen s call).2 (t.after call) := by
  cases call with
  | put key value =>
    obtain ⟨hdone, hkeeps⟩ := faithful.put h key value
    refine ⟨?_, hkeeps⟩
    simp only [Store.perform, hdone]
    rfl
  | scan breaks =>
    refine ⟨?_, h⟩
    simp only [Store.perform, Store.scan, h.contents]
    rfl
  | size =>
    refine ⟨?_, h⟩
    simp only [Store.perform, h.size]
    rfl
  | isEmpty =>
    refine ⟨?_, h⟩
    simp only [Store.perform, Store.isEmpty, h.size]
    rfl
  | flush =>
    obtain ⟨hdone, hkeeps⟩ := faithful.flush h
    refine ⟨?_, hkeeps⟩
    simp only [Store.perform, hdone]
    rfl
  | reopen =>
    obtain ⟨reopened, hopen, hkeeps⟩ := faithful.reopen h
    simp only [Store.perform, hopen]
    exact ⟨rfl, hkeeps⟩

theorem performAll (faithful : Faithful reopen) (h : Keeps s t) (calls : List StoreCall) :
    Keeps (Store.performAll reopen s calls) (calls.foldl Table.after t) := by
  induction calls generalizing s t with
  | nil => exact h
  | cons call calls ih => exact ih (h.perform faithful call).2

end Keeps

theorem Table.faithful : Faithful Table.reopen where
  put h key value := by
    obtain ⟨⟨⟩, -⟩ := h
    exact ⟨rfl, rfl, rfl⟩
  flush h := ⟨rfl, h⟩
  reopen h := ⟨_, rfl, h⟩

namespace FileStore

theorem faithful (dir : String) : Faithful (FileStore.reopen dir) where
  put {s t} h key value := by
    obtain ⟨⟨⟩, -⟩ := h
    obtain ⟨hdone, hcontents⟩ := s.contents_put key value
    exact ⟨hdone, hcontents, rfl⟩
  flush {s t} h := by
    obtain ⟨⟨⟩, hsize⟩ := h
    obtain ⟨hdone, hcontents⟩ := s.contents_flush
    exact ⟨hdone, hcontents, s.size_flush.trans hsize⟩
  reopen {s t} h := by
    obtain ⟨⟨⟩, -⟩ := h
    obtain ⟨reopened, hopen, hcontents⟩ := s.contents_reopen dir
    refine ⟨reopened, hopen, hcontents, ?_⟩
    cases hopen
    rfl

/-- **A store in a directory and a table in memory answer as one finite map.** After any row of calls,
with the directory closed and opened again at any time, both give the same answer to the next call,
and it is the answer of the map made by the puts. Both then have the same contents, which the puts
alone decide. -/
theorem same_map_as_memory (dir : String) (before : List StoreCall) :
    ∃ s t, openAt dir .empty = .ok s ∧ Lists (putsIn before) (OrderedMap.entries t) ∧
      Store.contents (Store.performAll (FileStore.reopen dir) s before) = .ok t ∧
      Store.performAll Table.reopen OrderedMap.empty before = t ∧
      ∀ call, ∃ reply, Replies (putsIn before) call reply ∧
        (Store.perform (FileStore.reopen dir)
          (Store.performAll (FileStore.reopen dir) s before) call).1 = .ok reply ∧
        (Store.perform Table.reopen t call).1 = .ok reply := by
  have hlists := Table.lists_foldl_after before
  have hfile := Keeps.performAll (faithful dir)
    (s := (⟨join dir fileName, {}, 0, 0⟩ : FileStore)) ⟨rfl, rfl⟩ before
  have hmemory := Keeps.performAll Table.faithful
    (s := (OrderedMap.empty : Table)) ⟨rfl, rfl⟩ before
  refine ⟨_, _, rfl, hlists, hfile.contents, Except.ok.inj hmemory.contents, fun call => ?_⟩
  refine ⟨_, Table.replies_answer hlists call, (hfile.perform (faithful dir) call).1, ?_⟩
  exact (Keeps.perform Table.faithful ⟨rfl, rfl⟩ call).1

end FileStore

end FlowTraffic
