import FlowTraffic.Store.File

/-!
# What stores promise

A store keeps a table if it has its contents and its size. Every store that is used here is atomic: a put
that fails leaves the table as it was. A store is reliable if nothing fails. A table kept in memory is, and
so is a store in a directory as long as its database is: committed entries are there when it is opened again.
-/

namespace FlowTraffic

/-- A store has the contents of a table, and its size. -/
structure Keeps {σ : Type} [Store σ] (s : σ) (t : Table) : Prop where
  contents : Store.contents s = .ok t
  size : Store.size s = t.size

/-! ## Stores that can fail -/

/-- What relates stores to tables: a put does to the table what it says, or fails and changes nothing. A
flush changes nothing. -/
structure Atomic {σ : Type} [Store σ] (R : σ → Table → Prop) : Prop where
  put : ∀ {s : σ} {t : Table}, R s t → ∀ key value : Bytes,
    (Store.put s key value).1 = .ok () ∧ R (Store.put s key value).2 (t.put key value) ∨
      (∃ why, (Store.put s key value).1 = .error why) ∧ R (Store.put s key value).2 t
  flush : ∀ {s : σ} {t : Table}, R s t → R (Store.flush s).2 t

theorem Table.atomic : Atomic (Keeps (σ := Table)) where
  put h key value := by
    obtain ⟨⟨⟩, -⟩ := h
    exact .inl ⟨rfl, rfl, rfl⟩
  flush h := h

section

variable {σ : Type} [Store σ]

theorem keeps_flaky_iff {s : Flaky σ} {t : Table} :
    Keeps s t ↔ s.failScan = false ∧ Keeps s.inner t := by
  constructor
  · rintro ⟨hcontents, hsize⟩
    simp only [Store.contents] at hcontents
    split at hcontents
    · cases hcontents
    · rename_i scans
      exact ⟨by simpa using scans, hcontents, hsize⟩
  · rintro ⟨scans, hcontents, hsize⟩
    refine ⟨?_, hsize⟩
    simp only [Store.contents, scans]
    exact hcontents

theorem Atomic.flaky (atomic : Atomic (Keeps (σ := σ))) : Atomic (Keeps (σ := Flaky σ)) where
  put {s t} h key value := by
    obtain ⟨scans, hinner⟩ := keeps_flaky_iff.1 h
    simp only [Store.put]
    split
    · exact .inr ⟨⟨_, rfl⟩, keeps_flaky_iff.2 ⟨scans, hinner⟩⟩
    · exact (atomic.put hinner key value).imp
        (fun ⟨done, kept⟩ => ⟨done, keeps_flaky_iff.2 ⟨scans, kept⟩⟩)
        (fun ⟨failed, kept⟩ => ⟨failed, keeps_flaky_iff.2 ⟨scans, kept⟩⟩)
  flush {s t} h := by
    obtain ⟨scans, hinner⟩ := keeps_flaky_iff.1 h
    simp only [Store.flush]
    split
    · exact h
    · exact keeps_flaky_iff.2 ⟨scans, atomic.flush hinner⟩

end

/-! ## Stores that do not fail -/

/-- Every operation succeeds, and does to the contents what it says. -/
class Reliable (σ : Type) [Store σ] : Prop where
  put_eq : ∀ {s : σ} {t : Table}, Store.contents s = .ok t → ∀ key value : Bytes,
    (Store.put s key value).1 = .ok () ∧
      Store.contents (Store.put s key value).2 = .ok (t.put key value)
  flush_eq : ∀ {s : σ} {t : Table}, Store.contents s = .ok t →
    (Store.flush s).1 = .ok () ∧ Store.contents (Store.flush s).2 = .ok t

theorem Reliable.atomic {σ : Type} [Store σ] [Reliable σ] :
    Atomic fun (s : σ) t => Store.contents s = .ok t where
  put h key value := .inl (put_eq h key value)
  flush h := (flush_eq h).2

instance : Reliable Table where
  put_eq := by
    rintro s t ⟨⟩ key value
    exact ⟨rfl, rfl⟩
  flush_eq h := ⟨rfl, h⟩

namespace FileStore

theorem contents_put (s : FileStore) (key value : Bytes) :
    (Store.put s key value).1 = .ok () ∧
      Store.contents (Store.put s key value).2 = .ok (s.database.committed.put key value) := ⟨rfl, rfl⟩

theorem contents_flush (s : FileStore) :
    (Store.flush s).1 = .ok () ∧ Store.contents (Store.flush s).2 = .ok s.database.committed := by
  obtain ⟨path, database, length, unsynced⟩ := s
  cases unsynced with
  | zero => exact ⟨rfl, rfl⟩
  | succ unsynced => exact ⟨rfl, rfl⟩

theorem size_flush (s : FileStore) : Store.size (Store.flush s).2 = Store.size s := by
  -- nothing is committed if the latest commit was durable
  obtain ⟨path, database, length, unsynced⟩ := s
  cases unsynced with
  | zero => rfl
  | succ unsynced => rfl

instance : Reliable FileStore where
  put_eq := by
    rintro s t ⟨⟩ key value
    exact s.contents_put key value
  flush_eq := by
    rintro s t ⟨⟩
    exact s.contents_flush

theorem atomic : Atomic (Keeps (σ := FileStore)) where
  put {s t} h key value := by
    obtain ⟨⟨⟩, -⟩ := h
    obtain ⟨hdone, hcontents⟩ := s.contents_put key value
    exact .inl ⟨hdone, hcontents, rfl⟩
  flush {s t} h := by
    obtain ⟨⟨⟩, hsize⟩ := h
    exact ⟨s.contents_flush.2, s.size_flush.trans hsize⟩

theorem contents_reopen (s : FileStore) (dir : String) :
    ∃ reopened, openAt dir (.closed s.close) = .ok reopened ∧
      Store.contents reopened = Store.contents s := ⟨_, rfl, rfl⟩

end FileStore

end FlowTraffic
