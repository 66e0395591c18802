import FlowTraffic.Proofs.Receiver.Recording

/-!
# The keys of a recording

The payloads that get into a store have the keys 1, 2, 3 and so on without a gap, whatever failed in between
(`persist_consecutive`). A recording begins with the key 1 whatever the store holds. So packets take the
places of entries that an earlier recording left under these keys, and nothing else is lost
(`Record.Run.overlays`).
-/

namespace FlowTraffic

/-! ## Payloads over the entries of a table -/

namespace Table

/-- The first keys of a recording, in their order. -/
def firstKeys (n : Nat) : List Bytes :=
  (List.range n).map fun i => sequenceKey (UInt32.ofNat (i + 1))

/-- Payloads lie over what a table held: they are there under the first keys, in their order, and every
other key has what it had. -/
structure Overlaid (before : Table) (payloads : List Bytes) (after : Table) : Prop where
  new : after.entries.filter (fun e => e.1 ∈ firstKeys payloads.length) = numbered payloads
  old : after.entries.filter (fun e => e.1 ∉ firstKeys payloads.length) =
    before.entries.filter (fun e => e.1 ∉ firstKeys payloads.length)

theorem keys_numbered (payloads : List Bytes) :
    (numbered payloads).map (·.1) = firstKeys payloads.length := by
  rw [numbered, firstKeys, List.range_eq_range', ← List.zipIdx_map_snd 0 payloads, List.map_map,
    List.map_map]
  rfl

theorem sequenceKey_inj {m n : Nat} (hm : m < UInt32.size) (hn : n < UInt32.size) :
    sequenceKey (UInt32.ofNat m) = sequenceKey (UInt32.ofNat n) ↔ m = n := by
  refine ⟨fun same => ?_, fun same => by rw [same]⟩
  rcases Nat.lt_trichotomy m n with h | h | h
  · exact absurd (compare_sequenceKey_lt h hn) (same ▸ compare_self_ne_lt _)
  · exact h
  · exact absurd (compare_sequenceKey_lt h hm) (same ▸ compare_self_ne_lt _)

theorem mem_firstKeys_iff {i n : Nat} (hi : i + 1 < UInt32.size) (hn : n < UInt32.size) :
    sequenceKey (UInt32.ofNat (i + 1)) ∈ firstKeys n ↔ i < n := by
  rw [firstKeys, List.mem_map]
  constructor
  · rintro ⟨j, hj, same⟩
    have hlt := List.mem_range.1 hj
    have hkeys := (sequenceKey_inj (by omega) hi).1 same
    omega
  · exact fun h => ⟨i, List.mem_range.2 h, rfl⟩

section

variable {before : Table} {payloads : List Bytes}

theorem mem_putAll_numbered_iff (fits : payloads.length < UInt32.size) {e : Bytes × Bytes} :
    e ∈ (before.putAll (numbered payloads)).entries ↔
      e ∈ numbered payloads ∨ e.1 ∉ firstKeys payloads.length ∧ e ∈ before.entries := by
  rw [mem_putAll_iff (ascending_numbered fits), keys_numbered]

theorem overlaid_putAll (before : Table) (fits : payloads.length < UInt32.size) :
    Overlaid before payloads (before.putAll (numbered payloads)) := by
  have hnew := filter_putAll (t := before) (ascending_numbered fits)
  have hold := filter_not_putAll (t := before) (ascending_numbered fits)
  rw [keys_numbered] at hnew hold
  exact ⟨hnew, hold⟩

theorem Overlaid.size_eq {after : Table} (h : Overlaid before payloads after) :
    after.size = payloads.length +
      (before.entries.filter fun e => e.1 ∉ firstKeys payloads.length).length := by
  have hparts := List.length_eq_length_filter_add (l := after.entries)
    fun e => decide (e.1 ∈ firstKeys payloads.length)
  simp only [← decide_not] at hparts
  rw [OrderedMap.size, hparts, h.new, h.old, length_numbered]

theorem keeps_all_iff (fits : payloads.length < UInt32.size) :
    ((∀ e ∈ before.entries, e ∈ (before.putAll (numbered payloads)).entries) ∧
        (before.putAll (numbered payloads)).size = before.size + payloads.length) ↔
      ∀ e ∈ before.entries, e.1 ∉ firstKeys payloads.length := by
  rw [(overlaid_putAll before fits).size_eq, Nat.add_comm before.size, Nat.add_left_cancel_iff]
  constructor
  · rintro ⟨-, hsize⟩ e he
    have hall := List.length_filter_eq_length_iff.1 hsize e he
    exact of_decide_eq_true hall
  · intro free
    refine ⟨fun e he => (mem_putAll_numbered_iff fits).2 (.inr ⟨free e he, he⟩), ?_⟩
    exact List.length_filter_eq_length_iff.2 fun e he => decide_eq_true (free e he)

theorem entries_eq_append_iff (fits : payloads.length < UInt32.size) :
    (before.putAll (numbered payloads)).entries = before.entries ++ numbered payloads ↔
      payloads = [] ∨ ∀ e ∈ before.entries, e.1 < sequenceKey 1 := by
  constructor
  · intro hentries
    cases payloads with
    | nil => exact .inl rfl
    | cons x xs =>
      right
      intro e he
      have hfirst : (sequenceKey 1, x) ∈ numbered (x :: xs) := mem_numbered_iff.2 ⟨0, rfl, rfl⟩
      have hascending := (before.putAll (numbered (x :: xs))).ascending
      rw [hentries] at hascending
      exact Bytes.compare_eq_lt_iff.1 ((List.pairwise_append.1 hascending).2.2 e he _ hfirst)
  · rintro (rfl | ahead)
    · exact (List.append_nil _).symm
    · refine entries_putAll_of_last (List.pairwise_append.2 ⟨before.ascending, ascending_numbered fits, ?_⟩)
      intro e he a ha
      have hone := Bytes.compare_eq_lt_iff.2 (ahead e he)
      obtain ⟨i, hi, hkey⟩ := mem_numbered_iff.1 ha
      obtain ⟨hlt, -⟩ := List.getElem?_eq_some_iff.1 hi
      rw [hkey]
      cases i with
      | zero => exact hone
      | succ i =>
        exact Std.TransCmp.lt_trans hone (compare_sequenceKey_lt (m := 1) (by omega) (by omega))

theorem entries_eq_of_numbered (fits : payloads.length < UInt32.size) {earlier : List Bytes}
    (recorded : before.entries = numbered earlier) (fits' : earlier.length < UInt32.size) :
    (before.putAll (numbered payloads)).entries =
      numbered (payloads ++ earlier.drop payloads.length) := by
  have hlength : (payloads ++ earlier.drop payloads.length).length < UInt32.size := by
    rw [List.length_append, List.length_drop]
    omega
  refine OrderedMap.eq_of_ascending (before.putAll (numbered payloads)).ascending
    (ascending_numbered hlength) fun e => ?_
  rw [mem_putAll_numbered_iff fits, recorded, mem_numbered_iff, mem_numbered_iff, mem_numbered_iff]
  constructor
  · rintro (⟨i, hi, hkey⟩ | ⟨hfree, i, hi, hkey⟩)
    · obtain ⟨hlt, -⟩ := List.getElem?_eq_some_iff.1 hi
      exact ⟨i, by rw [List.getElem?_append_left hlt, hi], hkey⟩
    · obtain ⟨hlt, -⟩ := List.getElem?_eq_some_iff.1 hi
      rw [hkey, mem_firstKeys_iff (by omega) fits, Nat.not_lt] at hfree
      refine ⟨i, ?_, hkey⟩
      rw [List.getElem?_append_right hfree, List.getElem?_drop, Nat.add_sub_cancel' hfree, hi]
  · rintro ⟨i, hi, hkey⟩
    by_cases hlt : i < payloads.length
    · exact .inl ⟨i, by rwa [List.getElem?_append_left hlt] at hi, hkey⟩
    · have hge := Nat.not_lt.1 hlt
      rw [List.getElem?_append_right hge, List.getElem?_drop, Nat.add_sub_cancel' hge] at hi
      obtain ⟨hin, -⟩ := List.getElem?_eq_some_iff.1 hi
      refine .inr ⟨?_, i, hi, hkey⟩
      rw [hkey, mem_firstKeys_iff (by omega) fits]
      exact hlt

end

end Table

namespace Receiver

open Table (Overlaid firstKeys numbered sequenceKey)

variable {σ : Type} [Store σ] {store : σ}

/-! ## Into an empty store -/

theorem Record.Run.persist_eq {shutdown : Shutdown.Watcher} {r : Record.Run σ}
    (ready : Record.prepare shutdown store = .ok r) (moves : List Record.Move)
    (finished : (r.steps moves).isFinished = true) :
    (r.steps moves).flushed = some (persist store (packetsAmong (r.reads moves))).1 ∧
      (r.steps moves).persister = (persist store (packetsAmong (r.reads moves))).2 ∧
      (r.steps moves).intake.validator.counts = .ofAll (r.reads moves) := by
  obtain rfl := Record.Run.eq_of_prepare ready
  obtain ⟨result, hflushed, hcounts, hpersist⟩ :=
    ((Record.Run.Sound.start store).steps moves).of_isFinished finished
  rw [hpersist]
  exact ⟨hflushed, rfl, hcounts⟩

/-- **Keys without a gap.** Whatever puts of an atomic store fail, the payloads whose put succeeds are all
that the store has afterwards, in their order under the keys 1, 2, 3 and so on, and each other payload is
counted as failed. If the flush at the end fails, so does the persister, and the recording it works for. -/
theorem persist_consecutive (atomic : Atomic (Keeps (σ := σ))) (empty : Keeps store .empty)
    {payloads : List Bytes} (fits : payloads.length < UInt32.size) :
    let start : Persister σ := { store }
    let ended := persist store payloads
    (∃ t : Table, Keeps ended.2.store t ∧ t.entries = numbered (start.taken payloads)) ∧
      ended.2.persisted = (start.taken payloads).length ∧
      Store.size ended.2.store = ended.2.persisted ∧
      ended.2.failed + ended.2.persisted = payloads.length ∧
      ∀ why, (Store.flush (start.putAll payloads).store).1 = .error why →
        ended.1 = .error why ∧
          ∀ (shutdown : Shutdown.Watcher) (r : Record.Run σ) (moves : List Record.Move),
            Record.prepare shutdown store = .ok r → (r.steps moves).isFinished = true →
            packetsAmong (r.reads moves) = payloads →
            (r.steps moves).result = .error (.store why) := by
  intro start ended
  have hkept : ended.2.Kept Keeps .empty (start.taken payloads) := persist_kept atomic empty payloads
  have hentries := Table.entries_putAll_numbered hkept.fits
  have hsize : Store.size ended.2.store = (start.taken payloads).length := by
    rw [hkept.stored.size, OrderedMap.size, hentries, Table.length_numbered]
  refine ⟨⟨_, hkept.stored, hentries⟩, hkept.persisted, hsize.trans hkept.persisted.symm, ?_, ?_⟩
  · have room : ([] : List Bytes).length + payloads.length < UInt32.size := by simpa using fits
    have hall := (Persister.Kept.start empty).failed_putAll atomic room
    rw [hkept.persisted]
    exact hall.trans (Nat.zero_add _)
  · intro why hflush
    refine ⟨hflush, fun shutdown r moves ready finished hreads => ?_⟩
    obtain ⟨hflushed, -, -⟩ := Record.Run.persist_eq ready moves finished
    have hended : ended.1 = .error why := hflush
    rw [hreads, show (persist store payloads).1 = .error why from hended] at hflushed
    rw [Record.Run.result, hflushed]
    rfl

/-- Five packets. The second and the fourth put fail, and so does the flush. -/
def five : List Bytes := [[0, 9, 1], [0, 9, 2], [0, 9, 3], [0, 9, 4], [0, 9, 5]]

def faulty : Flaky Table where
  inner := .empty
  error := .io "faulty" (.custom "disk full")
  failPut n := n == 2 || n == 4
  failFlush := true

theorem persist_consecutive_faulty :
    Keeps faulty .empty ∧ five.length < UInt32.size ∧
      (∃ t : Table, Keeps (persist faulty five).2.store t ∧
        t.entries = [([0, 0, 0, 1], [0, 9, 1]), ([0, 0, 0, 2], [0, 9, 3]), ([0, 0, 0, 3], [0, 9, 5])]) ∧
      (persist faulty five).2.persisted = 3 ∧ (persist faulty five).2.failed = 2 ∧
      (persist faulty five).1 = .error (.io "faulty" (.custom "disk full")) := by
  have empty : Keeps faulty .empty := ⟨rfl, rfl⟩
  have fits : five.length < UInt32.size := by decide
  obtain ⟨⟨t, hkeeps, hentries⟩, hpersisted, -, hall, hflush⟩ :=
    persist_consecutive Table.atomic.flaky empty fits
  refine ⟨empty, fits, ⟨t, hkeeps, hentries.trans ?_⟩, hpersisted, ?_, (hflush _ ?_).1⟩
  · decide +kernel
  · decide +kernel
  · decide +kernel

/-! ## Over what a store held -/

namespace Record.Run

/-- **Recording over an earlier recording.** A recording begins with the key 1 whatever the store holds. If no
put fails, the packets are there afterwards under the first keys, in the order in which they were read, and
every other key has what it had. So nothing is lost exactly if none of these keys was in use, and the packets
come behind all that was there exactly if that comes before the key 1. Of an earlier recording only what is
longer than the new one is left. -/
theorem overlays (atomic : Atomic (Keeps (σ := σ))) {before : Table} (holds : Keeps store before)
    {shutdown : Shutdown.Watcher} {r : Run σ} (ready : prepare shutdown store = .ok r)
    (moves : List Move) (finished : (r.steps moves).isFinished = true)
    (unfailing : (r.steps moves).persister.failed = 0) :
    let ended := r.steps moves
    let packets := (packetsAmong (r.reads moves)).take 0xFFFFFFFF
    ∃ after : Table, Keeps ended.persister.store after ∧ ended.persister.persisted = packets.length ∧
      Overlaid before packets after ∧
      ((∀ e ∈ before.entries, e ∈ after.entries) ∧ after.size = before.size + packets.length ↔
        ∀ e ∈ before.entries, e.1 ∉ firstKeys packets.length) ∧
      (after.entries = before.entries ++ numbered packets ↔
        packets = [] ∨ ∀ e ∈ before.entries, e.1 < sequenceKey 1) ∧
      (∀ earlier : List Bytes, earlier.length < UInt32.size → before.entries = numbered earlier →
        after.entries = numbered (packets ++ earlier.drop packets.length)) ∧
      ∃ flushed, ended.flushed = some flushed ∧ ended.result = (flushed.mapError .store).map fun _ =>
        ⟨ended.persister.store, .ofAll (r.reads moves), packets.length⟩ := by
  intro ended packets
  obtain ⟨hflushed, hpersister, hcounts⟩ := persist_eq ready moves finished
  have htaken : ({ store } : Persister σ).taken (packetsAmong (r.reads moves)) = packets :=
    (Persister.Kept.start holds).taken_eq atomic (by rw [hpersister] at unfailing; exact unfailing)
  have hkept := persist_kept atomic holds (packetsAmong (r.reads moves))
  rw [htaken, ← hpersister] at hkept
  refine ⟨before.putAll (numbered packets), hkept.stored, hkept.persisted,
    Table.overlaid_putAll before hkept.fits, Table.keeps_all_iff hkept.fits,
    Table.entries_eq_append_iff hkept.fits,
    fun earlier fits recorded => Table.entries_eq_of_numbered hkept.fits recorded fits,
    _, hflushed, ?_⟩
  rw [result, hflushed, hcounts, hkept.persisted]
  cases (persist store (packetsAmong (r.reads moves))).1 <;> rfl

def recorded : FileStore where
  path := "flows.redb"
  database := ⟨.ofList (numbered [[0, 9, 1], [0, 9, 2], [0, 9, 3]]),
    .ofList (numbered [[0, 9, 1], [0, 9, 2], [0, 9, 3]])⟩
  length := 3

/-- Two packets and a datagram that is none in between. -/
def twoMoves : List Move :=
  [[0, 9, 7], [0, 5], [0, 9, 8]].flatMap datagramMoves ++ closingMoves

theorem overlays_recorded :
    Keeps recorded recorded.database.committed ∧
      prepare {} recorded = .ok { persister := { store := recorded } } ∧
      (steps { persister := { store := recorded } } twoMoves).isFinished = true ∧
      (steps { persister := { store := recorded } } twoMoves).persister.failed = 0 ∧
      ∃ after : Table,
        Keeps (steps { persister := { store := recorded } } twoMoves).persister.store after ∧
          after.entries = numbered [[0, 9, 7], [0, 9, 8], [0, 9, 3]] := by
  have holds : Keeps recorded recorded.database.committed := ⟨rfl, by decide +kernel⟩
  have ready : prepare {} recorded = .ok { persister := { store := recorded } } := rfl
  have finished : (steps { persister := { store := recorded } } twoMoves).isFinished = true := by
    decide +kernel
  have unfailing : (steps { persister := { store := recorded } } twoMoves).persister.failed = 0 := by
    decide +kernel
  obtain ⟨after, hkeeps, -, -, -, -, hearlier, -⟩ :=
    overlays FileStore.atomic holds ready twoMoves finished unfailing
  refine ⟨holds, ready, finished, unfailing, after, hkeeps, (hearlier [[0, 9, 1], [0, 9, 2], [0, 9, 3]]
    (by decide) (by decide +kernel)).trans ?_⟩
  decide +kernel

/-- Two of three recorded packets are lost to the two that are recorded over them. -/
theorem overlays_loses :
    ∃ recording, prepare {} recorded = .ok { persister := { store := recorded } } ∧
      (steps { persister := { store := recorded } } twoMoves).persister.failed = 0 ∧
      (steps { persister := { store := recorded } } twoMoves).result = .ok recording ∧
      recording.persisted = 2 ∧
      ¬ (∀ e ∈ recorded.database.committed.entries, e ∈ recording.store.database.committed.entries) ∧
      Store.size recording.store ≠ Store.size recorded + recording.persisted ∧
      recording.store.database.committed.values ≠
        recorded.database.committed.values ++ [[0, 9, 7], [0, 9, 8]] := by
  refine ⟨_, rfl, ?_, rfl, ?_, ?_, ?_, ?_⟩
  · decide +kernel
  · decide +kernel
  · decide +kernel
  · decide +kernel
  · decide +kernel

end Record.Run

end Receiver

end FlowTraffic
