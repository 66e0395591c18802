import FlowTraffic.Proofs.Store.Puts
import FlowTraffic.Proofs.Store.Reliable
import FlowTraffic.Receiver.Persister

/-!
# What the persister leaves behind

The persister numbers the payloads that get into the store, and only these, so the next number goes with the
next of them whatever failed in between (`Kept.put`). The keys of larger numbers come later, so in a store
that was empty the payloads have the order in which they were put.
-/

namespace FlowTraffic

/-! ## Numbered payloads -/

namespace Table

theorem compare_sequenceKey_lt {m n : Nat} (h : m < n) (fits : n < UInt32.size) :
    compare (sequenceKey (UInt32.ofNat m)) (sequenceKey (UInt32.ofNat n)) = .lt := by
  have hm : (UInt32.ofNat m).toNat = m := UInt32.toNat_ofNat_of_lt' (Nat.lt_trans h fits)
  have hn : (UInt32.ofNat n).toNat = n := UInt32.toNat_ofNat_of_lt' fits
  rw [sequenceKey, sequenceKey, Bytes.ofWord32, Bytes.ofWord32, hm, hn]
  exact Bytes.compare_ofNat_lt h fits

/-- Payloads under the keys from one on. -/
def numbered (payloads : List Bytes) : List (Bytes × Bytes) :=
  payloads.zipIdx.map fun (payload, i) => (sequenceKey (UInt32.ofNat (i + 1)), payload)

theorem numbered_concat (payloads : List Bytes) (payload : Bytes) :
    numbered (payloads ++ [payload]) =
      numbered payloads ++ [(sequenceKey (UInt32.ofNat (payloads.length + 1)), payload)] := by
  simp [numbered, List.zipIdx_append]

@[simp] theorem length_numbered (payloads : List Bytes) :
    (numbered payloads).length = payloads.length := by
  simp [numbered]

theorem values_numbered (payloads : List Bytes) : (numbered payloads).map (·.2) = payloads := by
  rw [numbered, List.map_map]
  exact List.zipIdx_map_fst 0 payloads

theorem mem_numbered_iff {payloads : List Bytes} {e : Bytes × Bytes} :
    e ∈ numbered payloads ↔
      ∃ i, payloads[i]? = some e.2 ∧ e.1 = sequenceKey (UInt32.ofNat (i + 1)) := by
  rw [numbered, List.mem_map]
  constructor
  · rintro ⟨⟨payload, i⟩, hmem, rfl⟩
    exact ⟨i, List.mem_zipIdx_iff_getElem?.1 hmem, rfl⟩
  · rintro ⟨i, hpayload, hkey⟩
    exact ⟨(e.2, i), List.mem_zipIdx_iff_getElem?.2 hpayload, Prod.ext hkey.symm rfl⟩

theorem ascending_numbered {payloads : List Bytes} (fits : payloads.length < UInt32.size) :
    Ascending (numbered payloads) := by
  rw [Ascending, numbered, List.pairwise_map, List.pairwise_iff_getElem]
  intro i j hi hj hlt
  rw [List.length_zipIdx] at hj
  rw [List.getElem_zipIdx, List.getElem_zipIdx]
  exact compare_sequenceKey_lt (by omega) (by omega)

theorem entries_putAll_numbered {payloads : List Bytes} (fits : payloads.length < UInt32.size) :
    (putAll .empty (numbered payloads)).entries = numbered payloads :=
  entries_putAll_of_last (t := .empty) (ascending_numbered fits)

end Table

/-! ## Putting -/

namespace Receiver

variable {σ : Type} [Store σ] {R : σ → Table → Prop} {before : Table} {p : Persister σ} {store : σ}
  {kept : List Bytes}

namespace Persister

/-- Whether the next payload gets into the store: there is a key for it, and its put succeeds. -/
def takes (p : Persister σ) (payload : Bytes) : Bool :=
  !p.isExhausted && (Store.put p.store (Table.sequenceKey p.nextKey) payload).1.toBool

/-- The payloads that get into the store, in their order. -/
def taken (p : Persister σ) : List Bytes → List Bytes
  | [] => []
  | payload :: payloads =>
    (if p.takes payload then [payload] else []) ++ (p.put payload).taken payloads

/-! ### One put -/

theorem put_of_isExhausted (h : p.isExhausted = true) (payload : Bytes) : p.put payload = p := by
  rw [put, if_pos h]

section

variable {payload : Bytes}

theorem put_of_ok (spare : p.isExhausted = false)
    (done : (Store.put p.store (Table.sequenceKey p.nextKey) payload).1 = .ok ()) :
    p.put payload =
      let store := (Store.put p.store (Table.sequenceKey p.nextKey) payload).2
      if p.nextKey = 0xFFFFFFFF then
        { p with store, persisted := p.persisted + 1, isExhausted := true }
      else { p with store, persisted := p.persisted + 1, nextKey := p.nextKey + 1 } := by
  have hstore : Store.put p.store (Table.sequenceKey p.nextKey) payload =
      (.ok (), (Store.put p.store (Table.sequenceKey p.nextKey) payload).2) := Prod.ext done rfl
  rw [put, if_neg (by simp [spare]), hstore]

theorem put_of_error (spare : p.isExhausted = false) {why : StoreError}
    (failed : (Store.put p.store (Table.sequenceKey p.nextKey) payload).1 = .error why) :
    p.put payload =
      { p with
        store := (Store.put p.store (Table.sequenceKey p.nextKey) payload).2
        failed := p.failed + 1 } := by
  have hstore : Store.put p.store (Table.sequenceKey p.nextKey) payload =
      (.error why, (Store.put p.store (Table.sequenceKey p.nextKey) payload).2) := Prod.ext failed rfl
  rw [put, if_neg (by simp [spare]), hstore]

end

theorem failed_le_put (p : Persister σ) (payload : Bytes) : p.failed ≤ (p.put payload).failed := by
  unfold put
  split
  · exact Nat.le_refl _
  · split
    · exact Nat.le_succ _
    · split <;> exact Nat.le_refl _

/-- The persister has put the payloads over what was in the store before. -/
structure Kept (R : σ → Table → Prop) (before : Table) (p : Persister σ) (payloads : List Bytes) :
    Prop where
  stored : R p.store (before.putAll (Table.numbered payloads))
  persisted : p.persisted = payloads.length
  fits : payloads.length < UInt32.size
  spent : p.isExhausted = true ↔ payloads.length + 1 = UInt32.size
  next : p.isExhausted = false → p.nextKey = UInt32.ofNat (payloads.length + 1)

omit [Store σ] in
theorem Kept.start (h : R store before) : Kept R before { store } [] :=
  ⟨h, rfl, by decide, ⟨nofun, fun full => absurd full (by decide)⟩, fun _ => rfl⟩

/-- The cases of a put: the payload gets into the store, the store refuses it, or there is no key for it. -/
inductive Put (R : σ → Table → Prop) (before : Table) (kept : List Bytes) (p : Persister σ)
    (payload : Bytes) : Prop
  | stored (takes : p.takes payload = true) (spare : kept.length + 1 < UInt32.size)
      (after : (p.put payload).Kept R before (kept ++ [payload]))
      (failed : (p.put payload).failed = p.failed)
  | refused {why : StoreError}
      (error : (Store.put p.store (Table.sequenceKey p.nextKey) payload).1 = .error why)
      (takes : p.takes payload = false) (after : (p.put payload).Kept R before kept)
      (failed : (p.put payload).failed = p.failed + 1)
  | keyless (takes : p.takes payload = false) (spent : kept.length + 1 = UInt32.size)
      (same : p.put payload = p)

theorem Kept.put (atomic : Atomic R) (h : p.Kept R before kept) (payload : Bytes) :
    Put R before kept p payload := by
  cases spent : p.isExhausted with
  | true =>
    exact .keyless (by simp [takes, spent]) (h.spent.1 spent) (put_of_isExhausted spent payload)
  | false =>
    have hnext := h.next spent
    have hroom : kept.length + 1 < UInt32.size :=
      Nat.lt_of_le_of_ne h.fits (mt h.spent.2 (by simp [spent]))
    have hkey : p.nextKey.toNat = kept.length + 1 := by
      rw [hnext, UInt32.toNat_ofNat_of_lt' hroom]
    rcases atomic.put h.stored (Table.sequenceKey p.nextKey) payload with
      ⟨done, hstored⟩ | ⟨⟨why, error⟩, hstored⟩
    · have hput := put_of_ok spent done
      have hlength : (kept ++ [payload]).length = kept.length + 1 := by simp
      have hpersisted : p.persisted + 1 = (kept ++ [payload]).length := by rw [h.persisted, hlength]
      rw [hnext, ← Table.putAll_concat, ← Table.numbered_concat, ← hnext] at hstored
      refine .stored (by simp [takes, spent, done, Except.toBool]) hroom ?_ (by rw [hput]; split <;> rfl)
      by_cases last : p.nextKey = 0xFFFFFFFF
      · have hsize : kept.length + 1 + 1 = UInt32.size := by rw [← hkey, last]; rfl
        rw [hput, if_pos last]
        exact ⟨hstored, hpersisted, by omega, by simp [hlength, hsize], nofun⟩
      · have hsize : kept.length + 1 + 1 ≠ UInt32.size := by
          intro hsize
          refine last (UInt32.toNat_inj.1 ?_)
          rw [hkey, Nat.eq_sub_of_add_eq hsize]
          rfl
        rw [hput, if_neg last]
        refine ⟨hstored, hpersisted, by omega, by simp [spent, hlength, hsize], fun _ => ?_⟩
        rw [hlength, UInt32.ofNat_add, hnext]
        rfl
    · have hput := put_of_error spent error
      refine .refused error (by simp [takes, spent, error, Except.toBool]) ?_ (by rw [hput])
      rw [hput]
      exact ⟨hstored, h.persisted, h.fits, h.spent, h.next⟩

/-! ### A row of puts -/

theorem putAll_append (p : Persister σ) (xs ys : List Bytes) :
    p.putAll (xs ++ ys) = (p.putAll xs).putAll ys := List.foldl_append ..

theorem putAll_cons (p : Persister σ) (x : Bytes) (xs : List Bytes) :
    p.putAll (x :: xs) = (p.put x).putAll xs := rfl

theorem putAll_of_isExhausted (h : p.isExhausted = true) (xs : List Bytes) : p.putAll xs = p := by
  induction xs with
  | nil => rfl
  | cons x xs ih => rw [putAll_cons, put_of_isExhausted h, ih]

theorem failed_le_putAll (p : Persister σ) (xs : List Bytes) : p.failed ≤ (p.putAll xs).failed := by
  induction xs generalizing p with
  | nil => exact Nat.le_refl _
  | cons x xs ih => exact Nat.le_trans (p.failed_le_put x) (ih (p.put x))

/-- Whatever fails, the payloads that get into the store lie over what was there, under the next keys. -/
theorem Kept.putAll (atomic : Atomic R) (h : p.Kept R before kept) (payloads : List Bytes) :
    (p.putAll payloads).Kept R before (kept ++ p.taken payloads) := by
  induction payloads generalizing p kept with
  | nil => simpa [taken, Persister.putAll] using h
  | cons x xs ih =>
    rw [putAll_cons, taken, ← List.append_assoc]
    refine ih ?_
    cases h.put atomic x with
    | stored takes spare after => simpa [takes] using after
    | refused error takes after => simpa [takes] using after
    | keyless takes spent same => simpa [takes, same] using h

theorem Kept.failed_putAll (atomic : Atomic R) (h : p.Kept R before kept) {payloads : List Bytes}
    (fits : kept.length + payloads.length < UInt32.size) :
    (p.putAll payloads).failed + (p.taken payloads).length = p.failed + payloads.length := by
  induction payloads generalizing p kept with
  | nil => rfl
  | cons x xs ih =>
    rw [List.length_cons] at fits ⊢
    rw [putAll_cons, taken]
    cases h.put atomic x with
    | stored takes spare after failed =>
      have hrest := ih after (by rw [List.length_append, List.length_singleton]; omega)
      simp only [takes, if_true, List.length_append, List.length_singleton]
      omega
    | refused error takes after failed =>
      have hrest := ih after (by omega)
      simp only [takes, Bool.false_eq_true, if_false, List.nil_append]
      omega
    | keyless takes spent => omega

theorem Kept.taken_eq (atomic : Atomic R) (h : p.Kept R before kept) {payloads : List Bytes}
    (unfailing : (p.putAll payloads).failed = p.failed) :
    p.taken payloads = payloads.take (UInt32.size - 1 - kept.length) := by
  induction payloads generalizing p kept with
  | nil => simp [taken]
  | cons x xs ih =>
    rw [putAll_cons] at unfailing
    rw [taken]
    cases h.put atomic x with
    | stored takes spare after failed =>
      have hrest := ih after (by rw [unfailing, failed])
      rw [hrest, List.length_append, List.length_singleton, if_pos takes]
      have hmore : UInt32.size - 1 - kept.length = UInt32.size - 1 - (kept.length + 1) + 1 := by omega
      rw [hmore, List.take_succ_cons]
      rfl
    | refused error takes after failed =>
      -- A refusal would have been counted.
      have hmore := (p.put x).failed_le_putAll xs
      omega
    | keyless takes spent same =>
      rw [same] at unfailing ⊢
      have hnone : UInt32.size - 1 - kept.length = 0 := by omega
      rw [ih h unfailing, hnone]
      simp [takes]

theorem Kept.failed_putAll_of_reliable [Reliable σ]
    (h : p.Kept (fun (s : σ) t => Store.contents s = .ok t) before kept) (payloads : List Bytes) :
    (p.putAll payloads).failed = p.failed := by
  induction payloads generalizing p kept with
  | nil => rfl
  | cons x xs ih =>
    rw [putAll_cons]
    cases h.put Reliable.atomic x with
    | stored takes spare after failed => rw [ih after, failed]
    | refused error =>
      have hdone := (Reliable.put_eq h.stored (Table.sequenceKey p.nextKey) x).1
      rw [hdone] at error
      cases error
    | keyless takes spent same => rw [same, ih h]

end Persister

theorem persist_kept (atomic : Atomic R) (h : R store before) (payloads : List Bytes) :
    (persist store payloads).2.Kept R before (({ store } : Persister σ).taken payloads) := by
  obtain ⟨stored, persisted, fits, spent, next⟩ := (Persister.Kept.start h).putAll atomic payloads
  exact ⟨atomic.flush stored, persisted, fits, spent, next⟩

theorem persist_reliable [Reliable σ] {payloads : List Bytes} (empty : Store.contents store = .ok .empty)
    (fits : payloads.length < UInt32.size) :
    ∃ (p : Persister σ) (t : Table), persist store payloads = (.ok (), p) ∧
      Store.contents p.store = .ok t ∧ t.entries = Table.numbered payloads := by
  have hstart := Persister.Kept.start (R := fun (s : σ) t => Store.contents s = .ok t) empty
  have htaken : ({ store } : Persister σ).taken payloads = payloads := by
    rw [hstart.taken_eq Reliable.atomic (hstart.failed_putAll_of_reliable payloads)]
    exact List.take_of_length_le (Nat.le_sub_one_of_lt fits)
  have hkept := hstart.putAll Reliable.atomic payloads
  rw [htaken, List.nil_append] at hkept
  obtain ⟨hflush, hcontents⟩ := Reliable.flush_eq hkept.stored
  exact ⟨_, _, Prod.ext hflush rfl, hcontents, Table.entries_putAll_numbered fits⟩

end Receiver

end FlowTraffic
