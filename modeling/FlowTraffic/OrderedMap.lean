/-!
# Ordered maps

A map as the list of its entries, in ascending order of their keys. Two maps with the same entries
are equal. Main statements: what `find?` and `put` say of each other (`find?_put`), and that a map
is known by its answers (`ext_find?`).
-/

namespace FlowTraffic

/-- Entries in ascending order of their keys, each key once. -/
structure OrderedMap (κ υ : Type) [Ord κ] where
  entries : List (κ × υ)
  ascending : entries.Pairwise fun a b => compare a.1 b.1 = .lt

namespace OrderedMap

variable {κ υ : Type} [Ord κ]

def empty : OrderedMap κ υ := ⟨[], .nil⟩

instance : Inhabited (OrderedMap κ υ) := ⟨empty⟩

instance [DecidableEq κ] [DecidableEq υ] : DecidableEq (OrderedMap κ υ) := fun a b =>
  if h : a.entries = b.entries then .isTrue (by cases a; cases b; simp_all)
  else .isFalse fun e => h (by rw [e])

@[ext] theorem ext {a b : OrderedMap κ υ} (h : a.entries = b.entries) : a = b := by
  cases a; cases b; simp_all

def size (m : OrderedMap κ υ) : Nat := m.entries.length

def values (m : OrderedMap κ υ) : List υ := m.entries.map (·.2)

def find? (m : OrderedMap κ υ) (k : κ) : Option υ :=
  (m.entries.find? fun e => compare e.1 k == .eq).map (·.2)

/-- The entries with the value of a key replaced, or a new entry in its place. -/
def insert : List (κ × υ) → κ → υ → List (κ × υ)
  | [], k, v => [(k, v)]
  | e :: es, k, v =>
    match compare k e.1 with
    | .lt => (k, v) :: e :: es
    | .eq => (k, v) :: es
    | .gt => e :: insert es k v

/-! ## Looking up -/

theorem find?_eq_some_iff [Std.LawfulEqOrd κ] {m : OrderedMap κ υ} {k : κ} {v : υ} :
    m.find? k = some v ↔ (k, v) ∈ m.entries := by
  obtain ⟨es, hes⟩ := m
  simp only [find?, Option.map_eq_some_iff]
  induction es with
  | nil => simp
  | cons a es ih =>
    obtain ⟨hhead, hrest⟩ := List.pairwise_cons.1 hes
    rw [List.find?_cons]
    split
    · rename_i heq
      obtain rfl := Std.LawfulEqCmp.eq_of_compare (by simpa using heq : compare a.1 k = .eq)
      constructor
      · rintro ⟨b, hb, rfl⟩
        obtain rfl := Option.some.inj hb
        exact List.mem_cons_self
      · intro hmem
        rcases List.mem_cons.1 hmem with h | h
        · exact ⟨a, rfl, by rw [← h]⟩
        · have := hhead _ h
          simp [Std.ReflCmp.compare_self] at this
    · rename_i hne
      rw [ih hrest, List.mem_cons]
      constructor
      · exact .inr
      · rintro (h | h)
        · subst h
          simp [Std.ReflCmp.compare_self] at hne
        · exact h

/-! ## Inserting keeps the order -/

theorem mem_insert {es : List (κ × υ)} {k : κ} {v : υ} {e : κ × υ} (h : e ∈ insert es k v) :
    e = (k, v) ∨ e ∈ es := by
  induction es with
  | nil => simpa [insert] using h
  | cons a es ih =>
    rw [insert] at h
    split at h
    · simpa using h
    · rcases List.mem_cons.1 h with rfl | h
      · exact .inl rfl
      · exact .inr (List.mem_cons_of_mem _ h)
    · rcases List.mem_cons.1 h with rfl | h
      · exact .inr List.mem_cons_self
      · exact (ih h).imp_right (List.mem_cons_of_mem _)

section

variable [Std.TransOrd κ] [Std.LawfulEqOrd κ]

theorem ascending_insert {es : List (κ × υ)} (k : κ) (v : υ)
    (h : es.Pairwise fun a b => compare a.1 b.1 = .lt) :
    (insert es k v).Pairwise fun a b => compare a.1 b.1 = .lt := by
  induction es with
  | nil => simp [insert]
  | cons a es ih =>
    obtain ⟨hhead, hrest⟩ := List.pairwise_cons.1 h
    rw [insert]
    split
    · rename_i hlt
      refine List.pairwise_cons.2 ⟨fun b hb => ?_, h⟩
      rcases List.mem_cons.1 hb with rfl | hb
      · exact hlt
      · exact Std.TransCmp.lt_trans hlt (hhead b hb)
    · rename_i heq
      obtain rfl := Std.LawfulEqCmp.eq_of_compare heq
      exact List.pairwise_cons.2 ⟨hhead, hrest⟩
    · rename_i hgt
      refine List.pairwise_cons.2 ⟨fun b hb => ?_, ih hrest⟩
      rcases mem_insert hb with rfl | hb
      · exact Std.OrientedCmp.lt_of_gt hgt
      · exact hhead b hb

/-- The map with a value under a key, in the place of an earlier one. -/
def put (m : OrderedMap κ υ) (k : κ) (v : υ) : OrderedMap κ υ :=
  ⟨insert m.entries k v, ascending_insert k v m.ascending⟩

/-- The map of entries that are put one after the other. -/
def ofList (es : List (κ × υ)) : OrderedMap κ υ := es.foldl (fun m e => m.put e.1 e.2) empty

/-! ## What a put changes -/

theorem mem_insert_iff {es : List (κ × υ)} (h : es.Pairwise fun a b => compare a.1 b.1 = .lt)
    {k : κ} {v : υ} {e : κ × υ} :
    e ∈ insert es k v ↔ e = (k, v) ∨ (e.1 ≠ k ∧ e ∈ es) := by
  induction es with
  | nil => simp [insert]
  | cons a es ih =>
    obtain ⟨hhead, hrest⟩ := List.pairwise_cons.1 h
    rw [insert]
    split
    · rename_i hlt
      rw [List.mem_cons]
      refine or_congr_right ⟨fun hm => ⟨?_, hm⟩, And.right⟩
      rintro rfl
      rcases List.mem_cons.1 hm with rfl | hm
      · simp [Std.ReflCmp.compare_self] at hlt
      · have := Std.TransCmp.lt_trans hlt (hhead e hm)
        simp [Std.ReflCmp.compare_self] at this
    · rename_i heq
      obtain rfl := Std.LawfulEqCmp.eq_of_compare heq
      rw [List.mem_cons]
      refine or_congr_right ⟨fun hm => ⟨?_, List.mem_cons_of_mem _ hm⟩, ?_⟩
      · rintro he
        have := hhead e hm
        simp [he, Std.ReflCmp.compare_self] at this
      · rintro ⟨hne, hm⟩
        rcases List.mem_cons.1 hm with rfl | hm
        · exact absurd rfl hne
        · exact hm
    · rename_i hgt
      rw [List.mem_cons, List.mem_cons, ih hrest]
      constructor
      · rintro (rfl | rfl | ⟨hne, hm⟩)
        · refine .inr ⟨?_, .inl rfl⟩
          rintro rfl
          simp [Std.ReflCmp.compare_self] at hgt
        · exact .inl rfl
        · exact .inr ⟨hne, .inr hm⟩
      · rintro (rfl | ⟨hne, rfl | hm⟩)
        · exact .inr (.inl rfl)
        · exact .inl rfl
        · exact .inr (.inr ⟨hne, hm⟩)

theorem mem_put_iff {m : OrderedMap κ υ} {k : κ} {v : υ} {e : κ × υ} :
    e ∈ (m.put k v).entries ↔ e = (k, v) ∨ (e.1 ≠ k ∧ e ∈ m.entries) :=
  mem_insert_iff m.ascending

theorem find?_put [DecidableEq κ] (m : OrderedMap κ υ) (k k' : κ) (v : υ) :
    (m.put k v).find? k' = if k' = k then some v else m.find? k' := by
  refine Option.ext fun w => ?_
  rw [find?_eq_some_iff, mem_put_iff]
  split
  · rename_i h
    simp [h, eq_comm]
  · rename_i h
    rw [find?_eq_some_iff]
    simp [h]

theorem eq_of_ascending {xs ys : List (κ × υ)}
    (hx : xs.Pairwise fun a b => compare a.1 b.1 = .lt)
    (hy : ys.Pairwise fun a b => compare a.1 b.1 = .lt) (h : ∀ e, e ∈ xs ↔ e ∈ ys) : xs = ys := by
  induction xs generalizing ys with
  | nil =>
    cases ys with
    | nil => rfl
    | cons y ys => exact absurd ((h y).2 List.mem_cons_self) List.not_mem_nil
  | cons x xs ih =>
    cases ys with
    | nil => exact absurd ((h x).1 List.mem_cons_self) List.not_mem_nil
    | cons y ys =>
      obtain ⟨hxhead, hxrest⟩ := List.pairwise_cons.1 hx
      obtain ⟨hyhead, hyrest⟩ := List.pairwise_cons.1 hy
      have irrefl : ∀ e : κ × υ, compare e.1 e.1 ≠ .lt := by simp [Std.ReflCmp.compare_self]
      have hxy : x = y := by
        rcases List.mem_cons.1 ((h x).1 List.mem_cons_self) with e | hmem
        · exact e
        rcases List.mem_cons.1 ((h y).2 List.mem_cons_self) with e | hmem'
        · exact e.symm
        · exact absurd (Std.TransCmp.lt_trans (hyhead x hmem) (hxhead y hmem')) (irrefl y)
      subst hxy
      congr 1
      refine ih hxrest hyrest fun e => ⟨fun he => ?_, fun he => ?_⟩
      · rcases List.mem_cons.1 ((h e).1 (List.mem_cons_of_mem _ he)) with rfl | hm
        · exact absurd (hxhead e he) (irrefl e)
        · exact hm
      · rcases List.mem_cons.1 ((h e).2 (List.mem_cons_of_mem _ he)) with rfl | hm
        · exact absurd (hyhead e he) (irrefl e)
        · exact hm

theorem ext_find? {a b : OrderedMap κ υ} (h : ∀ k, a.find? k = b.find? k) : a = b := by
  refine ext (eq_of_ascending a.ascending b.ascending fun ⟨k, v⟩ => ?_)
  rw [← find?_eq_some_iff, ← find?_eq_some_iff, h]

end

end OrderedMap

end FlowTraffic
