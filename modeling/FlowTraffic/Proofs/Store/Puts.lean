import FlowTraffic.Proofs.Bytes.Order
import FlowTraffic.Store.Table

/-!
# Rows of puts

Entries that are put into a table one after the other, under keys that come one after the other, are all
there afterwards. They take the place of the entries under the same keys and leave alone all others, so
the table falls into these two parts (`filter_putAll`, `filter_not_putAll`).
-/

namespace FlowTraffic

/-- Entries in ascending order of their keys, each key once. -/
abbrev Ascending (entries : List (Bytes × Bytes)) : Prop :=
  entries.Pairwise fun a b => compare a.1 b.1 = .lt

theorem compare_self_ne_lt (key : Bytes) : compare key key ≠ .lt := by
  simp [Std.ReflCmp.compare_self]

namespace Table

/-- The table after entries are put into it, one after the other. -/
def putAll (t : Table) (entries : List (Bytes × Bytes)) : Table :=
  entries.foldl (fun t e => t.put e.1 e.2) t

@[simp] theorem putAll_nil (t : Table) : t.putAll [] = t := rfl

theorem putAll_append (t : Table) (es es' : List (Bytes × Bytes)) :
    t.putAll (es ++ es') = (t.putAll es).putAll es' := List.foldl_append ..

theorem putAll_concat (t : Table) (es : List (Bytes × Bytes)) (key value : Bytes) :
    t.putAll (es ++ [(key, value)]) = (t.putAll es).put key value := putAll_append ..

variable {t : Table} {es : List (Bytes × Bytes)}

theorem mem_putAll_iff (ascending : Ascending es) {e : Bytes × Bytes} :
    e ∈ (t.putAll es).entries ↔ e ∈ es ∨ e.1 ∉ es.map (·.1) ∧ e ∈ t.entries := by
  induction es generalizing t with
  | nil => simp
  | cons a es ih =>
    obtain ⟨hhead, hrest⟩ := List.pairwise_cons.1 ascending
    have hfresh : a.1 ∉ es.map (·.1) := by
      rintro hmem
      obtain ⟨b, hb, same⟩ := List.mem_map.1 hmem
      exact compare_self_ne_lt a.1 (same ▸ hhead b hb)
    rw [putAll, List.foldl_cons, ← putAll, ih hrest, OrderedMap.mem_put_iff, List.mem_cons, List.map_cons, List.mem_cons]
    constructor
    · rintro (hmem | ⟨hother, rfl | ⟨hne, hold⟩⟩)
      · exact .inl (.inr hmem)
      · exact .inl (.inl rfl)
      · exact .inr ⟨not_or.2 ⟨hne, hother⟩, hold⟩
    · rintro ((rfl | hmem) | ⟨hother, hold⟩)
      · exact .inr ⟨hfresh, .inl rfl⟩
      · exact .inl hmem
      · exact .inr ⟨(not_or.1 hother).2, .inr ⟨(not_or.1 hother).1, hold⟩⟩

theorem filter_putAll (ascending : Ascending es) :
    (t.putAll es).entries.filter (fun e => e.1 ∈ es.map (·.1)) = es := by
  refine OrderedMap.eq_of_ascending ((t.putAll es).ascending.filter _) ascending fun e => ?_
  rw [List.mem_filter, mem_putAll_iff ascending, decide_eq_true_iff]
  constructor
  · rintro ⟨hmem | ⟨hother, -⟩, hkey⟩
    · exact hmem
    · exact absurd hkey hother
  · exact fun hmem => ⟨.inl hmem, List.mem_map_of_mem hmem⟩

theorem filter_not_putAll (ascending : Ascending es) :
    (t.putAll es).entries.filter (fun e => e.1 ∉ es.map (·.1)) =
      t.entries.filter (fun e => e.1 ∉ es.map (·.1)) := by
  refine OrderedMap.eq_of_ascending ((t.putAll es).ascending.filter _) (t.ascending.filter _) fun e => ?_
  rw [List.mem_filter, List.mem_filter, mem_putAll_iff ascending, decide_eq_true_iff]
  constructor
  · rintro ⟨hmem | ⟨-, hold⟩, hother⟩
    · exact absurd (List.mem_map_of_mem hmem) hother
    · exact ⟨hold, hother⟩
  · exact fun ⟨hold, hother⟩ => ⟨.inr ⟨hother, hold⟩, hother⟩

theorem entries_putAll_of_last (ascending : Ascending (t.entries ++ es)) :
    (t.putAll es).entries = t.entries ++ es := by
  obtain ⟨-, hes, hbefore⟩ := List.pairwise_append.1 ascending
  refine OrderedMap.eq_of_ascending (t.putAll es).ascending ascending fun e => ?_
  rw [mem_putAll_iff hes, List.mem_append, or_comm]
  refine or_congr_left ⟨And.right, fun hold => ⟨fun hkey => ?_, hold⟩⟩
  obtain ⟨b, hb, same⟩ := List.mem_map.1 hkey
  have hlt := hbefore e hold b hb
  exact compare_self_ne_lt e.1 (same ▸ hlt)

end Table

end FlowTraffic
