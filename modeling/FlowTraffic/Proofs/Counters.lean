import FlowTraffic.Metrics
import FlowTraffic.Proofs.Runs

/-!
# Totals of counters

A counter is found under its text. Two counters are told apart by their names, as long as no name has an
opening brace in it.
-/

namespace FlowTraffic

theorem Counter.takeWhile_text (c : Counter) (plain : '\x7b' ∉ c.name.toList) :
    c.text.toList.takeWhile (· ≠ '\x7b') = c.name.toList := by
  have brace : ("\x7b" : String).toList = ['\x7b'] := rfl
  unfold Counter.text
  simp only [String.toList_append, brace, List.append_assoc, List.singleton_append]
  rw [takeWhile_ne_append_of_notMem plain, List.cons_append, List.takeWhile_cons_of_neg (by simp),
    List.append_nil]

theorem Counter.text_ne {c d : Counter} (names : c.name ≠ d.name) (hc : '\x7b' ∉ c.name.toList)
    (hd : '\x7b' ∉ d.name.toList) : c.text ≠ d.text := by
  intro same
  apply names
  rw [← String.toList_inj, ← c.takeWhile_text hc, ← d.takeWhile_text hd, same]

namespace Metrics

def total (m : Metrics) (c : Counter) : Nat := (m.find? c.text).getD 0

theorem find?_add (m : Metrics) (c d : Counter) (n : Nat) :
    (m.add c n).find? d.text = if d.text = c.text then some (m.total c + n) else m.find? d.text := by
  unfold add total
  exact OrderedMap.find?_put ..

/-- The counter was added one to so many times. If it never was, it is what it was before, or still not
there. -/
def Raised (before : Metrics) (c : Counter) (times : Nat) (m : Metrics) : Prop :=
  m.find? c.text = if times = 0 then before.find? c.text else some (before.total c + times)

variable {before m : Metrics} {c d : Counter} {times : Nat}

theorem Raised.refl (m : Metrics) (c : Counter) : Raised m c 0 m := rfl

theorem Raised.total_eq (h : Raised before c times m) : m.total c = before.total c + times := by
  unfold total
  rw [h]
  split
  · rename_i never
    rw [never]
    rfl
  · rfl

theorem Raised.add_one (h : Raised before c times m) : Raised before c (times + 1) (m.add c 1) := by
  unfold Raised
  rw [find?_add, if_pos rfl, if_neg (Nat.succ_ne_zero times), h.total_eq, Nat.add_assoc]

theorem Raised.add_other (h : Raised before c times m) (other : d.text ≠ c.text) (n : Nat) :
    Raised before c times (m.add d n) := by
  unfold Raised
  rw [find?_add, if_neg (Ne.symm other)]
  exact h

end Metrics

end FlowTraffic
