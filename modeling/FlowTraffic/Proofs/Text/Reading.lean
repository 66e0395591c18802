import Mathlib.Data.List.TakeDrop
import Mathlib.Data.List.TakeWhile
import FlowTraffic.Text.Blank
import FlowTraffic.Text.Digits

/-!
# Text and its parts

What the readers of text find, said without them: the part between blank characters, the parts around the
first of a character, and the number that digits spell.
-/

namespace FlowTraffic.Text

/-! ## Blank characters -/

/-- The part has blank characters around it, and none at its own ends. -/
structure Trimmed (cs part : List Char) : Prop where
  around : ∃ before after, cs = before ++ part ++ after ∧
    (∀ c ∈ before, isBlank c = true) ∧ ∀ c ∈ after, isBlank c = true
  head : ∀ c ∈ part.head?, isBlank c = false
  last : ∀ c ∈ part.getLast?, isBlank c = false

theorem dropWhile_append_of_head {p : Char → Bool} {before rest : List Char}
    (hb : ∀ c ∈ before, p c = true) (hr : ∀ c ∈ rest.head?, p c = false) :
    (before ++ rest).dropWhile p = rest := by
  rw [List.dropWhile_append_of_pos hb]
  cases rest with
  | nil => rfl
  | cons c rest => simp [hr c rfl]

theorem trim_of_trimmed {cs part : List Char} (h : Trimmed cs part) : trim cs = part := by
  obtain ⟨before, after, rfl, hb, ha⟩ := h.around
  unfold trim
  cases part with
  | nil =>
    have blank : ∀ c ∈ before ++ [] ++ after, isBlank c = true := by
      intro c hc
      rcases List.mem_append.1 hc with hc | hc
      · exact hb c (by simpa using hc)
      · exact ha c hc
    have none : (before ++ [] ++ after).dropWhile isBlank = [] := List.dropWhile_eq_nil_iff.2 blank
    rw [none]
    rfl
  | cons d part =>
    have front : (before ++ (d :: part ++ after)).dropWhile isBlank = d :: part ++ after :=
      dropWhile_append_of_head hb (by simpa using h.head)
    have back : (after.reverse ++ (d :: part).reverse).dropWhile isBlank = (d :: part).reverse :=
      dropWhile_append_of_head (by simpa using ha) (by rw [List.head?_reverse]; exact h.last)
    rw [List.append_assoc, front, List.reverse_append, back, List.reverse_reverse]

theorem head_dropWhile (p : Char → Bool) (cs : List Char) :
    ∀ c ∈ (cs.dropWhile p).head?, p c = false := by
  intro c hc
  have stop := List.head?_dropWhile_not p cs
  rw [Option.mem_def.1 hc] at stop
  exact stop

theorem trimmed_trim (cs : List Char) : Trimmed cs (trim cs) := by
  let rest := cs.dropWhile isBlank
  let after := (rest.reverse.takeWhile isBlank).reverse
  have split : rest = trim cs ++ after := by
    show rest = (rest.reverse.dropWhile isBlank).reverse ++ (rest.reverse.takeWhile isBlank).reverse
    rw [← List.reverse_append, List.takeWhile_append_dropWhile, List.reverse_reverse]
  constructor
  · refine ⟨cs.takeWhile isBlank, after, ?_, List.all_eq_true.1 List.all_takeWhile, ?_⟩
    · rw [List.append_assoc, ← split, List.takeWhile_append_dropWhile]
    · intro c hc
      exact List.all_eq_true.1 List.all_takeWhile c (List.mem_reverse.1 hc)
  · intro c hc
    apply head_dropWhile isBlank cs c
    show c ∈ rest.head?
    rw [split, List.head?_append, Option.mem_def.1 hc]
    rfl
  · intro c hc
    apply head_dropWhile isBlank rest.reverse c
    rw [← List.getLast?_reverse]
    exact hc

theorem trimmed_self {cs : List Char} (h : ∀ c ∈ cs, isBlank c = false) : Trimmed cs cs where
  around := ⟨[], [], by simp⟩
  head c hc := h c (List.mem_of_head? hc)
  last c hc := h c (List.mem_of_getLast? hc)

theorem isBlank_of_isDigit {c : Char} (h : c.isDigit = true) : isBlank c = false := by
  simp [Char.isDigit, UInt32.le_iff_toNat_le] at h
  simp [isBlank]
  omega

/-! ## The first of a character -/

section

variable {sep : Char} {cs before after : List Char}

theorem splitFirst?_append (h : sep ∉ before) :
    splitFirst? sep (before ++ sep :: after) = some (before, after) := by
  have others : ∀ c ∈ before, (c != sep) = true := by
    intro c hc
    simpa using ne_of_mem_of_not_mem hc h
  unfold splitFirst?
  rw [List.span_eq_takeWhile_dropWhile, List.takeWhile_append_of_pos others,
    List.dropWhile_append_of_pos others]
  simp

theorem splitFirst?_of_not_mem (h : sep ∉ cs) : splitFirst? sep cs = none := by
  have others : ∀ c ∈ cs, (c != sep) = true := by
    intro c hc
    simpa using ne_of_mem_of_not_mem hc h
  have rest : cs.dropWhile (· != sep) = [] := List.dropWhile_eq_nil_iff.2 others
  unfold splitFirst?
  rw [List.span_eq_takeWhile_dropWhile, rest]

end

/-! ## Numbers -/

/-- Decimal digits, at least one, that spell the number. -/
structure Spells (cs : List Char) (n : Nat) : Prop where
  nonempty : cs ≠ []
  digits : ∀ c ∈ cs, c.isDigit = true
  value : Nat.ofDigitChars 10 cs 0 = n

/-- Digits that spell the number, or a plus sign and such digits. -/
def Unsigned (cs : List Char) (n : Nat) : Prop := Spells cs n ∨ ∃ ds, cs = '+' :: ds ∧ Spells ds n

theorem digit?_ten (c : Char) :
    digit? 10 c = if c.isDigit then some (c.toNat - '0'.toNat) else none := by
  have zero : '0'.toNat = 48 := rfl
  unfold digit?
  by_cases h : c.isDigit = true
  · have few : c.toNat - '0'.toNat < 10 := by
      simp [Char.isDigit, UInt32.le_iff_toNat_le] at h
      omega
    simp only [h, if_true, few]
  · -- Letters have the values from ten on.
    have many : ¬ (if c.isLower then c.toNat - 'a'.toNat + 10
        else if c.isUpper then c.toNat - 'A'.toNat + 10 else 10) < 10 := by
      split
      · omega
      · split <;> omega
    simp only [h]
    exact if_neg many

theorem foldl_digits_eq_some_iff {cs : List Char} {start : Option Nat} {n : Nat} :
    cs.foldl (fun n c => do return 10 * (← n) + (← digit? 10 c)) start = some n ↔
      (∀ c ∈ cs, c.isDigit = true) ∧ ∃ m, start = some m ∧ Nat.ofDigitChars 10 cs m = n := by
  induction cs generalizing start with
  | nil => simp
  | cons c cs ih =>
    rw [List.foldl_cons, ih, digit?_ten]
    cases start with
    | none => simp
    | some m =>
      by_cases h : c.isDigit = true
      · simp [h, Nat.ofDigitChars_cons]
      · simp [h]

theorem digits?_eq_some_iff {cs : List Char} {n : Nat} : digits? 10 cs = some n ↔ Spells cs n := by
  unfold digits?
  split
  · rename_i empty
    refine iff_of_false nofun fun spells => spells.nonempty ?_
    exact List.isEmpty_iff.1 empty
  · rename_i some
    rw [foldl_digits_eq_some_iff]
    constructor
    · rintro ⟨digits, m, ⟨⟩, value⟩
      exact ⟨fun empty => some (List.isEmpty_iff.2 empty), digits, value⟩
    · intro spells
      exact ⟨spells.digits, 0, rfl, spells.value⟩

theorem number?_eq_some_iff {limit : Nat} {cs : List Char} {n : Nat} :
    number? 10 limit cs = some n ↔ Spells cs n ∧ n ≤ limit := by
  unfold number?
  simp only [Option.bind_eq_bind, Option.bind_eq_some_iff, digits?_eq_some_iff]
  constructor
  · rintro ⟨m, spells, h⟩
    split at h
    · cases h
      exact ⟨spells, ‹_›⟩
    · cases h
  · rintro ⟨spells, few⟩
    exact ⟨n, spells, if_pos few⟩

theorem unsigned?_eq_some_iff {limit : Nat} {cs : List Char} {n : Nat} :
    unsigned? limit cs = some n ↔ Unsigned cs n ∧ n ≤ limit := by
  unfold unsigned? Unsigned
  split
  · rename_i ds
    have sign : ¬ Spells ('+' :: ds) n := by
      intro spells
      cases spells.digits '+' List.mem_cons_self
    simp [number?_eq_some_iff, sign]
  · rename_i unsigned
    rw [number?_eq_some_iff, or_iff_left]
    rintro ⟨ds, rfl, -⟩
    exact unsigned ds rfl

/-! ## Numbers written -/

theorem spells_toDigits (n : Nat) : Spells (Nat.toDigits 10 n) n where
  nonempty := Nat.toDigits_ne_nil
  digits _ hc := Nat.isDigit_of_mem_toDigits (by decide) (by decide) hc
  value := Nat.ofDigitChars_ten_toDigits

theorem head_toDigits {n : Nat} (h : 0 < n) : (Nat.toDigits 10 n).head? ≠ some '0' := by
  induction n using Nat.strongRecOn with
  | ind n ih =>
    rw [Nat.toDigits_eq_if (by decide)]
    split
    · rename_i few
      intro zero
      have digit : n.digitChar = '0' := by simpa using zero
      have value := Nat.ofDigitChars_ten_toDigits (n := n)
      rw [Nat.toDigits_of_lt_base few, digit] at value
      exact absurd value.symm (Nat.ne_of_gt h)
    · -- The first digit is that of all but the last one.
      have front := ih (n / 10) (by omega) (by omega)
      obtain ⟨c, cs, digits⟩ := List.exists_cons_of_ne_nil (Nat.toDigits_ne_nil (n := n / 10) (b := 10))
      rw [digits] at front ⊢
      exact front

end FlowTraffic.Text
