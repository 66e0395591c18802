import Mathlib.Data.List.Basic
import FlowTraffic.Proofs.Bytes.Words
import FlowTraffic.Text.HexDump

/-!
# What a hex dump keeps

A row of a dump is read by position alone: behind its offset and a blank stand sixteen columns of three
characters, with one more blank in the middle, and what stands to their right is not looked at. So the bytes
are read back whatever they look like as ASCII (`readBack_render`).
-/

namespace FlowTraffic.Text

/-! ## Hex digits -/

def nibble? (c : Char) : Option Nat := "0123456789abcdef".toList.idxOf? c

/-- The number that lower-case hex digits spell. -/
def hexValue? (cs : List Char) : Option Nat := cs.foldlM (fun n c => (nibble? c).map (16 * n + ·)) 0

theorem nibble?_digitChar {d : Nat} (h : d < 16) : nibble? d.digitChar = some d := by
  have all : ∀ d : Fin 16, nibble? (Nat.digitChar d) = some d.val := by decide
  exact all ⟨d, h⟩

theorem hexValue?_concat (cs : List Char) (c : Char) :
    hexValue? (cs ++ [c]) = (hexValue? cs).bind fun n => (nibble? c).map (16 * n + ·) := by
  simp [hexValue?, List.foldlM_append]

theorem hexValue?_toDigits (n : Nat) : hexValue? (Nat.toDigits 16 n) = some n := by
  induction n using Nat.strongRecOn with
  | ind n ih =>
    rw [Nat.toDigits_eq_if (by decide)]
    split
    · rename_i few
      exact (hexValue?_concat [] _).trans (by simp [hexValue?, nibble?_digitChar few])
    · rename_i many
      have last : n % 16 < 16 := Nat.mod_lt n (by decide)
      rw [hexValue?_concat, ih (n / 16) (by omega), Option.bind_some, nibble?_digitChar last,
        Option.map_some, Nat.div_add_mod]

theorem hexValue?_zeros_append (k : Nat) (cs : List Char) :
    hexValue? (List.replicate k '0' ++ cs) = hexValue? cs := by
  induction k with
  | zero => rfl
  | succ k ih => exact ih

theorem isSome_nibble?_of_mem {cs : List Char} {n : Nat} (h : hexValue? cs = some n) {c : Char}
    (hc : c ∈ cs) : (nibble? c).isSome = true := by
  obtain ⟨before, after, rfl⟩ := List.append_of_mem hc
  cases hnibble : nibble? c with
  | some v => rfl
  | none => simp [hexValue?, List.foldlM_append, hnibble] at h

theorem toList_hexPadded (width n : Nat) :
    (hexPadded width n).toList =
      List.replicate (width - (Nat.toDigits 16 n).length) '0' ++ Nat.toDigits 16 n :=
  String.toList_ofList

theorem hexValue?_hexPadded (width n : Nat) : hexValue? (hexPadded width n).toList = some n := by
  rw [toList_hexPadded, hexValue?_zeros_append, hexValue?_toDigits]

theorem length_hexPadded (width n : Nat) :
    (hexPadded width n).toList.length = max width (Nat.toDigits 16 n).length := by
  rw [toList_hexPadded, List.length_append, List.length_replicate]
  omega

theorem not_mem_hexPadded {width n : Nat} {c : Char} (other : nibble? c = none) :
    c ∉ (hexPadded width n).toList := by
  intro hc
  have digit := isSome_nibble?_of_mem (hexValue?_hexPadded width n) hc
  rw [other] at digit
  cases digit

namespace HexDump

/-! ## Reading a dump -/

/-- The rows of a text in which each one ends with a line break. -/
def rows (text : String) : List (List Char) := (text.toList.splitOn '\n').dropLast

/-- The byte in a column, if there is one: two digits behind a blank. -/
def cell? : List Char → Option UInt8
  | ' ' :: digits => (hexValue? digits).map UInt8.ofNat
  | _ => none

/-- A column of three characters. One more blank stands in front of the ninth. -/
def column (columns : List Char) (i : Nat) : List Char :=
  (columns.drop (3 * i + if i < 8 then 0 else 1)).take 3

/-- The bytes of a row. -/
def readRow (row : List Char) : Bytes :=
  let columns := (row.dropWhile (· ≠ ' ')).tail
  (List.range 16).filterMap fun i => cell? (column columns i)

def readBack (text : String) : Bytes := (rows text).flatMap readRow

/-! ## Columns -/

theorem length_toDigits_byte (x : UInt8) : (Nat.toDigits 16 x.toNat).length ≤ 2 :=
  (Nat.length_toDigits_le_iff (by decide) (by decide)).2 x.toNat_lt

theorem length_cell (x? : Option UInt8) : (cell x?).toList.length = 3 := by
  cases x? with
  | none => rfl
  | some x =>
    have two := length_toDigits_byte x
    have length := length_hexPadded 2 x.toNat
    simp only [cell, String.toList_append, List.length_append, length]
    rw [Nat.max_eq_left two]
    rfl

theorem cell?_cell (x? : Option UInt8) : cell? (cell x?).toList = x? := by
  cases x? with
  | none => decide
  | some x =>
    have blank : (cell (some x)).toList = ' ' :: (hexPadded 2 x.toNat).toList := String.toList_append
    rw [blank, cell?, hexValue?_hexPadded, Option.map_some, UInt8.ofNat_toNat]

/-- Eight columns of a block, from one of them on. -/
def cells (block : Bytes) (start : Nat) : List Char :=
  (List.range' start 8).flatMap fun i => (cell block[i]?).toList

theorem length_cells (block : Bytes) (start : Nat) : (cells block start).length = 24 :=
  Bytes.length_flatMap_of_length fun _ _ => length_cell _

theorem toList_columns (block : Bytes) :
    (columns block).toList = cells block 0 ++ ' ' :: cells block 8 := by
  simp only [columns, String.toList_append, String.toList_join, List.append_assoc]
  rfl

theorem length_columns (block : Bytes) : (columns block).toList.length = 49 := by
  rw [toList_columns, List.length_append, List.length_cons, length_cells, length_cells]

theorem take_drop_cells (block : Bytes) (start : Nat) {i : Nat} (hi : i < 8) (rest : List Char) :
    ((cells block start ++ rest).drop (3 * i)).take 3 = (cell block[start + i]?).toList := by
  have within : i < (List.range' start 8).length := by rwa [List.length_range']
  have found := Bytes.take_drop_flatMap (fun j _ => length_cell block[j]?) within rest
  rwa [List.getElem_range', Nat.one_mul] at found

theorem column_columns (block : Bytes) (rest : List Char) {i : Nat} (hi : i < 16) :
    column ((columns block).toList ++ rest) i = (cell block[i]?).toList := by
  rw [toList_columns, List.append_assoc, column]
  by_cases left : i < 8
  · rw [if_pos left, Nat.add_zero, take_drop_cells block 0 left, Nat.zero_add]
  · -- In front of the right half stand the left one and a blank.
    have position : 3 * i + 1 = 24 + 1 + 3 * (i - 8) := by omega
    rw [if_neg left, position, ← List.drop_drop, ← List.drop_drop, List.drop_left' (length_cells block 0),
      List.cons_append, List.drop_succ_cons, List.drop_zero, take_drop_cells block 8 (by omega),
      Nat.add_sub_cancel' (by omega)]

/-! ## Rows -/

theorem toList_line (offset : Nat) (block : Bytes) :
    (line offset block).toList =
      (hexPadded 8 offset).toList ++ ' ' ::
        ((columns block).toList ++ (' ' :: ' ' :: '|' :: (block.map glyph ++ ['|']))) := by
  simp only [line, String.toList_append, String.toList_ofList, List.append_assoc]
  rfl

theorem filterMap_getElem?_range (b : Bytes) (n : Nat) :
    (List.range n).filterMap (fun i => b[i]?) = b.take n := by
  induction n with
  | zero => rfl
  | succ n ih =>
    rw [List.range_succ, List.filterMap_append, ih, List.take_add_one]
    cases h : b[n]? <;> simp [h]

theorem readRow_line (offset : Nat) (block : Bytes) :
    readRow (line offset block).toList = block.take 16 := by
  have digits : ∀ c ∈ (hexPadded 8 offset).toList, decide (c ≠ ' ') = true := by
    intro c hc
    exact decide_eq_true (ne_of_mem_of_not_mem hc (not_mem_hexPadded (by decide)))
  unfold readRow
  rw [toList_line, List.dropWhile_append_of_pos digits, List.dropWhile_cons_of_neg (by simp),
    List.tail_cons, ← filterMap_getElem?_range]
  apply List.filterMap_congr
  intro i hi
  rw [column_columns block _ (List.mem_range.1 hi), cell?_cell]

theorem glyph_eq (x : UInt8) :
    glyph x = if 0x20 ≤ x.toNat ∧ x.toNat ≤ 0x7E then Char.ofNat x.toNat else '.' := by
  simp [glyph, UInt8.le_iff_toNat_le]

theorem glyph_ne_lineBreak (x : UInt8) : glyph x ≠ '\n' := by
  have all : ∀ n : Fin 256, glyph (UInt8.ofFin n) ≠ '\n' := by decide +kernel
  exact all x.toFin

theorem lineBreak_not_mem_cells (block : Bytes) (start : Nat) : '\n' ∉ cells block start := by
  intro mem
  obtain ⟨i, -, mem⟩ := List.mem_flatMap.1 mem
  cases h : block[i]? with
  | none =>
    rw [h] at mem
    revert mem
    decide
  | some x =>
    rw [h, cell, String.toList_append, List.mem_append] at mem
    rcases mem with blank | digit
    · revert blank
      decide
    · exact not_mem_hexPadded (by decide) digit

theorem lineBreak_not_mem_line (offset : Nat) (block : Bytes) : '\n' ∉ (line offset block).toList := by
  have digits : '\n' ∉ (hexPadded 8 offset).toList := not_mem_hexPadded (by decide)
  have ascii : ∀ x ∈ block, ¬ glyph x = '\n' := fun x _ => glyph_ne_lineBreak x
  rw [toList_line, toList_columns]
  simpa [digits, lineBreak_not_mem_cells] using ascii

theorem getElem?_lines (offset : Nat) (b : Bytes) (i : Nat) :
    (lines offset b)[i]? =
      if 16 * i < b.length then some (line (offset + 16 * i) ((b.drop (16 * i)).take 16)) else none := by
  induction offset, b using lines.induct generalizing i with
  | case1 offset => simp [lines]
  | case2 offset b some ih =>
    have positive := List.length_pos_iff.2 some
    rw [lines, if_neg some]
    cases i with
    | zero => simp [positive, lineSize]
    | succ i =>
      rw [List.getElem?_cons_succ, ih, List.length_drop, List.drop_drop, lineSize]
      have within : 16 * i < b.length - 16 ↔ 16 * (i + 1) < b.length := by omega
      have position : offset + 16 + 16 * i = offset + 16 * (i + 1) := by omega
      simp only [within, position, Nat.mul_succ, Nat.add_comm]

theorem length_lines (offset : Nat) (b : Bytes) : (lines offset b).length = (b.length + 15) / 16 := by
  induction offset, b using lines.induct with
  | case1 offset => simp [lines]
  | case2 offset b some ih =>
    have positive := List.length_pos_iff.2 some
    rw [lines, if_neg some, List.length_cons, ih, List.length_drop, lineSize]
    omega

/-! ## Whole dumps -/

theorem toList_render (b : Bytes) :
    (render b).toList = ((lines 0 b).map String.toList).flatMap (· ++ ['\n']) := by
  simp only [render, String.toList_join, List.flatMap_map, String.toList_append]
  rfl

theorem splitOn_rows {rows : List (List Char)} (h : ∀ row ∈ rows, '\n' ∉ row) :
    (rows.flatMap (· ++ ['\n'])).splitOn '\n' = rows ++ [[]] := by
  induction rows with
  | nil => rfl
  | cons row rows ih =>
    obtain ⟨hrow, hrows⟩ := List.forall_mem_cons.1 h
    rw [List.flatMap_cons, List.append_assoc, List.singleton_append,
      List.splitOn_append_cons_self_of_not_mem hrow, ih hrows]
    rfl

theorem rows_render (b : Bytes) : rows (render b) = (lines 0 b).map String.toList := by
  have unbroken : ∀ row ∈ (lines 0 b).map String.toList, '\n' ∉ row := by
    intro row hrow
    obtain ⟨l, hl, rfl⟩ := List.mem_map.1 hrow
    obtain ⟨i, hi⟩ := List.getElem?_of_mem hl
    rw [getElem?_lines] at hi
    split at hi
    · cases hi
      exact lineBreak_not_mem_line _ _
    · cases hi
  rw [rows, toList_render, splitOn_rows unbroken, List.dropLast_concat]

theorem flatMap_readRow_lines (offset : Nat) (b : Bytes) :
    ((lines offset b).map String.toList).flatMap readRow = b := by
  induction offset, b using lines.induct with
  | case1 offset => simp [lines]
  | case2 offset b some ih =>
    rw [lines, if_neg some, List.map_cons, List.flatMap_cons, ih, readRow_line, lineSize, List.take_take,
      Nat.min_self, List.take_append_drop]

theorem readBack_render (b : Bytes) : readBack (render b) = b := by
  rw [readBack, rows_render, flatMap_readRow_lines]

theorem row_offset (offset : Nat) (block : Bytes) :
    ∃ digits rest, (line offset block).toList = digits ++ ' ' :: rest ∧ 8 ≤ digits.length ∧
      hexValue? digits = some offset := by
  refine ⟨_, _, toList_line offset block, ?_, hexValue?_hexPadded 8 offset⟩
  rw [length_hexPadded]
  exact Nat.le_max_left _ _

theorem drop_line {offset : Nat} (few : offset < 0x100000000) (block : Bytes) :
    (line offset block).toList.drop 60 = '|' :: (block.map glyph ++ ['|']) := by
  -- Eight digits are enough for the offset, so all rows have their first bar in the same place.
  have digits : (hexPadded 8 offset).toList.length = 8 := by
    rw [length_hexPadded]
    exact Nat.max_eq_left ((Nat.length_toDigits_le_iff (by decide) (by decide)).2 few)
  have position : 60 = 8 + (1 + (49 + 2)) := rfl
  rw [toList_line, position, ← List.drop_drop, List.drop_left' digits, ← List.drop_drop, List.drop_succ_cons,
    List.drop_zero, ← List.drop_drop, List.drop_left' (length_columns block)]
  rfl

theorem getElem?_rows_render {b : Bytes} {i : Nat} {row : List Char} :
    (rows (render b))[i]? = some row ↔
      16 * i < b.length ∧ (line (16 * i) ((b.drop (16 * i)).take 16)).toList = row := by
  rw [rows_render, List.getElem?_map, getElem?_lines, Nat.zero_add]
  split <;> simp [*]

/-- **A hex dump loses no byte.** A dump is a row for every started block of sixteen bytes, each ended by a
line break. A row starts with the offset of its block in lower-case hex, eight digits at least. In a buffer
of fewer than 2³² bytes all rows have their first bar in the same place, behind it a character for every byte of
the block, which is a dot unless the byte is a printable one, and then the other bar. The bytes can be read
back from the columns between, so different buffers have different dumps. -/
theorem render_keeps_all (b : Bytes) :
    (render b).toList = (rows (render b)).flatMap (· ++ ['\n']) ∧
      (rows (render b)).length = (b.length + 15) / 16 ∧
      (∀ i row, (rows (render b))[i]? = some row →
        let block := (b.drop (16 * i)).take 16
        (∃ digits rest, row = digits ++ ' ' :: rest ∧ 8 ≤ digits.length ∧
          hexValue? digits = some (16 * i)) ∧
        (b.length < 0x100000000 → ∃ ascii, row.drop 60 = '|' :: (ascii ++ ['|']) ∧
          ascii.length = block.length ∧
          ∀ (j : Nat) (x : UInt8), block[j]? = some x → ascii[j]? =
            some (if 0x20 ≤ x.toNat ∧ x.toNat ≤ 0x7E then Char.ofNat x.toNat else '.'))) ∧
      readBack (render b) = b ∧
      ∀ b', render b' = render b → b' = b := by
  refine ⟨?_, ?_, ?_, readBack_render b, ?_⟩
  · rw [rows_render, toList_render]
  · rw [rows_render, List.length_map, length_lines]
  · intro i row hrow block
    obtain ⟨within, rfl⟩ := getElem?_rows_render.1 hrow
    refine ⟨row_offset _ _, fun few => ⟨block.map glyph, ?_, List.length_map _, ?_⟩⟩
    · exact drop_line (Nat.lt_trans within few) block
    · intro j x hx
      rw [List.getElem?_map, hx, Option.map_some, glyph_eq]
  · intro b' same
    rw [← readBack_render b', same, readBack_render]

end HexDump

end FlowTraffic.Text
