import FlowTraffic.Bytes
import FlowTraffic.Text.Digits

/-!
# Hex dumps

Sixteen bytes to a line: their offset, the bytes in two groups of eight, and the same bytes as
ASCII between bars. A short last line is filled up so that the bars stay in their column.
-/

namespace FlowTraffic.Text.HexDump

def lineSize : Nat := 16

/-- A byte as a printable ASCII character, or a dot. -/
def glyph (b : UInt8) : Char := if 0x20 ≤ b && b ≤ 0x7E then Char.ofNat b.toNat else '.'

/-- The column of one byte: a blank and two digits, or as many blanks. -/
def cell : Option UInt8 → String
  | some b => " " ++ hexPadded 2 b.toNat
  | none => "   "

/-- The columns of a line's bytes, with one more blank between the two groups. -/
def columns (chunk : Bytes) : String :=
  let cells := (List.range lineSize).map fun i => cell chunk[i]?
  String.join (cells.take 8) ++ " " ++ String.join (cells.drop 8)

def line (offset : Nat) (chunk : Bytes) : String :=
  hexPadded 8 offset ++ " " ++ columns chunk ++ "  |" ++ String.ofList (chunk.map glyph) ++ "|"

/-- The lines of bytes that start at an offset. -/
def lines (offset : Nat) (b : Bytes) : List String :=
  if b = [] then []
  else line offset (b.take lineSize) :: lines (offset + lineSize) (b.drop lineSize)
termination_by b.length
decreasing_by
  have := List.length_pos_iff.mpr ‹b ≠ []›
  simp only [List.length_drop, lineSize]; omega

/-- The dump, every line with its line break. -/
def render (b : Bytes) : String := String.join ((lines 0 b).map (· ++ "\n"))

end FlowTraffic.Text.HexDump
