import SearchTables.Text.Digit

/-! # Ranges of code points

Large tables of code points are written as texts: hexadecimal numbers and, with a hyphen between them, the
first and the last number of a range. -/

namespace SearchTables.Text

/-- A first and a last code point. -/
abbrev CodeRange := Nat × Nat

/-- Whether a code point lies in a range. -/
def CodeRange.contains (r : CodeRange) (n : Nat) : Bool := decide (r.1 ≤ n) && decide (n ≤ r.2)

/-- The value of a hexadecimal number. -/
def hexValue (cs : List Char) : Nat := cs.foldl (fun n c => 16 * n + (hexDigit? c).getD 0) 0

/-- The range that a text without spaces stands for. -/
def readRange (cs : List Char) : CodeRange :=
  let first := cs.takeWhile (· ≠ '-')
  match cs.drop first.length with
  | [] => (hexValue first, hexValue first)
  | _ :: last => (hexValue first, hexValue last)

/-- The ranges in a line. -/
def readLine (line : String) : List CodeRange := (line.splitOn " ").map fun part => readRange part.toList

/-- The ranges in several lines. -/
def readRanges (lines : List String) : List CodeRange := lines.flatMap readLine

/-- A range contains its ends when they are in order. -/
theorem CodeRange.contains_iff (r : CodeRange) (n : Nat) : r.contains n = true ↔ r.1 ≤ n ∧ n ≤ r.2 := by
  simp [CodeRange.contains]

end SearchTables.Text
