import SearchTables.Json.Basic
import SearchTables.Decimal.Shortest
import SearchTables.Text.Quoted

/-! # JSON values in diagnostics

Diagnostics show an offending value in their own notation, which is not JSON: texts are quoted as in
`Text.quoted`, truth values are capitalised, and there is a space after every separator. -/

namespace SearchTables.Json

/-- Doubles in diagnostics. -/
def shownNumbers : FloatLayout := ⟨-4, 16, 2, "nan", "inf"⟩

mutual

/-- A value as diagnostics show it. -/
def shown : Json → String
  | .null => "None"
  | .bool b => if b then "True" else "False"
  | .int n => toString n
  | .float x => shownNumbers.render x
  | .str s => Text.quoted s
  | .arr items => "[" ++ ", ".intercalate (shownItems items) ++ "]"
  | .obj members => "\x7b" ++ ", ".intercalate (shownMembers members) ++ "\x7d"

/-- The items of an array as diagnostics show them. -/
def shownItems : List Json → List String
  | [] => []
  | item :: rest => shown item :: shownItems rest

/-- The members of an object as diagnostics show them. -/
def shownMembers : List (String × Json) → List String
  | [] => []
  | (name, value) :: rest => (Text.quoted name ++ ": " ++ shown value) :: shownMembers rest

end

end SearchTables.Json
