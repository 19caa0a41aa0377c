import SearchTables.Expression.Reader
import SearchTables.Expression.Evaluation
import SearchTables.Filter.Builder
import SearchTables.Row.Decoder

/-! # Row filters

A row filter is an expression that is evaluated on decoded rows, for the part of a filter that the index
cannot answer. Every output column is a variable. A row is kept only when the expression is `true` on it;
an expression without a value keeps nothing. -/

namespace SearchTables

/-! ## Names of columns -/

/-- Whether a text is a name of expressions. -/
def isName (s : String) : Bool :=
  match s.toList with
  | c :: rest => Expression.isNameStart c && rest.all Expression.isNamePart
  | [] => false

/-- A text without one line feed at its end. -/
def withoutLineFeed (s : String) : String :=
  match s.toList.reverse with
  | '\n' :: rest => String.ofList rest.reverse
  | _ => s

/-- The names that a column is bound to. A dot at the start and a line feed at the end do not matter. -/
def columnNames? (column : String) : Option (List String) :=
  let names :=
    match Path.segments (withoutLineFeed column) with
    | "" :: name :: rest => name :: rest
    | names => names
  if names.all isName then some names else none

/-- Bind the cells of a row. Every column must be named by names with dots between them. -/
def bindCells : List (String × Datum) → Scope → Except Error Scope
  | [], scope => .ok scope
  | (column, d) :: rest, scope =>
      match columnNames? column with
      | some names => bindCells rest (scope.bind d names)
      | none => .error .refusedValue

/-- The data of the cells of a row. -/
def rowData : Row → Except Error (List (String × Datum))
  | [] => .ok []
  | (name, v) :: rest => do
      let d ← Datum.ofValue v
      let ds ← rowData rest
      pure ((name, d) :: ds)

/-- The scope that a row gives. -/
def rowScope (row : Row) : Except Error Scope := do
  let cells ← rowData row
  bindCells cells []

/-! ## Filters -/

/-- An expression with its text, to be evaluated on rows. -/
structure RowFilter where
  text : String
  expression : Expression
deriving Inhabited

namespace RowFilter

/-- The spatial functions that an expression names, sorted and each once. -/
def spatialNames (e : Expression) : List String :=
  let found := (spatialFunctions.map (·.1)).filter e.names.contains
  found.mergeSort fun a b => decide (a ≤ b)

/-- The filter of a text. Spatial functions cannot be evaluated on rows, so their names are refused
anywhere. -/
def create (text : String) : Except Error RowFilter :=
  match Expression.read? text with
  | none => .error .filterNotExpression
  | some e =>
      match spatialNames e with
      | [] => .ok ⟨text, e⟩
      | names => .error (.geometryInLocalFilter text names)

/-- Whether an outcome keeps a row. -/
def accepts : Evaluation → Except Error Bool
  | .ok (some (.bool b)) => .ok b
  | .ok _ => .ok false
  | .error .rejected => .ok false
  | .error (.failed e) => .error e

/-- Whether a row is kept. -/
def keeps (f : RowFilter) (row : Row) : Except Error Bool := do
  let scope ← rowScope row
  accepts (f.expression.evaluate scope)

/-- The filter in diagnostics. -/
def shown (f : RowFilter) : String := "RowFilter(" ++ Text.quoted f.text ++ ")"

end RowFilter

end SearchTables
