import SearchTables.Expression.Datum

/-! # Scopes

The names that an expression can use. A row may have columns with dots in their names: the column `a.b` is
the name `b` beneath the name `a`, and names beneath a name hide its own value. A variable of the expression
is bound in the same way, so it does not hide names beneath it either. -/

namespace SearchTables

/-- What a name stands for: a value, or names beneath it. -/
inductive Binding where
  | value (datum : Datum)
  | names (bindings : List (String × Binding))
deriving Inhabited

/-- The names of an evaluation. -/
abbrev Scope := List (String × Binding)

namespace Binding

/-- The names beneath a name. -/
def inner : Option Binding → Scope
  | some (.names bindings) => bindings
  | _ => []

mutual

/-- A binding as a datum. -/
def datum : Binding → Datum
  | .value d => d
  | .names bindings => .names (entries bindings)

/-- Bindings as data. -/
def entries : List (String × Binding) → List (String × Datum)
  | [] => []
  | (name, b) :: rest => (name, datum b) :: entries rest

end

end Binding

namespace Scope

/-- Bind a dotted name. Names beneath a name hide its value. -/
def bind (datum : Datum) : List String → Scope → Scope
  | [], scope => scope
  | [name], scope =>
      match scope.lookup name with
      | some (.names _) => scope
      | _ => insertMember name (.value datum) scope
  | name :: rest, scope =>
      insertMember name (.names (bind datum rest (Binding.inner (scope.lookup name)))) scope

/-- The datum that a name stands for. -/
def datum? (scope : Scope) (name : String) : Option Datum := (scope.lookup name).map Binding.datum

/-- A name without names beneath it stands for the value that it was bound to last. -/
theorem datum?_bind_self {scope : Scope} {name : String} (d : Datum)
    (free : ∀ bindings, scope.lookup name ≠ some (.names bindings)) :
    (scope.bind d [name]).datum? name = some d := by
  unfold bind datum?
  split
  · next bindings h => exact absurd h (free bindings)
  · rw [lookup_insertMember_self]
    rfl

end Scope

end SearchTables
