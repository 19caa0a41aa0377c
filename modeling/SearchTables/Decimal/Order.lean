import SearchTables.Decimal.Nearest

/-! # Comparing integers and doubles

Integers and doubles are compared by their exact values. An **extended number** is such a value, one of the
two infinities, or the not-a-number value, which compares with nothing. -/

namespace SearchTables

/-- The exact value of an integer or a double. -/
inductive Extended where
  | finite (num : Int) (den : Nat)
  | infinite (negative : Bool)
  | undefined
deriving DecidableEq, Repr

namespace Extended

/-- The value of an integer. -/
def ofInt (n : Int) : Extended := .finite n 1

/-- The value of a double. -/
def ofFloat (x : Float) : Extended :=
  match exactValue? x with
  | some (num, den) => .finite num den
  | none => if isNotANumber x then .undefined else .infinite (isNegative x)

/-- Strictly smaller. -/
def lt : Extended → Extended → Bool
  | .finite n d, .finite m e => decide (n * e < m * d)
  | .finite _ _, .infinite negative => !negative
  | .infinite negative, .finite _ _ => negative
  | .infinite a, .infinite b => a && !b
  | _, _ => false

/-- Equal as numbers. -/
def eq : Extended → Extended → Bool
  | .finite n d, .finite m e => n * e == m * d
  | .infinite a, .infinite b => a == b
  | _, _ => false

/-- Smaller or equal. -/
def le (a b : Extended) : Bool := lt a b || eq a b

end Extended

end SearchTables
