import SearchTables.Decimal.Numeral
import SearchTables.Decimal.Order

/-! # Exact decimals

An exact decimal keeps the digits and the exponent that it was written with. Beside the numbers there are the
two infinities and values that are not a number, which may carry digits of their own. A **signaling** one
takes part in nothing: it has no double, and it cannot even be compared. -/

namespace SearchTables

/-- An exact decimal constant. -/
inductive DecimalConstant where
  | finite (numeral : Numeral)
  | infinite (negative : Bool)
  | undefined (negative signaling : Bool) (payload : List Nat)
deriving DecidableEq, Repr

namespace DecimalConstant

/-- Whether a decimal takes part in nothing. -/
def isSignaling : DecimalConstant → Bool
  | .undefined _ signaling _ => signaling
  | _ => false

/-- Whether a decimal is not a number. -/
def isUndefined : DecimalConstant → Bool
  | .undefined _ _ _ => true
  | _ => false

/-- The double nearest to a decimal. -/
def toFloat? : DecimalConstant → Option Float
  | .finite numeral => some numeral.toFloat
  | .infinite negative => some (infinity negative)
  | .undefined _ signaling _ => if signaling then none else some (Float.ofBits 0x7ff8000000000000)

/-- Exponents are compared up to this one: every double and every integer that can be written lies
within. -/
def exponentLimit : Int := 10000

/-- The exact value of a decimal. -/
def extended : DecimalConstant → Extended
  | .finite numeral =>
      let scale := max (-exponentLimit) (min exponentLimit numeral.scale)
      let n : Int := numeral.digits * Nat.pow 10 scale.toNat
      .finite (if numeral.negative then -n else n) (Nat.pow 10 (-scale).toNat)
  | .infinite negative => .infinite negative
  | .undefined _ _ _ => .undefined

/-! ## Text -/

/-- The values without digits of a number by their names. -/
def named? (negative : Bool) (name : List Char) : Option DecimalConstant :=
  let word := String.ofList name
  if word = "inf" ∨ word = "infinity" then some (.infinite negative)
  else
    let signaling := name.head? = some 's'
    match if signaling then name.drop 1 else name with
    | 'n' :: 'a' :: 'n' :: rest =>
        match takeDigits Text.digitValue? rest with
        | (payload, []) => some (.undefined negative signaling (payload.dropWhile (· = 0)))
        | _ => none
    | _ => none

/-- Read the text of an exact decimal. Blanks around it and underscores anywhere do not matter. -/
def read? (s : String) : Option DecimalConstant :=
  let (negative, body) := splitSign ((Text.trim s).toList.filter (· ≠ '_'))
  match named? negative (body.map Char.toLower) with
  | some d => some d
  | none =>
      match takeNumeral Text.digitValue? negative body with
      | some (n, []) => some (.finite n)
      | _ => none

/-- Digits as a text. -/
def digitText (digits : List Nat) : List Char := digits.flatMap fun d => Nat.toDigits 10 d

/-- A minus, if there is one. -/
def signText (negative : Bool) : String := if negative then "-" else ""

/-- The text of a number: positional if its exponent is not above zero and there are at most five zeros after
the point, and with an exponent otherwise. -/
def numeralText (n : Numeral) : String :=
  let digits := Nat.toDigits 10 n.digits
  let count : Int := digits.length
  let left := n.scale + count
  let place := if n.scale ≤ 0 ∧ -6 < left then left else 1
  let body :=
    if place ≤ 0 then '0' :: '.' :: List.replicate (-place).toNat '0' ++ digits
    else if count ≤ place then digits
    else digits.take place.toNat ++ '.' :: digits.drop place.toNat
  let exponent := left - place
  let tail :=
    if exponent = 0 then ""
    else "E" ++ (if exponent < 0 then "-" else "+") ++ toString exponent.natAbs
  signText n.negative ++ String.ofList body ++ tail

/-- The text of a decimal. -/
def text : DecimalConstant → String
  | .finite numeral => numeralText numeral
  | .infinite negative => signText negative ++ "Infinity"
  | .undefined negative signaling payload =>
      signText negative ++ (if signaling then "sNaN" else "NaN") ++ String.ofList (digitText payload)

/-- A decimal has a double unless it is signaling. -/
theorem toFloat?_eq_none_iff (d : DecimalConstant) : d.toFloat? = none ↔ d.isSignaling = true := by
  cases d with
  | finite n => simp [toFloat?, isSignaling]
  | infinite s => simp [toFloat?, isSignaling]
  | undefined n s p => cases s <;> simp [toFloat?, isSignaling]

end DecimalConstant

end SearchTables
