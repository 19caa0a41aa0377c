import SearchTables.Decimal.Nearest
import SearchTables.Text.Blank
import SearchTables.Text.Digit
import SearchTables.Text.Case

/-! # Numerals

Reading decimal numerals as the nearest double. A **plain numeral** is
`[sign] digits [. digits] [e [sign] digits]` with a digit on one side of the point at least. **Free text**
may also surround it with white space, use the digits of any script, separate digits by single underscores
and name the infinities and the not-a-number value. Whole numbers are read from free text as well. -/

namespace SearchTables

/-- The most digits that a whole number may have to be read or written in decimal notation. -/
def maxDecimalDigits : Nat := 4300

/-- The value of a list of decimal digits. -/
def natOfDigits (digits : List Nat) : Nat := digits.foldl (fun n d => 10 * n + d) 0

/-- The parts of a decimal numeral, value `± whole.fraction * 10 ^ exponent`. -/
structure Numeral where
  negative : Bool
  whole : List Nat
  fraction : List Nat
  exponent : Int
deriving DecidableEq, Repr

namespace Numeral

/-- All digits of a numeral as one number. -/
def digits (n : Numeral) : Nat := natOfDigits (n.whole ++ n.fraction)

/-- The power of ten that the digits are multiplied by. -/
def scale (n : Numeral) : Int := n.exponent - n.fraction.length

/-- The double nearest to a numeral. Numerals far outside the range are recognised by their length, so
no huge power is computed. -/
def toFloat (n : Numeral) : Float :=
  let d := n.digits
  if d = 0 then nearestFloat n.negative 0 1
  else
    let order : Int := (Nat.toDigits 10 d).length + n.scale
    if 400 < order then infinity n.negative
    else if order < -400 then nearestFloat n.negative 0 1
    else nearestFloat n.negative (d * Nat.pow 10 n.scale.toNat) (Nat.pow 10 (-n.scale).toNat)

end Numeral

/-- Split an optional sign off: whether it is a minus, and the rest. -/
def splitSign : List Char → Bool × List Char
  | '-' :: rest => (true, rest)
  | '+' :: rest => (false, rest)
  | cs => (false, cs)

/-- The longest run of digits at the start of a text, with the rest. -/
def takeDigits (digit? : Char → Option Nat) : List Char → List Nat × List Char
  | [] => ([], [])
  | c :: rest =>
      match digit? c with
      | some d => let (ds, rest) := takeDigits digit? rest; (d :: ds, rest)
      | none => ([], c :: rest)

/-- The exponent part of a numeral, if one stands at the start of a text. -/
def takeExponent? (digit? : Char → Option Nat) : List Char → Option (Int × List Char)
  | c :: rest =>
      if c = 'e' ∨ c = 'E' then
        let (negative, rest) := splitSign rest
        match takeDigits digit? rest with
        | ([], _) => none
        | (ds, rest) => some (if negative then -(natOfDigits ds : Int) else natOfDigits ds, rest)
      else none
  | [] => none

/-- The exponent part of a numeral, zero if none stands at the start of a text. -/
def takeExponent (digit? : Char → Option Nat) (cs : List Char) : Int × List Char :=
  (takeExponent? digit? cs).getD (0, cs)

/-- The longest unsigned numeral at the start of a text, with the rest. A point needs a digit before or
after it. -/
def takeNumeral (digit? : Char → Option Nat) (negative : Bool) (cs : List Char) :
    Option (Numeral × List Char) :=
  match takeDigits digit? cs with
  | ([], '.' :: rest) =>
      match takeDigits digit? rest with
      | ([], _) => none
      | (fraction, rest) =>
          let (exponent, rest) := takeExponent digit? rest
          some (⟨negative, [], fraction, exponent⟩, rest)
  | ([], _) => none
  | (whole, '.' :: rest) =>
      let (fraction, rest) := takeDigits digit? rest
      let (exponent, rest) := takeExponent digit? rest
      some (⟨negative, whole, fraction, exponent⟩, rest)
  | (whole, rest) =>
      let (exponent, rest) := takeExponent digit? rest
      some (⟨negative, whole, [], exponent⟩, rest)

/-- Remove underscores that stand between two digits; nothing when one stands elsewhere. -/
def dropSeparators? : Option Char → List Char → Option (List Char)
  | _, [] => some []
  | before, '_' :: rest =>
      match before, rest with
      | some b, c :: _ =>
          if (Text.digitValue? b).isSome && (Text.digitValue? c).isSome then
            dropSeparators? (some '_') rest
          else none
      | _, _ => none
  | _, c :: rest => (dropSeparators? (some c) rest).map (c :: ·)

/-- The names of the values that have no digits. -/
def namedFloat? (negative : Bool) (name : String) : Option Float :=
  if name = "inf" ∨ name = "infinity" then
    some (infinity negative)
  else if name = "nan" then some (Float.ofBits 0x7ff8000000000000)
  else none

/-- Read free text as a double. -/
def readFloat? (s : String) : Option Float :=
  let (negative, body) := splitSign (Text.trimWhite s.toList)
  match namedFloat? negative (Text.lowerAscii (String.ofList body)) with
  | some x => some x
  | none =>
      match dropSeparators? none body with
      | none => none
      | some body =>
          match takeNumeral Text.digitValue? negative body with
          | some (n, []) => some n.toFloat
          | _ => none

/-! ## Whole numbers -/

/-- The value of a hexadecimal digit, the decimal ones of any script. -/
def anyHexDigit? (c : Char) : Option Nat := (Text.hexDigit? c).or (Text.digitValue? c)

/-- Digits with single underscores between them. -/
def separatedDigits? (digit? : Char → Option Nat) : Bool → List Char → Option (List Nat)
  | afterDigit, [] => if afterDigit then some [] else none
  | afterDigit, c :: rest =>
      if c = '_' then if afterDigit then separatedDigits? digit? false rest else none
      else
        match digit? c with
        | some d => (separatedDigits? digit? true rest).map (d :: ·)
        | none => none

/-- Drop the mark of a hexadecimal number, with one underscore after it. -/
def dropHexMark : List Char → List Char
  | '0' :: c :: rest =>
      if c = 'x' ∨ c = 'X' then
        match rest with
        | '_' :: more => more
        | more => more
      else '0' :: c :: rest
  | cs => cs

/-- Read free text as a whole number. -/
def readWhole? (hexadecimal : Bool) (cs : List Char) : Option Int :=
  let (negative, body) := splitSign (Text.trimWhite cs)
  let digits :=
    if hexadecimal then separatedDigits? anyHexDigit? false (dropHexMark body)
    else (separatedDigits? Text.digitValue? false body).filter (·.length ≤ maxDecimalDigits)
  digits.map fun ds =>
    let n : Nat := ds.foldl (fun n d => (if hexadecimal then 16 else 10) * n + d) 0
    if negative then -(n : Int) else n

end SearchTables
