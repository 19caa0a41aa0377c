import SearchTables.Error
import SearchTables.Decimal.Numeral

/-! # Reading settings

Settings are given as JSON values and read generously: whole numbers may be integral doubles, truth values
or decimal texts, and truth values may be words. What cannot be read, or is out of bounds, breaks a rule. -/

namespace SearchTables.Setting

/-- Remove a fraction that consists of zeros, at least one. -/
def dropZeroFraction (cs : List Char) : List Char :=
  match cs.dropWhile (· ≠ '.') with
  | _ :: '0' :: rest => if rest.all (· = '0') then cs.takeWhile (· ≠ '.') else cs
  | _ => cs

/-- A text must consist of characters to be read as anything. -/
def characters (s : String) : Except SettingRule (List Char) :=
  if Text.isEncodable s then .ok s.toList else .error .stringUnicode

/-- Remove zeros, and underscores after the first of them, before a first other digit. In front of a point or
at the end the last one stays. -/
def dropLeadingZeros (cs : List Char) : List Char :=
  match cs with
  | '0' :: _ =>
      let run := cs.takeWhile fun c => c = '0' || c = '_'
      match cs.drop run.length with
      | [] => run.drop (run.length - 1)
      | '.' :: rest => run.drop (run.length - 1) ++ '.' :: rest
      | rest => rest
  | _ => cs

/-- A decimal integer in a text, with an optional sign and zeros as its fraction. It must not be too
long. -/
def intOfText (s : String) : Except SettingRule Int := do
  let (negative, body) := splitSign (Text.trimWhite (← characters s))
  let body := if negative then body else dropLeadingZeros body
  match dropSeparators? none (dropZeroFraction body) with
  | none => .error .intParsing
  | some body =>
      match takeDigits Text.asciiDigit? body with
      | (d :: ds, []) =>
          if maxDecimalDigits < (d :: ds).length then .error .intParsingSize
          else
            let n : Int := natOfDigits (d :: ds)
            .ok (if negative then -n else n)
      | _ => .error .intParsing

/-- A numeral that is a whole text, ASCII digits only. -/
def numeralOf? (cs : List Char) : Option Float :=
  let (negative, body) := splitSign cs
  match namedFloat? negative (Text.lowerAscii (String.ofList body)) with
  | some x => some x
  | none =>
      match takeNumeral Text.asciiDigit? negative body with
      | some (n, []) => some n.toFloat
      | _ => none

/-- A text without its underscores, none of which may stand at an end or next to another. -/
def withoutUnderscores? (cs : List Char) : Option (List Char) :=
  if cs.head? = some '_' ∨ cs.getLast? = some '_' ∨ hasDouble cs then none
  else some (cs.filter (· ≠ '_'))
where
  /-- Whether two underscores follow each other. -/
  hasDouble : List Char → Bool
    | '_' :: '_' :: _ => true
    | _ :: rest => hasDouble rest
    | [] => false

/-- A double in a text: a numeral in white space, or one with underscores in it. -/
def floatOfText (s : String) : Except SettingRule Float := do
  let cs ← characters s
  match numeralOf? (Text.trimWhite cs) with
  | some x => .ok x
  | none =>
      match (withoutUnderscores? cs).bind numeralOf? with
      | some x => .ok x
      | none => .error .floatParsing

/-- The largest magnitude of a double that reads as a whole number. -/
def wholeLimit : Int := 9223372036854775808

/-- A whole number given as a double. -/
def intOfFloat (x : Float) : Except SettingRule Int :=
  match exactValue? x with
  | none => .error .finiteNumber
  | some (num, den) =>
      if num % den ≠ 0 then .error .intFromFloat
      else if (num / den).natAbs < wholeLimit then .ok (num / den)
      else .error .intParsingSize

/-- A whole number. -/
def int : Json → Except SettingRule Int
  | .int n => .ok n
  | .bool b => .ok (if b then 1 else 0)
  | .float x => intOfFloat x
  | .str s => intOfText s
  | _ => .error .intType

/-- A fractional number. -/
def float : Json → Except SettingRule Float
  | .float x => .ok x
  | .bool b => .ok (if b then 1.0 else 0.0)
  | .int n =>
      match floatOfInt? n with
      | some x => .ok x
      | none => .error .floatType
  | .str s => floatOfText s
  | _ => .error .floatType

/-- The words for yes. -/
def yesWords : List String := ["1", "on", "t", "true", "y", "yes"]

/-- The words for no. -/
def noWords : List String := ["0", "off", "f", "false", "n", "no"]

/-- A truth value. An integer of more than sixty-four bits is of the wrong kind. -/
def bool : Json → Except SettingRule Bool
  | .bool b => .ok b
  | .int n =>
      if n = 0 then .ok false
      else if n = 1 then .ok true
      else if -wholeLimit ≤ n ∧ n < wholeLimit then .error .boolParsing
      else .error .boolType
  | .float x =>
      match intOfFloat x with
      | .ok n => if n = 0 then .ok false else if n = 1 then .ok true else .error .boolParsing
      | .error _ => .error .boolType
  | .str s => do
      let cs ← characters s
      let word := Text.lowerAscii (String.ofList cs)
      if yesWords.contains word then .ok true
      else if noWords.contains word then .ok false
      else .error .boolParsing
  | _ => .error .boolType

/-- A text. -/
def text : Json → Except SettingRule String
  | .str s => .ok s
  | _ => .error .stringType

/-- A text that is not empty and consists of characters. -/
def nonemptyText (j : Json) : Except SettingRule String := do
  let s ← text j
  let _ ← characters s
  if s = "" then .error .stringTooShort else pure s

/-- A text, or nothing. -/
def optionalText : Json → Except SettingRule (Option String)
  | .null => .ok none
  | j => (text j).map some

/-- A whole number from a least one on. -/
def intFrom (least : Int) (j : Json) : Except SettingRule Int := do
  let n ← int j
  if n < least then .error .greaterThanEqual else pure n

/-- A whole number above zero. -/
def positiveInt (j : Json) : Except SettingRule Int := do
  let n ← int j
  if n ≤ 0 then .error .greaterThan else pure n

/-- A whole number between two bounds. -/
def intBetween (least greatest : Int) (j : Json) : Except SettingRule Int := do
  let n ← intFrom least j
  if greatest < n then .error .lessThanEqual else pure n

/-- A fractional number from a least one on, which the not-a-number value is not. -/
def floatFrom (least : Float) (j : Json) : Except SettingRule Float := do
  let x ← float j
  if least ≤ x then pure x else .error .greaterThanEqual

/-- The value of a named setting: the default when it is not given. Faults are collected. -/
def read {α : Type} (values : List (String × Json)) (field : String) (default : α)
    (reader : Json → Except SettingRule α) (faults : List SettingFault) : α × List SettingFault :=
  match values.lookup field with
  | none => (default, faults)
  | some j =>
      match reader j with
      | .ok x => (x, faults)
      | .error rule => (default, faults ++ [⟨field, rule⟩])

end SearchTables.Setting
