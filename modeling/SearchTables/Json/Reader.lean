import SearchTables.Json.Basic
import SearchTables.Text.CodePoint
import SearchTables.Decimal.Numeral

/-! # Reading JSON text

A reader for JSON text with the usual liberties: `NaN`, `Infinity` and `-Infinity` are numbers, a
repeated name keeps its first place and its last value, and half of a surrogate pair may stand alone in a
string. The grammar is walked with a count of steps taken from the length of the text, which
always suffices. -/

namespace SearchTables.Json

/-- The white space of JSON. -/
def isSpace (c : Char) : Bool := c = ' ' || c = '\t' || c = '\n' || c = '\r'

/-- Drop white space at the start. -/
def skipSpace (cs : List Char) : List Char := cs.dropWhile isSpace

/-- Drop a given word at the start. -/
def dropWord? : List Char → List Char → Option (List Char)
  | [], cs => some cs
  | w :: ws, c :: cs => if w = c then dropWord? ws cs else none
  | _ :: _, [] => none

/-- Four hexadecimal digits at the start. -/
def takeHex4? : List Char → Option (Nat × List Char)
  | a :: b :: c :: d :: rest =>
      match Text.hexDigit? a, Text.hexDigit? b, Text.hexDigit? c, Text.hexDigit? d with
      | some a, some b, some c, some d => some (((a * 16 + b) * 16 + c) * 16 + d, rest)
      | _, _, _, _ => none
  | _ => none

/-- The code point of an escape whose four digits were read: the second half of a surrogate pair is read
along with the first. -/
def pairedEscape (n : Nat) (rest : List Char) : Nat × List Char :=
  if 0xd800 ≤ n ∧ n < 0xdc00 then
    match rest with
    | '\\' :: 'u' :: more =>
        match takeHex4? more with
        | some (m, after) =>
            if 0xdc00 ≤ m ∧ m < 0xe000 then
              (0x10000 + (n - 0xd800) * 0x400 + (m - 0xdc00), after)
            else (n, rest)
        | none => (n, rest)
    | _ => (n, rest)
  else (n, rest)

/-- The character that a one-letter escape stands for. -/
def simpleEscape? (c : Char) : Option Char :=
  if c = '"' ∨ c = '\\' ∨ c = '/' then some c
  else if c = 'b' then some '\x08'
  else if c = 'f' then some '\x0c'
  else if c = 'n' then some '\n'
  else if c = 'r' then some '\r'
  else if c = 't' then some '\t'
  else none

/-- The rest of a string after its opening quote. -/
def readString : Nat → List Char → Option (List Char × List Char)
  | 0, _ => none
  | _ + 1, [] => none
  | _ + 1, '"' :: rest => some ([], rest)
  | steps + 1, '\\' :: 'u' :: rest =>
      match takeHex4? rest with
      | none => none
      | some (n, rest) =>
          let (n, rest) := pairedEscape n rest
          (readString steps rest).map fun (cs, rest) => (Text.written n ++ cs, rest)
  | steps + 1, '\\' :: c :: rest =>
      match simpleEscape? c with
      | none => none
      | some c => (readString steps rest).map fun (cs, rest) => (c :: cs, rest)
  | steps + 1, c :: rest =>
      if c.toNat < 0x20 ∨ c = '\\' then none
      else (readString steps rest).map fun (cs, rest) => (c :: cs, rest)

/-- A number whose sign was read. A leading zero stands alone, and an integer must not be too long. -/
def readNumber (negative : Bool) (cs : List Char) : Option (Json × List Char) :=
  let (whole, rest) :=
    match cs with
    | '0' :: rest => ([0], rest)
    | _ => takeDigits Text.asciiDigit? cs
  if whole.isEmpty then none
  else
    let (fraction, afterFraction) :=
      match rest with
      | '.' :: more =>
          match takeDigits Text.asciiDigit? more with
          | ([], _) => ([], rest)
          | found => found
      | _ => ([], rest)
    match fraction, takeExponent? Text.asciiDigit? afterFraction with
    -- only a number without fraction and exponent is an integer, and only its length is limited
    | [], none =>
        if maxDecimalDigits < whole.length then none
        else
          let n : Int := natOfDigits whole
          some (.int (if negative then -n else n), rest)
    | _, none => some (.float (Numeral.toFloat ⟨negative, whole, fraction, 0⟩), afterFraction)
    | _, some (exponent, rest) =>
        some (.float (Numeral.toFloat ⟨negative, whole, fraction, exponent⟩), rest)

/-- A value that starts with neither a quote nor a bracket. -/
def readScalar (cs : List Char) : Option (Json × List Char) :=
  match cs with
  | 'n' :: _ => (dropWord? "null".toList cs).map (Json.null, ·)
  | 't' :: _ => (dropWord? "true".toList cs).map (Json.bool true, ·)
  | 'f' :: _ => (dropWord? "false".toList cs).map (Json.bool false, ·)
  | 'N' :: _ => (dropWord? "NaN".toList cs).map (Json.float (Float.ofBits 0x7ff8000000000000), ·)
  | 'I' :: _ => (dropWord? "Infinity".toList cs).map (Json.float (infinity false), ·)
  | '-' :: 'I' :: _ => (dropWord? "-Infinity".toList cs).map (Json.float (infinity true), ·)
  | '-' :: rest => readNumber true rest
  | _ => readNumber false cs

mutual

/-- A value at the start of a text, without white space before it. -/
def readValue : Nat → List Char → Option (Json × List Char)
  | 0, _ => none
  | steps + 1, cs =>
      match cs with
      | '"' :: rest =>
          (readString steps rest).map fun (s, rest) => (.str (String.ofList s), rest)
      | '[' :: rest =>
          match skipSpace rest with
          | ']' :: rest => some (.arr [], rest)
          | rest => (readItems steps rest).map fun (items, rest) => (.arr items, rest)
      | '\x7b' :: rest =>
          match skipSpace rest with
          | '\x7d' :: rest => some (.obj [], rest)
          | rest => (readMembers steps rest).map fun (members, rest) => (.obj (membersOf members), rest)
      | cs => readScalar cs

/-- The items of an array up to its closing bracket. -/
def readItems : Nat → List Char → Option (List Json × List Char)
  | 0, _ => none
  | steps + 1, cs =>
      match readValue steps cs with
      | none => none
      | some (item, rest) =>
          match skipSpace rest with
          | ']' :: rest => some ([item], rest)
          | ',' :: rest =>
              (readItems steps (skipSpace rest)).map fun (items, rest) => (item :: items, rest)
          | _ => none

/-- The members of an object up to its closing brace. -/
def readMembers : Nat → List Char → Option (List (String × Json) × List Char)
  | 0, _ => none
  | steps + 1, cs =>
      match cs with
      | '"' :: rest =>
          match readString steps rest with
          | none => none
          | some (name, rest) =>
              match skipSpace rest with
              | ':' :: rest =>
                  match readValue steps (skipSpace rest) with
                  | none => none
                  | some (value, rest) =>
                      match skipSpace rest with
                      | '\x7d' :: rest => some ([(String.ofList name, value)], rest)
                      | ',' :: rest =>
                          (readMembers steps (skipSpace rest)).map fun (members, rest) =>
                            ((String.ofList name, value) :: members, rest)
                      | _ => none
              | _ => none
      | _ => none

end

/-- Read a whole text as one JSON value; nothing when it is not JSON. -/
def read? (s : String) : Option Json :=
  let cs := s.toList
  match readValue (2 * cs.length + 2) (skipSpace cs) with
  | some (j, rest) => if (skipSpace rest).isEmpty then some j else none
  | none => none

end SearchTables.Json
