import SearchTables.Expression.Datum
import SearchTables.Json.Shown

/-! # Data as text

Moments and lengths of time have a text of their own. What has parts is written in the notation of
diagnostics: a given datum by its kind with its content in parentheses, a derived one by its content alone. -/

namespace SearchTables.Datum

/-! ## Times -/

/-- A moment as a text: date, `T`, clock reading to the second and `Z`, whatever its zone. The year has no
zeros in front. -/
def momentText (t : DateTime) : String :=
  String.ofList (t.date.text.toList.dropWhile (· = '0')) ++ "T" ++
    { t.time with microsecond := 0 }.text ++ "Z"

/-- A length of time as a text: whole seconds. -/
def durationText (micros : Int) : String := toString (Int.tdiv micros 1000000) ++ "s"

/-! ## Diagnostics -/

/-- A content under the name of its kind. -/
def ofKind (name content : String) : String := name ++ "(" ++ content ++ ")"

/-- A content whose kind shows only when it was given. -/
def ofOrigin (origin : Origin) (name content : String) : String :=
  match origin with
  | .given => ofKind name content
  | .derived => content

/-- A byte inside a quoted byte string. -/
def shownByte (quote : Char) (n : Nat) : List Char :=
  if n < 0x80 then Text.quotedCode quote n else Text.escapeCode n

/-- A byte string between quotes. -/
def shownBytes (bytes : List Nat) : String :=
  let quote := Text.quoteFor (bytes.map Char.ofNat)
  String.ofList ('b' :: quote :: bytes.flatMap (shownByte quote) ++ [quote])

mutual

/-- A datum in diagnostics, as far as it has parts that can be shown. -/
def shown? : Datum → Option String
  | .null => some "None"
  | .bool b => some (ofKind "BoolType" (if b then "True" else "False"))
  | .int origin n => some (ofOrigin origin "IntType" (toString n))
  | .uint n => some (ofKind "UintType" (toString n))
  | .double origin x => some (ofOrigin origin "DoubleType" (Json.shownNumbers.render x))
  | .text origin s => some (ofOrigin origin "StringType" (Text.quoted s))
  | .bytes origin bs => some (ofOrigin origin "BytesType" (shownBytes bs))
  | .list origin items =>
      (shownItems? items).map fun texts =>
        ofOrigin origin "ListType" ("[" ++ ", ".intercalate texts ++ "]")
  | .map entries =>
      (shownEntries? entries).map fun texts =>
        ofKind "MapType" ("\x7b" ++ ", ".intercalate texts ++ "\x7d")
  | .moment t => some (ofKind "TimestampType" (Text.quoted (momentText t)))
  | .duration .given n => some (ofKind "DurationType" (Text.quoted (durationText n)))
  | .duration .derived _ | .names _ | .symbol _ | .failed => none

/-- The items of a list in diagnostics. -/
def shownItems? : List Datum → Option (List String)
  | [] => some []
  | d :: rest =>
      match shown? d, shownItems? rest with
      | some first, some others => some (first :: others)
      | _, _ => none

/-- The entries of a map in diagnostics. -/
def shownEntries? : List (Datum × Datum) → Option (List String)
  | [] => some []
  | (key, value) :: rest =>
      match shown? key, shown? value, shownEntries? rest with
      | some key, some value, some others => some ((key ++ ": " ++ value) :: others)
      | _, _, _ => none

end

end SearchTables.Datum
