import SearchTables.Http.Escape
import SearchTables.Text.Blank
import SearchTables.Text.Case
import SearchTables.Text.Charset
import SearchTables.Text.Cut

/-! # Media types

The header that describes a body: a type and, after semicolons, parameters. Of these the client looks for the
character set of the body. -/

namespace SearchTables.Http.MediaType

/-- How many quotes a text has, without those after a backslash, when only the parity counts. -/
def hasOpenQuote (cs : List Char) : Bool :=
  let quotes := cs.count '"'
  let escaped := (cs.zip (cs.drop 1)).countP fun (a, b) => a == '\\' && b == '"'
  (quotes + escaped) % 2 == 1

/-- Cut a text at the semicolons that are not within quotes, after the part in reverse that is under way. -/
def cutParameters (part : List Char) : List Char → List (List Char)
  | [] => [part.reverse]
  | c :: rest =>
      if c = ';' ∧ ¬(hasOpenQuote part.reverse) then part.reverse :: cutParameters [] rest
      else cutParameters (c :: part) rest

/-- A name in lower case and a value, both without blanks around them. -/
def readParameter (cs : List Char) : String × String :=
  let (name, value) := Text.cutOnce '=' cs
  (Text.lowerAscii (Text.trim (String.ofList name)), Text.trim (String.ofList (value.getD [])))

/-- A value without the quotes or the angle brackets around it. -/
def unquoted (value : String) : String :=
  let cs := value.toList
  let inside := (cs.drop 1).dropLast
  if cs.length < 2 then value
  else if cs.head? = some '"' ∧ cs.getLast? = some '"' then
    String.ofList
      (Text.replaceChars ['\\', '"'] ['"'] (Text.replaceChars ['\\', '\\'] ['\\'] inside))
  else if cs.head? = some '<' ∧ cs.getLast? = some '>' then String.ofList inside
  else value

/-- A value with escapes, without the character set and the language that it names first. -/
def extendedValue (value : String) : String :=
  let plain := Text.ofCodePoints (unescapedBytes 0 (Text.codePoints value))
  match Text.cutAt '\'' plain.toList with
  | _ :: _ :: first :: more => String.ofList (Text.joinBy '\'' (first :: more))
  | _ => plain

/-- The name of the character set that a header gives, if it gives one in ASCII. -/
def charsetName? (header : String) : Option String :=
  let parameters := (cutParameters [] header.toList).map readParameter
  let name :=
    ((parameters.lookup "charset").map unquoted).or
      (((parameters.drop 1).lookup "charset*").map fun value => extendedValue (unquoted value))
  (name.filter fun n => n.toList.all (·.toNat < 0x80)).map Text.lowerAscii

/-- The character set of a body with this header: UTF-8 unless it gives one that is known. -/
def charset (header : Option String) : Text.Charset :=
  ((header.bind charsetName?).bind Text.Charset.ofName?).getD (.utf8 false)

end SearchTables.Http.MediaType
