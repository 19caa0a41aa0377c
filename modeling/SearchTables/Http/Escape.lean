import SearchTables.Text.Utf8
import SearchTables.Text.Digit

/-! # Percent escapes

In an address, a byte that may not stand for itself is written as a percent sign and two digits. Which
characters may stand for themselves depends on the part of the address. -/

namespace SearchTables.Http

/-- One hexadecimal digit, in upper case. -/
def upperHexDigit (n : Nat) : Char :=
  if n % 16 < 10 then Char.ofNat ('0'.toNat + n % 16) else Char.ofNat ('A'.toNat + (n % 16 - 10))

/-- One byte as an escape. -/
def escapeByte (b : Nat) : List Char := ['%', upperHexDigit (b / 16), upperHexDigit b]

/-- A code point as the escapes of its bytes. -/
def escapeCode (n : Nat) : List Char := (Text.utf8Code n).flatMap escapeByte

/-- Letters, digits and the four marks that stand for themselves everywhere. -/
def isUnreserved (c : Char) : Bool :=
  c.isAlphanum || c = '-' || c = '.' || c = '_' || c = '~'

/-- Escape every character that may not stand for itself. -/
def escapeUnless (allowed : Char → Bool) (cs : List Char) : List Char :=
  (Text.codesOf cs).flatMap fun n => if allowed (Char.ofNat n) then [Char.ofNat n] else escapeCode n

/-- The byte that two hexadecimal digits at the start of a text stand for. -/
def leadingByte? : List Nat → Option Nat
  | a :: b :: _ =>
      match Text.hexDigit? (Char.ofNat a), Text.hexDigit? (Char.ofNat b) with
      | some high, some low => some (16 * high + low)
      | _, _ => none
  | _ => none

/-- The byte that an escape at the start of a text stands for. -/
def leadingEscape? : List Nat → Option Nat
  | n :: rest => if n = '%'.toNat then leadingByte? rest else none
  | [] => none

/-- Escape what may not stand for itself, and leave escapes as they are. The characters that are still part
of an escape are counted. -/
def escapeRest (allowed : Char → Bool) : Nat → List Nat → List Char
  | _, [] => []
  | kept + 1, n :: rest => Char.ofNat n :: escapeRest allowed kept rest
  | 0, n :: rest =>
      if (leadingEscape? (n :: rest)).isSome then '%' :: escapeRest allowed 2 rest
      else
        (if allowed (Char.ofNat n) then [Char.ofNat n] else escapeCode n) ++ escapeRest allowed 0 rest

/-- The bytes of a text in which escapes stand for bytes. The characters that are still part of an escape are
counted. -/
def unescapedBytes : Nat → List Nat → List Nat
  | _, [] => []
  | escaped + 1, _ :: rest => unescapedBytes escaped rest
  | 0, n :: rest =>
      match leadingEscape? (n :: rest) with
      | some b => b :: unescapedBytes 2 rest
      | none => Text.utf8Code n ++ unescapedBytes 0 rest

/-- A text of ASCII characters with its escapes undone. -/
def unescape (s : String) : String :=
  Text.ofCodePoints (Text.decodeUtf8 (unescapedBytes 0 (Text.codePoints s)))

/-- The characters of a list of index names that stand for themselves: commas and stars besides the
unreserved ones. -/
def isIndexChar (c : Char) : Bool := isUnreserved c || c = ',' || c = '*'

/-- A list of index names as one part of a path; a text that has no bytes is refused. -/
def escapeIndex? (index : String) : Option String :=
  if Text.isEncodable index then some (String.ofList (escapeUnless isIndexChar index.toList)) else none

/-- A code point of a form: the space is a plus. -/
def formCode (n : Nat) : List Char :=
  let c := Char.ofNat n
  if c = ' ' then ['+'] else if isUnreserved c then [c] else escapeCode n

/-- A name or a value of a form. -/
def formText (s : String) : String := String.ofList ((Text.codePoints s).flatMap formCode)

/-- Names and values as a query; texts that have no bytes are refused. -/
def formQuery? (pairs : List (String × String)) : Option String :=
  if pairs.all fun (name, value) => Text.isEncodable name && Text.isEncodable value then
    some ("&".intercalate (pairs.map fun (name, value) => formText name ++ "=" ++ formText value))
  else none

/-! ## Parts of addresses -/

/-- Whether a character is printable ASCII, the space included. -/
def isPrintableAscii (c : Char) : Bool := 0x20 ≤ c.toNat && c.toNat < 0x7f

/-- The characters that stand for themselves in a fragment. -/
def isFragmentChar (c : Char) : Bool :=
  isPrintableAscii c && !(c = ' ' || c = '"' || c = '<' || c = '>' || c = '\x60')

/-- The characters that stand for themselves in a query. -/
def isQueryChar (c : Char) : Bool :=
  isPrintableAscii c && !(c = ' ' || c = '"' || c = '#' || c = '<' || c = '>')

/-- The characters that stand for themselves in a path. -/
def isPathChar (c : Char) : Bool :=
  isQueryChar c && !(c = '?' || c = '\x60' || c = '\x7b' || c = '\x7d')

/-- The characters that stand for themselves before the host; a colon sets the password off. -/
def isUserChar (c : Char) : Bool :=
  isPathChar c &&
    !(c = '/' || c = ';' || c = '=' || c = '@' || c = '[' || c = '\\' || c = ']' || c = '^' ||
      c = '|')

/-- The marks that stand for themselves in a host. -/
def hostMarks : List Char := "!$&'()*+,;=\"\x60\x7b\x7d%|\\".toList

/-- The characters that stand for themselves in a host. -/
def isHostChar (c : Char) : Bool := isUnreserved c || hostMarks.contains c

end SearchTables.Http
