import SearchTables.Text.Printable
import SearchTables.Text.CodePoint

/-! # Quoted texts in diagnostics

Diagnostics show a text between quotes, with everything that would not print as an escape. The quote
is a single quote unless the text holds single quotes and no double quote. -/

namespace SearchTables.Text

/-- One hexadecimal digit, in lower case. -/
def hexDigit (n : Nat) : Char :=
  if n % 16 < 10 then Char.ofNat ('0'.toNat + n % 16) else Char.ofNat ('a'.toNat + (n % 16 - 10))

/-- The lowest `width` hexadecimal digits of a number. -/
def hexDigits (width n : Nat) : List Char :=
  (List.range width).reverse.map fun place => hexDigit (n / Nat.pow 16 place)

/-- `hexDigits` writes exactly as many digits as asked for. -/
@[simp] theorem length_hexDigits (width n : Nat) : (hexDigits width n).length = width := by
  simp [hexDigits]

/-- The escape of a code point that does not print: the shortest of the two-, four- and eight-digit
forms that can hold it. -/
def escapeCode (n : Nat) : List Char :=
  if n < 0x100 then '\\' :: 'x' :: hexDigits 2 n
  else if n < 0x10000 then '\\' :: 'u' :: hexDigits 4 n
  else '\\' :: 'U' :: hexDigits 8 n

/-- A code point as it stands inside a quoted text. -/
def quotedCode (quote : Char) (n : Nat) : List Char :=
  let c := Char.ofNat n
  if isHalf n then escapeCode n
  else if c = quote ∨ c = '\\' then ['\\', c]
  else if c = '\n' then ['\\', 'n']
  else if c = '\r' then ['\\', 'r']
  else if c = '\t' then ['\\', 't']
  else if isPrintable c then [c]
  else escapeCode n

/-- The quote that a text is shown with. -/
def quoteFor (cs : List Char) : Char := if cs.contains '\'' && !cs.contains '"' then '"' else '\''

/-- A text between quotes. -/
def quoted (s : String) : String :=
  let quote := quoteFor s.toList
  String.ofList (quote :: (codePoints s).flatMap (quotedCode quote) ++ [quote])

end SearchTables.Text
