import SearchTables.Expression.Basic
import SearchTables.Decimal.Numeral

/-! # The words of expressions

Blanks and comments, names, numbers and quoted texts. What a character starts depends on the place: where an
operand may begin, a minus before digits belongs to the number; after an operand it is an operator. A quoted
text ends at the first quote that no escape takes up; but an escape that would leave the text without an end
is a backslash like any other character. -/

namespace SearchTables.Expression

/-- Whether a character separates words. -/
def isSeparator (c : Char) : Bool :=
  c = ' ' || c = '\t' || c = '\n' || c = '\x0c' || c = '\r'

/-- Drop separators and comments at the start; a comment runs to the end of its line. -/
def skip (inComment : Bool) : List Char → List Char
  | [] => []
  | [c] => if inComment || isSeparator c then [] else [c]
  | c :: d :: rest =>
      if inComment then skip (c ≠ '\n') (d :: rest)
      else if c = '/' ∧ d = '/' then skip true (d :: rest)
      else if isSeparator c then skip false (d :: rest)
      else c :: d :: rest

/-- Drop separators and comments at the start. -/
def skipBlanks (cs : List Char) : List Char := skip false cs

/-- Drop separators, then a given sign. -/
def takeSign? (sign : List Char) (cs : List Char) : Option (List Char) :=
  let cs := skipBlanks cs
  if sign.isPrefixOf cs then some (cs.drop sign.length) else none

/-! ## Names -/

/-- Whether a name may start with a character. -/
def isNameStart (c : Char) : Bool :=
  c = '_' || ('a' ≤ c && c ≤ 'z') || ('A' ≤ c && c ≤ 'Z')

/-- Whether a name may go on with a character. -/
def isNamePart (c : Char) : Bool := isNameStart c || ('0' ≤ c && c ≤ '9')

/-- The longest name at the start of a text. -/
def takeWord? : List Char → Option (String × List Char)
  | c :: rest =>
      if isNameStart c then
        some (String.ofList (c :: rest.takeWhile isNamePart), rest.dropWhile isNamePart)
      else none
  | [] => none

/-- Whether a word is a truth value, which is never a name. -/
def isTruthWord (word : String) : Bool := word = "true" || word = "false"

/-- Drop separators, then a name. -/
def takeName? (cs : List Char) : Option (String × List Char) :=
  match takeWord? (skipBlanks cs) with
  | some (word, rest) => if isTruthWord word then none else some (word, rest)
  | none => none

/-! ## Numbers -/

/-- The mark of a number without sign at the start of a text. -/
def takeUnsignedMark : List Char → Bool × List Char
  | 'u' :: rest => (true, rest)
  | 'U' :: rest => (true, rest)
  | cs => (false, cs)

/-- A whole number whose digits were read. -/
def wholeNumber (negative hexadecimal : Bool) (digits : List Nat) (rest : List Char) :
    Literal × List Char :=
  match takeUnsignedMark rest with
  | (true, rest) => (.uint negative hexadecimal digits, rest)
  | (false, rest) => (.int negative hexadecimal digits, rest)

/-- The hexadecimal digits after `0x`. -/
def takeHexadecimal? : List Char → Option (List Nat × List Char)
  | '0' :: 'x' :: rest =>
      match takeDigits Text.hexDigit? rest with
      | ([], _) => none
      | found => some found
  | _ => none

/-- Whether what follows the digits of a number makes it a double: a point or an exponent. -/
def isDoubleTail : List Char → Bool
  | '.' :: _ => true
  | cs => (takeExponent? Text.asciiDigit? cs).isSome

/-- A number after its sign. -/
def takeUnsigned? (negative : Bool) (cs : List Char) : Option (Literal × List Char) :=
  match takeNumeral Text.asciiDigit? negative cs with
  | none => none
  | some (numeral, rest) =>
      let (digits, afterDigits) := takeDigits Text.asciiDigit? cs
      if isDoubleTail afterDigits then some (.double numeral.toFloat, rest)
      else
        match takeHexadecimal? cs with
        | some (digits, rest) => some (wholeNumber negative true digits rest)
        | none => some (wholeNumber negative false digits rest)

/-- A number at the start of a text, with its sign. -/
def takeNumber? : List Char → Option (Literal × List Char)
  | '-' :: rest => takeUnsigned? true rest
  | cs => takeUnsigned? false cs

/-! ## Quoted texts -/

/-- Whether a quote still follows; a quote of one character must follow on the same line. -/
def endsLater (quote : List Char) (sameLine : Bool) : List Char → Bool
  | [] => quote.isEmpty
  | c :: rest =>
      quote.isPrefixOf (c :: rest) || (!(sameLine && c = '\n') && endsLater quote sameLine rest)

/-- Whether a backslash takes the next character along although it is a quote or a backslash. -/
def isEscapable (c : Char) : Bool := c = '"' || c = '\'' || c = '\\'

/-- The body of a quoted text and what follows its closing quote. -/
def takeBody? (quote : List Char) (sameLine : Bool) : Nat → List Char →
    Option (List Char × List Char)
  | 0, _ => none
  | _ + 1, [] => none
  | steps + 1, c :: rest =>
      if quote.isPrefixOf (c :: rest) then some ([], (c :: rest).drop quote.length)
      else if sameLine ∧ c = '\n' then none
      else
        match c, rest with
        | '\\', d :: after =>
            -- a backslash escapes the next character only if the text still ends after that
            if isEscapable d && endsLater quote sameLine after then
              (takeBody? quote sameLine steps after).map fun (body, rest) => ('\\' :: d :: body, rest)
            else (takeBody? quote sameLine steps rest).map fun (body, rest) => (c :: body, rest)
        | _, _ => (takeBody? quote sameLine steps rest).map fun (body, rest) => (c :: body, rest)

/-- The text after an opening quote: a tripled quote where it has an end, a single one otherwise. -/
def takeAfterQuote? (quote : Char) (cs : List Char) : Option (List Char × List Char) :=
  let single := takeBody? [quote] true (cs.length + 1) cs
  match cs with
  | a :: b :: more =>
      if a = quote ∧ b = quote then
        match takeBody? [quote, quote, quote] false (more.length + 1) more with
        | some found => some found
        | none => single
      else single
  | _ => single

/-- A quoted text at the start, without a mark before it. -/
def takeQuoted? : List Char → Option (List Char × List Char)
  | '"' :: rest => takeAfterQuote? '"' rest
  | '\'' :: rest => takeAfterQuote? '\'' rest
  | _ => none

/-- A quoted text at the start, possibly marked as raw. -/
def takeText? : List Char → Option (Bool × List Char × List Char)
  | c :: rest =>
      if c = 'r' ∨ c = 'R' then (takeQuoted? rest).map fun (body, rest) => (true, body, rest)
      else (takeQuoted? (c :: rest)).map fun (body, rest) => (false, body, rest)
  | [] => none

/-- A quoted text or byte string at the start. -/
def takeTextLiteral? (cs : List Char) : Option (Literal × List Char) :=
  match takeText? cs with
  | some (raw, body, rest) => some (.text raw body, rest)
  | none =>
      match cs with
      | c :: rest =>
          if c = 'b' ∨ c = 'B' then
            (takeText? rest).map fun (raw, body, rest) => (.bytes raw body, rest)
          else none
      | [] => none

/-- A literal that is no word, at the start of a text where an operand may begin. -/
def takeLiteral? (cs : List Char) : Option (Literal × List Char) :=
  match takeNumber? cs with
  | some found => some found
  | none => takeTextLiteral? cs

/-- The digits of a whole number in a base. -/
def valueOfDigits (base : Nat) (digits : List Nat) : Nat := digits.foldl (fun n d => base * n + d) 0

/-- The integer that a whole number stands for. -/
def intOf (negative hexadecimal : Bool) (digits : List Nat) : Int :=
  let n : Int := valueOfDigits (if hexadecimal then 16 else 10) digits
  if negative then -n else n

end SearchTables.Expression
