import SearchTables.Decimal.Numeral
import SearchTables.Text.Quoted

/-! # Tokens of well-known text

Well-known text consists of ASCII words, numerals, parentheses and commas, with blanks anywhere between
them. A word and a numeral are as long as they can be. -/

namespace SearchTables

/-- A token of well-known text. A numeral keeps its spelling for diagnostics. -/
inductive WktToken where
  | word (text : String)
  | number (text : String) (value : Float)
  | sign (c : Char)
deriving Inhabited

namespace WktToken

/-- The spelling of a token. -/
def text : WktToken → String
  | .word text => text
  | .number text _ => text
  | .sign c => String.singleton c

end WktToken

/-- What is wrong with a well-known text. -/
inductive WktFault where
  | badCharacter (offset : Nat)
  | trailing
  | atEnd
  | expectedSign (sign found : String)
  | expectedKeyword (found : String)
  | unsupportedType (name : String)
  | expectedNumber (found : String)
deriving DecidableEq, Repr

/-- The fault in words. -/
def WktFault.message : WktFault → String
  | .badCharacter offset => "unexpected character at offset " ++ toString offset ++ " in WKT"
  | .trailing => "trailing content after WKT geometry"
  | .atEnd => "unexpected end of WKT"
  | .expectedSign sign found =>
      "expected " ++ Text.quoted sign ++ " in WKT, got " ++ Text.quoted found
  | .expectedKeyword found => "expected geometry keyword, got " ++ Text.quoted found
  | .unsupportedType name => "unsupported WKT geometry type " ++ Text.quoted name
  | .expectedNumber found => "expected number in WKT, got " ++ Text.quoted found

namespace Wkt

/-- Whether a character may stand in a word. -/
def isLetter (c : Char) : Bool := ('a' ≤ c && c ≤ 'z') || ('A' ≤ c && c ≤ 'Z')

/-- Whether a character is a token of its own. -/
def isSign (c : Char) : Bool := c = '(' || c = ')' || c = ','

/-- Whether a character may stand in a numeral. -/
def isNumeralPart (c : Char) : Bool :=
  c = '.' || c = '+' || c = '-' || c = 'e' || c = 'E' || (Text.digitValue? c).isSome

/-- The numeral at the start of a text, and what is left of the text. Nothing after the first character that
stands in no numeral is looked at. -/
def takeNumber? (cs : List Char) : Option (WktToken × List Char) :=
  let run := cs.takeWhile isNumeralPart
  let (negative, body) := splitSign run
  (takeNumeral Text.digitValue? negative body).map fun (numeral, left) =>
    (.number (String.ofList (run.take (run.length - left.length))) numeral.toFloat,
      left ++ cs.dropWhile isNumeralPart)

/-- The token at the start of a text without blanks before it, and what is left of the text. -/
def takeToken? : List Char → Option (WktToken × List Char)
  | [] => none
  | c :: rest =>
      if isLetter c then
        some (.word (String.ofList (c :: rest.takeWhile isLetter)), rest.dropWhile isLetter)
      else if isSign c then some (.sign c, rest)
      else takeNumber? (c :: rest)

/-- The tokens of a text of known length, blanks at its end removed. The steps bound the number of tokens;
one for every character is enough. -/
def tokensFrom (size : Nat) : Nat → List Char → Except WktFault (List WktToken)
  | 0, _ => .ok []
  | _ + 1, [] => .ok []
  | steps + 1, cs =>
      match takeToken? (Text.trimStartChars cs) with
      -- the offset is that of the blanks before the character
      | none => .error (.badCharacter (size - (Text.codesOf cs).length))
      | some (token, rest) => (tokensFrom size steps rest).map (token :: ·)

/-- The tokens of a text. -/
def tokens (s : String) : Except WktFault (List WktToken) :=
  let cs := Text.trimEndChars s.toList
  tokensFrom (Text.codesOf cs).length cs.length cs

end Wkt

end SearchTables
