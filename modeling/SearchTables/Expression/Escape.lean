import SearchTables.Text.CodePoint
import SearchTables.Decimal.Numeral

/-! # Escapes in the texts of a filter

A backslash starts an escape: a letter for a control character, a quote or backslash for itself, `x` with
two or `u` with four digits for a code point. An escape that means nothing is kept as it is written. The
digits of a code point are read as a number: white space around it, a sign, a mark `0x` and single underscores
between digits do not matter. -/

namespace SearchTables.Expression

/-- The character of a one-letter escape. -/
def simpleEscape? (c : Char) : Option Char :=
  if c = 'n' then some '\n'
  else if c = 't' then some '\t'
  else if c = 'r' then some '\r'
  else if c = '\\' ∨ c = '\'' ∨ c = '"' then some c
  else if c = '0' then some '\x00'
  else none

/-- How many digits the escape of a code point has. -/
def codeWidth? (c : Char) : Option Nat :=
  if c = 'x' then some 2 else if c = 'u' then some 4 else none

/-- What an escape of a code point means: the written form of the code point that its digits name. -/
def codeEscape? (width : Nat) (cs : List Char) : Option (List Char) :=
  match readWhole? true (cs.take width) with
  | some (.ofNat n) => Text.written? n
  | _ => none

/-- Replace the escapes of a text, after skipping characters that an escape has used up. -/
def unescapeFrom : Nat → List Char → List Char
  | _, [] => []
  | skip + 1, _ :: rest => unescapeFrom skip rest
  | 0, [c] => [c]
  | 0, c :: d :: rest =>
      if c ≠ '\\' then c :: unescapeFrom 0 (d :: rest)
      else
        match simpleEscape? d with
        | some meant => meant :: unescapeFrom 1 (d :: rest)
        | none =>
            match codeWidth? d with
            | none => c :: d :: unescapeFrom 1 (d :: rest)
            | some width =>
                if width ≤ rest.length then
                  match codeEscape? width rest with
                  | some meant => meant ++ unescapeFrom (1 + width) (d :: rest)
                  -- no code point: the backslash stays, and what follows it is read anew
                  | none => c :: unescapeFrom 0 (d :: rest)
                else c :: d :: unescapeFrom 1 (d :: rest)

/-- Replace the escapes of a text. -/
def unescape (cs : List Char) : List Char := unescapeFrom 0 cs

end SearchTables.Expression
