import SearchTables.Regex.Basic
import SearchTables.Text.Category
import SearchTables.Text.Script

/-! # Reading regular expressions

The notation: alternatives with `|`, repetitions `*`, `+`, `?` and `{m,n}` (a following `?` changes only
which of several matches is preferred), groups with or without a name, classes in brackets, class escapes,
categories and scripts after `\p` and `\P`, `.`, literal text between `\Q` and `\E`, any byte `\C`, and the
conditions `^`, `$`, `\A`, `\z`, `\b` and `\B`. The flags `i`, `m`, `s` and `U` may be set for the rest of a
group. -/

namespace SearchTables.Regex

open Text (CodeRange)

/-- The flags in force. Which of several matches is preferred does not matter, so the flag `U` has no place
here. -/
structure Flags where
  ignoreCase : Bool := false
  lines : Bool := false
  dotAll : Bool := false
deriving Inhabited

/-! ## Classes -/

/-- The class of a letter after a backslash; a capital one negates it. -/
def letterClass? (c : Char) : Option CharClass :=
  let ranges? :=
    if c.toLower = 'd' then some CharSet.digits
    else if c.toLower = 'w' then some CharSet.words
    else if c.toLower = 's' then some CharSet.spaces
    else none
  ranges?.map fun ranges => ⟨c.isUpper, ranges⟩

/-- The named classes inside brackets. -/
def namedClasses : List (String × List CodeRange) := [
  ("alnum", [(0x30, 0x39), (0x41, 0x5a), (0x61, 0x7a)]), ("alpha", [(0x41, 0x5a), (0x61, 0x7a)]),
  ("ascii", [(0, 0x7f)]), ("blank", [(0x9, 0x9), (0x20, 0x20)]),
  ("cntrl", [(0, 0x1f), (0x7f, 0x7f)]), ("digit", CharSet.digits), ("graph", [(0x21, 0x7e)]),
  ("lower", [(0x61, 0x7a)]), ("print", [(0x20, 0x7e)]),
  ("punct", [(0x21, 0x2f), (0x3a, 0x40), (0x5b, 0x60), (0x7b, 0x7e)]),
  ("space", [(0x9, 0xd), (0x20, 0x20)]), ("upper", [(0x41, 0x5a)]), ("word", CharSet.words),
  ("xdigit", [(0x30, 0x39), (0x41, 0x46), (0x61, 0x66)])]

/-- The ranges of a property: a general category, a script, or any code point. -/
def property? (name : String) : Option (List CodeRange) :=
  if name = "Any" then some [(0, 0x10ffff)] else (Text.category? name).or (Text.script? name)

/-- Split a mark of negation off. -/
def splitCaret : List Char → Bool × List Char
  | '^' :: rest => (true, rest)
  | cs => (false, cs)

/-- The class of a property, after `p` or `P`: its name is one character, or stands in braces. -/
def takeProperty? (negated : Bool) (cs : List Char) : Option (CharClass × List Char) :=
  let named? : Option (List Char × List Char) :=
    match cs with
    | [] => none
    | '\x7b' :: rest =>
        let name := rest.takeWhile (· ≠ '\x7d')
        match rest.drop name.length with
        | _ :: rest => some (name, rest)
        | [] => none
    | c :: rest => some ([c], rest)
  named?.bind fun (name, rest) =>
    let (caret, name) := splitCaret name
    (property? (String.ofList name)).map fun ranges => (⟨negated != caret, ranges⟩, rest)

/-- A class escape after its backslash. -/
def takeClassEscape? : List Char → Option (CharClass × List Char)
  | 'p' :: rest => takeProperty? false rest
  | 'P' :: rest => takeProperty? true rest
  | c :: rest => (letterClass? c).map fun cls => (cls, rest)
  | [] => none

/-- Whether an escape is a class escape, by its letter. -/
def startsClass : List Char → Bool
  | c :: _ => c = 'p' || c = 'P' || (letterClass? c).isSome
  | [] => false

/-! ## Escapes -/

/-- The code points of the one-letter escapes. -/
def letterEscapes : List (Char × Nat) := [
  ('n', 0xa), ('t', 0x9), ('r', 0xd), ('f', 0xc), ('v', 0xb), ('a', 0x7)]

/-- The largest code point. -/
def maxCode : Nat := 0x10ffff

/-- Hexadecimal digits up to a closing brace, with how many there are so far. -/
def takeBraced? (count n : Nat) : List Char → Option (Nat × List Char)
  | [] => none
  | c :: rest =>
      match Text.hexDigit? c with
      | some d => if maxCode < 16 * n + d then none else takeBraced? (count + 1) (16 * n + d) rest
      | none => if c = '\x7d' ∧ 0 < count then some (n, rest) else none

/-- The code point of an escape `x`. -/
def takeHexadecimal? : List Char → Option (Nat × List Char)
  | '\x7b' :: rest => takeBraced? 0 0 rest
  | a :: b :: rest =>
      match Text.hexDigit? a, Text.hexDigit? b with
      | some a, some b => some (16 * a + b, rest)
      | _, _ => none
  | _ => none

/-- The value of a digit below eight. -/
def octal? (c : Char) : Option Nat := (Text.asciiDigit? c).filter (· < 8)

/-- The code point of one to three octal digits. A single digit must be zero. -/
def takeOctal? (cs : List Char) : Option (Nat × List Char) :=
  let digits := ((cs.take 3).takeWhile fun c => (octal? c).isSome).map fun c => (octal? c).getD 0
  match digits with
  | [] => none
  | [d] => if d = 0 then some (0, cs.drop 1) else none
  | ds => some (ds.foldl (fun n d => 8 * n + d) 0, cs.drop ds.length)

/-- The code point that an escape stands for, after the backslash. A sign stands for itself. -/
def takeEscaped? (cs : List Char) : Option (Nat × List Char) :=
  match cs with
  | [] => none
  | c :: rest =>
      match letterEscapes.lookup c with
      | some n => some (n, rest)
      | none =>
          if c = 'x' then takeHexadecimal? rest
          else if c.isDigit then takeOctal? cs
          else if c.isAlpha ∨ 0x80 ≤ c.toNat then none
          else some (c.toNat, rest)

/-! ## Classes in brackets -/

/-- What stands before the first `:]` of a text, and what after it. -/
def splitNamed? : List Char → Option (List Char × List Char)
  | ':' :: ']' :: rest => some ([], rest)
  | c :: rest => (splitNamed? rest).map fun (name, rest) => (c :: name, rest)
  | [] => none

/-- One character of a class, possibly escaped. -/
def takeClassChar? : List Char → Option (Nat × List Char)
  | '\\' :: rest => takeEscaped? rest
  | c :: rest => some (c.toNat, rest)
  | [] => none

/-- A character of a class, or the range that starts with it. -/
def takeClassRange? (cs : List Char) : Option (CharClass × List Char) :=
  match takeClassChar? cs with
  | none => none
  | some (first, '-' :: c :: rest) =>
      if c = ']' then some (.single first, '-' :: c :: rest)
      else
        match takeClassChar? (c :: rest) with
        | some (last, rest) => if first ≤ last then some (⟨false, [(first, last)]⟩, rest) else none
        | none => none
  | some (first, rest) => some (.single first, rest)

/-- The class of a name between `[:` and `:]`. -/
def namedClass? (name : List Char) : Option CharClass :=
  let (negated, name) := splitCaret name
  (namedClasses.lookup (String.ofList name)).map fun ranges => ⟨negated, ranges⟩

/-- One member of a class in brackets. -/
def takeMember? (cs : List Char) : Option (CharClass × List Char) :=
  match cs with
  | '[' :: ':' :: rest =>
      match splitNamed? rest with
      | some (name, rest) => (namedClass? name).map fun cls => (cls, rest)
      | none => takeClassRange? cs
  | '\\' :: rest => if startsClass rest then takeClassEscape? rest else takeClassRange? cs
  | cs => takeClassRange? cs

/-- The members of a class up to its closing bracket. The first character may be a bracket. -/
def takeMembers? : Nat → Bool → List Char → Option (List CharClass × List Char)
  | 0, _, _ => none
  | steps + 1, first, cs =>
      match first, cs with
      | false, ']' :: rest => some ([], rest)
      | _, cs =>
          match takeMember? cs with
          | some (cls, rest) =>
              (takeMembers? steps false rest).map fun (more, rest) => (cls :: more, rest)
          | none => none

/-- A class after its opening bracket. -/
def takeBracketed? (ignoreCase : Bool) (cs : List Char) : Option (CharSet × List Char) :=
  let (negated, cs) := splitCaret cs
  (takeMembers? (cs.length + 1) true cs).map fun (members, rest) =>
    (⟨negated, members, ignoreCase⟩, rest)

/-! ## Repetitions -/

/-- Bounds of a repetition: the least number and the greatest one, if there is one. -/
abbrev Bounds := Nat × Option Nat

/-- The largest number of a counted repetition, also of nested ones taken together. -/
def maxCount : Nat := 1000

/-- Numbers from here on are not read as numbers. -/
def countLimit : Nat := 1000000000

/-- A decimal number without leading zeros at the start of a text. -/
def takeCount? (cs : List Char) : Option (Nat × List Char) :=
  let digits := cs.takeWhile Char.isDigit
  let n := digits.foldl (fun n d => 10 * n + (d.toNat - '0'.toNat)) 0
  if digits.isEmpty ∨ (digits.head? = some '0' ∧ digits.length ≠ 1) ∨ countLimit ≤ n then none
  else some (n, cs.drop digits.length)

/-- The bounds of a counted repetition, after its opening brace. -/
def takeBounds? (cs : List Char) : Option (Bounds × List Char) :=
  match takeCount? cs with
  | none => none
  | some (least, '\x7d' :: rest) => some ((least, some least), rest)
  | some (least, ',' :: '\x7d' :: rest) => some ((least, none), rest)
  | some (least, ',' :: rest) =>
      match takeCount? rest with
      | some (most, '\x7d' :: rest) => some ((least, some most), rest)
      | _ => none
  | _ => none

/-- A sign of repetition at the start of a text, if there is one: whether it is a counted one, and its
bounds. -/
def takeRepetition? : List Char → Option (Bool × Bounds × List Char)
  | '*' :: rest => some (false, (0, none), rest)
  | '+' :: rest => some (false, (1, none), rest)
  | '?' :: rest => some (false, (0, some 1), rest)
  | '\x7b' :: rest => (takeBounds? rest).map fun (bounds, rest) => (true, bounds, rest)
  | _ => none

/-- Whether bounds are in order and not too large. -/
def boundsFit : Bounds → Bool
  | (least, some most) => least ≤ most && most ≤ maxCount
  | (least, none) => least ≤ maxCount

/-- An expression together with the product of the counts of its nested repetitions, the largest one. -/
structure Counted where
  regex : Regex
  count : Nat := 1
deriving Inhabited

/-- An expression in a repetition. -/
def Counted.between? (r : Counted) (counted : Bool) (bounds : Bounds) : Option Counted :=
  let factor := if counted then max 1 (bounds.2.getD bounds.1) else 1
  if boundsFit bounds ∧ (factor = 1 ∨ r.count * factor ≤ maxCount) then
    some ⟨r.regex.between bounds.1 bounds.2, r.count * factor⟩
  else none

/-! ## Sequences -/

/-- What was read of a sequence. The last expression stands apart, for a repetition may follow it. -/
structure Sequence where
  before : Counted := ⟨.empty, 1⟩
  last : Option Counted := none
  /-- Whether the last thing read was a sign of repetition. -/
  stacked : Bool := false

namespace Sequence

/-- The whole sequence. -/
def whole (s : Sequence) : Counted :=
  match s.last with
  | none => s.before
  | some r => ⟨.seq s.before.regex r.regex, max s.before.count r.count⟩

/-- Append an expression. -/
def push (s : Sequence) (r : Counted) : Sequence := { before := s.whole, last := some r }

/-- Repeat the last expression, which must be there, and not by two signs in a row. -/
def repeatLast? (s : Sequence) (counted : Bool) (bounds : Bounds) : Option Sequence :=
  match s.stacked, s.last with
  | false, some r => (r.between? counted bounds).map fun r => { s with last := some r, stacked := true }
  | _, _ => none

end Sequence

/-! ## Groups -/

/-- Set the flags that letters name, up to a colon or a closing parenthesis. A minus turns the flags after
it off, stands once, and must have one after it. -/
def takeFlags? (off pending : Bool) (flags : Flags) : List Char → Option (Flags × List Char)
  | [] => none
  | c :: rest =>
      if c = ':' ∨ c = ')' then if off && pending then none else some (flags, c :: rest)
      else if c = '-' then if off then none else takeFlags? true true flags rest
      else if c = 'i' then takeFlags? off false { flags with ignoreCase := !off } rest
      else if c = 'm' then takeFlags? off false { flags with lines := !off } rest
      else if c = 's' then takeFlags? off false { flags with dotAll := !off } rest
      else if c = 'U' then takeFlags? off false flags rest
      else none

/-- The categories of the characters of which names of groups consist. -/
def nameCategories : List String := ["L", "Mn", "Mc", "Nd", "Nl", "Pc"]

/-- The ranges of the characters of which names of groups consist. -/
def nameRanges : List CodeRange := nameCategories.flatMap fun name => (Text.category? name).getD []

/-- Drop the name of a group and its closing bracket. -/
def dropGroupName? (cs : List Char) : Option (List Char) :=
  let name := cs.takeWhile (· ≠ '>')
  match cs.drop name.length with
  | _ :: rest =>
      let ranges := nameRanges
      if !name.isEmpty && name.all fun c => ranges.any (·.contains c.toNat) then some rest else none
  | [] => none

/-- What follows an opening parenthesis and a question mark: the flags from there on, whether a group opens,
and the rest. -/
def takeGroupMark? (flags : Flags) (cs : List Char) : Option (Flags × Bool × List Char) :=
  match cs with
  | 'P' :: '<' :: rest => (dropGroupName? rest).map fun rest => (flags, true, rest)
  | '<' :: rest => (dropGroupName? rest).map fun rest => (flags, true, rest)
  | cs =>
      match takeFlags? false false flags cs with
      | some (flags, ':' :: rest) => some (flags, true, rest)
      | some (flags, _ :: rest) => some (flags, false, rest)
      | _ => none

/-! ## Single expressions -/

/-- A single code point as an expression. -/
def charRegex (flags : Flags) (n : Nat) : Regex :=
  .one { members := [.single n], ignoreCase := flags.ignoreCase }

/-- The literal text after `\Q`, up to `\E` or the end. -/
def splitLiteral : List Char → List Char × List Char
  | '\\' :: 'E' :: rest => ([], rest)
  | c :: rest => let (text, rest) := splitLiteral rest; (c :: text, rest)
  | [] => ([], [])

/-- An escape outside brackets, after the backslash. -/
def takeEscape? (flags : Flags) (cs : List Char) : Option (List Regex × List Char) :=
  match cs with
  | 'b' :: rest => some ([.assertion (.wordEdge true)], rest)
  | 'B' :: rest => some ([.assertion (.wordEdge false)], rest)
  | 'A' :: rest => some ([.assertion (.start false)], rest)
  | 'z' :: rest => some ([.assertion (.stop false)], rest)
  | 'C' :: rest => some ([.byte], rest)
  | 'Q' :: rest =>
      let (text, rest) := splitLiteral rest
      some (text.map fun c => charRegex flags c.toNat, rest)
  | cs =>
      if startsClass cs then
        (takeClassEscape? cs).map fun (cls, rest) =>
          ([.one { members := [cls], ignoreCase := flags.ignoreCase }], rest)
      else (takeEscaped? cs).map fun (n, rest) => ([charRegex flags n], rest)

/-- A character, a class, an escape or a condition. Literal text gives an expression for each of its
characters. -/
def takeAtoms? (flags : Flags) : List Char → Option (List Regex × List Char)
  | [] => none
  | c :: rest =>
      if c = '.' then some ([.one (if flags.dotAll then CharSet.all else CharSet.sameLine)], rest)
      else if c = '^' then some ([.assertion (.start flags.lines)], rest)
      else if c = '$' then some ([.assertion (.stop flags.lines)], rest)
      else if c = '[' then
        (takeBracketed? flags.ignoreCase rest).map fun (set, rest) => ([.one set], rest)
      else if c = '\\' then takeEscape? flags rest
      else some ([charRegex flags c.toNat], rest)

/-- Read alternatives up to the end of a group or of the text, after what was read of the first one. Every
step takes up a character. -/
def readFrom? : Nat → Flags → Sequence → List Char → Option (Counted × List Char)
  | 0, _, _, _ => none
  | steps + 1, flags, s, cs =>
      match cs with
      | [] => some (s.whole, [])
      | ')' :: rest => some (s.whole, ')' :: rest)
      | '|' :: rest =>
          (readFrom? steps flags {} rest).map fun (r, rest) =>
            (⟨.alt s.whole.regex r.regex, max s.whole.count r.count⟩, rest)
      | '(' :: rest =>
          -- a mark sets flags for what follows, or opens a group of its own
          let mark :=
            match rest with
            | '?' :: rest => takeGroupMark? flags rest
            | rest => some (flags, true, rest)
          match mark with
          | none => none
          | some (inner, false, rest) => readFrom? steps inner { s with stacked := false } rest
          | some (inner, true, rest) =>
              match readFrom? steps inner {} rest with
              | some (r, ')' :: rest) => readFrom? steps flags (s.push r) rest
              | _ => none
      | cs =>
          match takeRepetition? cs with
          | some (counted, bounds, rest) =>
              match s.repeatLast? counted bounds with
              -- a lazy repetition matches the same texts
              | some s => readFrom? steps flags s (if rest.head? = some '?' then rest.drop 1 else rest)
              | none => none
          | none =>
              match takeAtoms? flags cs with
              | some (atoms, rest) =>
                  readFrom? steps flags (atoms.foldl (fun s r => s.push ⟨r, 1⟩) { s with stacked := false })
                    rest
              | none => none

/-- Read the characters of a text as a regular expression. -/
def read? (cs : List Char) : Option Regex :=
  match readFrom? (cs.length + 1) {} {} cs with
  | some (r, []) => some r.regex
  | _ => none

end SearchTables.Regex
