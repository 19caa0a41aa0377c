import SearchTables.Text.Category
import SearchTables.Text.CodePoint
import SearchTables.Text.Composition
import SearchTables.Text.Cut
import SearchTables.Text.Direction
import SearchTables.Text.DomainLetter
import SearchTables.Text.Joining
import SearchTables.Text.Punycode
import SearchTables.Text.Script

/-! # Domain names

A domain name is a row of **labels** between dots. A label with characters beyond ASCII is sent in an **ASCII
form**: the mark `xn--` and its Punycode. Not every text is a label: only letters, digits and marks may stand
in it, some of them only next to others, and texts that run both ways have to keep their order. -/

namespace SearchTables

/-- What keeps a text from being a domain name. -/
inductive DomainFault where
  /-- A label that is empty, too long, not composed, in an impossible form, or with a joiner that joins
  nothing. -/
  | malformed
  /-- A code point that stands in no label. -/
  | badCode
  /-- A code point that may not stand where it does. -/
  | badContext
  /-- A label whose characters run both ways. -/
  | badDirection
deriving DecidableEq, Repr

namespace DomainName

/-! ## Labels -/

/-- The combining class of the sign that joins two consonants. -/
def viramaClass : Nat := 9

/-- Whether a sign that joins two consonants stands right before. -/
def followsVirama (before : List Nat) : Bool :=
  match before with
  | n :: _ => Text.combiningClass n == viramaClass
  | [] => false

/-- Whether the next letter joins on a side, marks aside. -/
def joinsNext (side : Text.Joining) (codes : List Nat) : Bool :=
  match codes.dropWhile fun n => Text.joining? n == some .transparent with
  | n :: _ => Text.joining? n == some .dual || Text.joining? n == some side
  | [] => false

/-- Whether a code point is of a script. -/
def isOfScript (name : String) (n : Nat) : Bool := ((Text.script? name).getD []).any (·.contains n)

/-- Whether the next code point is of a script. -/
def meetsScript (name : String) (codes : List Nat) : Bool :=
  match codes with
  | n :: _ => isOfScript name n
  | [] => false

/-- Whether a code point lies in a range. -/
def isWithin (first last n : Nat) : Bool := decide (first ≤ n ∧ n ≤ last)

/-- Whether a code point that is bound to its neighbours may stand between those before it, in reverse, and
those after it; nothing for a code point that stands in no label. -/
def contextHolds? (before : List Nat) (n : Nat) (after : List Nat) : Option Bool :=
  if n = 0x200c then
    some (followsVirama before || (joinsNext .left before && joinsNext .right after))
  else if n = 0x200d then some (followsVirama before)
  else if n = 0xb7 then some (before.head? == some 0x6c && after.head? == some 0x6c)
  else if n = 0x375 then some (meetsScript "Greek" after)
  else if n = 0x5f3 ∨ n = 0x5f4 then some (meetsScript "Hebrew" before)
  else if n = 0x30fb then
    some ((before ++ after).any fun m =>
      m != 0x30fb && ["Hiragana", "Katakana", "Han"].any (isOfScript · m))
  else if isWithin 0x660 0x669 n then some (!(before ++ after).any (isWithin 0x6f0 0x6f9))
  else if isWithin 0x6f0 0x6f9 n then some (!(before ++ after).any (isWithin 0x660 0x669))
  else none

/-- Whether a code point only says how its neighbours join. -/
def isJoiner (n : Nat) : Bool := n == 0x200c || n == 0x200d

/-- Check that every code point of a label may stand where it does. -/
def checkCodes : List Nat → List Nat → Except DomainFault Unit
  | _, [] => .ok ()
  | before, n :: after =>
      if Text.isDomainLetter n then checkCodes (n :: before) after
      else
        match contextHolds? before n after with
        | none => .error .badCode
        | some false => .error (if isJoiner n then .malformed else .badContext)
        | some true => checkCodes (n :: before) after

/-- Whether a label reads in one order: if a character in it runs from right to left then the first one does, no
letter runs from left to right, digits of two kinds are not mixed, and a letter or digit ends it. -/
def readsInOrder (codes : List Nat) : Bool :=
  let directions := codes.map Text.direction
  if directions.any (·.runsLeft) then
    let first := directions.head?
    let last := (directions.reverse.dropWhile (· == .mark)).head?
    (first == some .rightToLeft || first == some .arabicLetter) && !directions.contains .leftToRight &&
      !(directions.contains .arabicNumber && directions.contains .europeanNumber) &&
      (last.any (·.runsLeft) || last == some .europeanNumber)
  else true

/-- Whether a code point is a mark. -/
def isMark (n : Nat) : Bool := ((Text.category? "M").getD []).any (·.contains n)

/-- The longest name, with a dot at its end. -/
def maxLength : Nat := 254

/-- The longest label in its ASCII form. -/
def maxLabelLength : Nat := 63

/-- Check that a text is a label. -/
def checkLabel (codes : List Nat) : Except DomainFault Unit := do
  let hyphen := 0x2d
  if codes.isEmpty || maxLength < codes.length || !Text.isComposed codes then throw .malformed
  else if (codes.drop 2).take 2 = [hyphen, hyphen] then throw .malformed
  else if codes.head? = some hyphen ∨ codes.getLast? = some hyphen then throw .malformed
  else if codes.head?.any isMark then throw .malformed
  else
    checkCodes [] codes
    if readsInOrder codes then pure () else throw .badDirection

/-- The mark of an ASCII form. -/
def asciiMark : List Char := "xn--".toList

/-- The label that an ASCII text stands for. -/
def readLabel (cs : List Char) : Except DomainFault (List Nat) := do
  let cs := cs.map Char.toLower
  if asciiMark.isPrefixOf cs then
    let cs := cs.drop asciiMark.length
    if cs.isEmpty || cs.getLast? = some '-' then throw .malformed
    match Text.Punycode.decode? cs with
    | none => throw .malformed
    | some codes =>
        checkLabel codes
        pure codes
  else
    checkLabel (cs.map Char.toNat)
    pure (cs.map Char.toNat)

/-- The ASCII form of a label. -/
def writeLabel (codes : List Nat) : Except DomainFault (List Char) := do
  let ascii := codes.map Char.ofNat
  let written ←
    if codes.all (· < 0x80) then do
      let _ ← readLabel ascii
      pure ascii
    else do
      checkLabel codes
      pure (asciiMark ++ Text.Punycode.encode codes)
  if maxLabelLength < written.length then throw .malformed
  pure written

/-! ## Names -/

/-- The dots between labels. -/
def dots : List Nat := [0x2e, 0x3002, 0xff0e, 0xff61]

/-- The labels between dots. -/
def cutAtDots : List Nat → List (List Nat)
  | [] => [[]]
  | n :: rest =>
      if dots.contains n then [] :: cutAtDots rest
      else
        match cutAtDots rest with
        | [] => [[n]]
        | label :: labels => (n :: label) :: labels

/-- The labels of a name, and whether a dot ends it. -/
def labels (codes : List Nat) : Except DomainFault (List (List Nat) × Bool) :=
  let found := cutAtDots codes
  if found = [[]] then .error .malformed
  else if found.getLast? = some [] then .ok (found.dropLast, true)
  else .ok (found, false)

/-- The ASCII form of a name. -/
def write (codes : List Nat) : Except DomainFault (List Char) := do
  let (found, ended) ← labels codes
  let found ← found.mapM writeLabel
  let name := Text.joinBy '.' (if ended then found ++ [[]] else found)
  if (if ended then maxLength else maxLength - 1) < name.length then throw .malformed
  pure name

/-- The name that an ASCII form stands for. -/
def read (cs : List Char) : Except DomainFault (List Nat) := do
  let (found, ended) ← labels (cs.map Char.toNat)
  let found ← found.mapM fun label => readLabel (label.map Char.ofNat)
  pure ([0x2e].intercalate (if ended then found ++ [[]] else found))

end DomainName

end SearchTables
