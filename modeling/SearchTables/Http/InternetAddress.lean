import SearchTables.Text.Cut
import SearchTables.Text.Digit

/-! # Internet addresses

A host may be given by an address in place of a name: four numbers of one byte, or eight numbers of two bytes
in hexadecimal, where `::` stands once for a run of zeros and a zone may follow a percent sign. -/

namespace SearchTables.Http

/-! ## Four bytes -/

/-- Whether a text is a number of one byte, without needless zeros. -/
def isByte (cs : List Char) : Bool :=
  cs.all Char.isDigit && cs.length ≤ 3 && !cs.isEmpty && (cs.head? != some '0' || cs.length = 1) &&
    cs.foldl (fun n c => 10 * n + (c.toNat - '0'.toNat)) 0 ≤ 255

/-- Whether a text is an address of four bytes. -/
def isShortAddress (cs : List Char) : Bool :=
  let parts := Text.cutAt '.' cs
  parts.length = 4 && parts.all isByte

/-- How many of a run's digits may be taken for separators: each needs a digit on either side. -/
def roomForSeparators (run : List Char) : Nat := (run.length - 1) / 2

/-- The runs of digits in a text. -/
def digitRuns : List Char → List (List Char)
  | [] => [[]]
  | c :: rest =>
      if c.isDigit then
        match digitRuns rest with
        | [] => [[c]]
        | run :: runs => (c :: run) :: runs
      else [] :: digitRuns rest

/-- Whether a text looks like an address of four bytes: four numbers with any one character between two
of them, even a digit. -/
def looksShort (cs : List Char) : Bool :=
  let runs := digitRuns cs
  runs.all (!·.isEmpty) && runs.length ≤ 4 &&
    4 ≤ runs.length + (runs.map roomForSeparators).foldl (· + ·) 0

/-! ## Eight pairs of bytes -/

/-- Whether a text is a hexadecimal number of two bytes. -/
def isPair (cs : List Char) : Bool :=
  !cs.isEmpty && cs.length ≤ 4 && cs.all fun c => (Text.hexDigit? c).isSome

/-- The address without its zone, unless the zone is malformed. -/
def withoutZone? (cs : List Char) : Option (List Char) :=
  match Text.cutAt '%' cs with
  | [address] => some address
  | [address, zone] => if zone.isEmpty then none else some address
  | _ => none

/-- Two pairs in place of four bytes at the end. -/
def widenLast? (parts : List (List Char)) : Option (List (List Char)) :=
  match parts.getLast? with
  | some last =>
      if last.contains '.' then
        if isShortAddress last then some (parts.dropLast ++ [['0'], ['0']]) else none
      else some parts
  | none => some parts

/-- The place of the first empty part, if there is one. -/
def emptyPart? (parts : List (List Char)) : Option Nat := parts.findIdx? List.isEmpty

/-- Whether parts between colons make eight pairs. An empty part inside stands for the zeros that were left
out; one at either end must be next to it. -/
def arePairs (parts : List (List Char)) : Bool :=
  match emptyPart? (parts.drop 1).dropLast with
  | none => parts.length = 8 && parts.all isPair
  | some inner =>
      let before := parts.take (inner + 1)
      let after := parts.drop (inner + 2)
      let before := if before = [[]] then [] else before
      let after := if after = [[]] then [] else after
      before.length + after.length ≤ 7 && before.all isPair && after.all isPair

/-- Whether a text is an address of eight pairs. -/
def isLongAddress (cs : List Char) : Bool :=
  match withoutZone? cs with
  | none => false
  | some address =>
      let parts := Text.cutAt ':' address
      if parts.length < 3 then false
      else
        match widenLast? parts with
        | some parts => parts.length ≤ 9 && arePairs parts
        | none => false

end SearchTables.Http
