import SearchTables.Json.Basic
import SearchTables.Text.Blank
import SearchTables.Text.CodePoint

/-! # Field paths

A field inside nested objects is named by its **path**: the names on the way, joined by dots. -/

namespace SearchTables.Path

/-- Cut a text at every dot. -/
def splitDots : List Char → List (List Char)
  | [] => [[]]
  | c :: rest =>
      if c = '.' then [] :: splitDots rest
      else
        match splitDots rest with
        | [] => [[c]]
        | segment :: segments => (c :: segment) :: segments

/-- The names along a path. -/
def segments (path : String) : List String := (splitDots path.toList).map String.ofList

/-- The path through given names. -/
def ofSegments (names : List String) : String := ".".intercalate names

/-- Join paths, leaving empty ones out. -/
def join (parts : List String) : String := ofSegments (parts.filter (· ≠ ""))

/-- One path beneath another. -/
def under (path name : String) : String := join [path, name]

/-- Follow names through nested objects. Arrays are not entered, and `null` counts as absent. -/
def follow : List String → Json → Option Json
  | [], j => some j
  | name :: names, j =>
      match j.get? name with
      | none => none
      | some .null => none
      | some value => follow names value

/-- The value at a path of a document. -/
def find? (document : Json) (path : String) : Option Json := follow (segments path) document

/-- Every strict beginning of a list of names, the empty one left out. -/
def strictPrefixes (names : List String) : List (List String) :=
  (List.range names.length).drop 1 |>.map fun n => names.take n

/-- The paths strictly above given paths. -/
def parents (paths : List String) : List String :=
  (paths.flatMap fun path => (strictPrefixes (segments path)).map ofSegments).eraseDups

/-- The longest path that is accepted. -/
def maxLength : Nat := 1024

/-- Whether a text may be one name of a path: not empty, no blank at the start, no dot and no NUL. -/
def validSegment (segment : String) : Bool :=
  match segment.toList with
  | [] => false
  | c :: rest =>
      c ≠ '.' && !Text.isBlank c && c ≠ '\x00' && rest.all fun d => d ≠ '.' && d ≠ '\x00'

/-- What is wrong with a path. -/
inductive Fault where
  | empty
  | tooLong (path : String)
  | badSegment (path segment : String)
deriving DecidableEq, Repr

/-- The first fault of a path, if it has one. -/
def fault? (path : String) : Option Fault :=
  if path = "" then some .empty
  else if maxLength < Text.size path then some (.tooLong path)
  else ((segments path).find? (!validSegment ·)).map (.badSegment path)

end SearchTables.Path
