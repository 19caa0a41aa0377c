import SearchTables.Text.Case
import SearchTables.Text.CodeRange
import SearchTables.Text.Utf8

/-! # Regular expressions

A regular expression is matched against the bytes of a text by the **ends** it reaches: from some positions, the
positions at which a match that starts at one of them may end. Positions are kept in ascending order. A character
takes up all its bytes. A repetition is followed until it reaches no new position, so the work is bounded by the
length of the text. -/

namespace SearchTables

open Text (CodeRange)

/-- One member of a character set: ranges, or what lies outside them. -/
structure CharClass where
  negated : Bool
  ranges : List CodeRange
deriving DecidableEq, Repr, Inhabited

/-- A set of characters: what belongs to one of its members, or to none of them. Letter case may not
matter. -/
structure CharSet where
  negated : Bool := false
  members : List CharClass
  ignoreCase : Bool := false
deriving DecidableEq, Repr, Inhabited

namespace CharClass

/-- Whether a code point, or one of those that fold to the same letter, lies in the ranges. -/
def covers (s : CharClass) (ignoreCase : Bool) (n : Nat) : Bool :=
  (if ignoreCase then Text.caseOrbit n else [n]).any fun m => s.ranges.any (·.contains m)

/-- Whether a code point belongs to a member. -/
def contains (s : CharClass) (ignoreCase : Bool) (n : Nat) : Bool := s.covers ignoreCase n != s.negated

/-- The class of one code point. -/
def single (n : Nat) : CharClass := ⟨false, [(n, n)]⟩

end CharClass

namespace CharSet

/-- Whether a code point belongs to a set. -/
def contains (s : CharSet) (n : Nat) : Bool := s.members.any (·.contains s.ignoreCase n) != s.negated

/-- All characters. -/
def all : CharSet := { negated := true, members := [] }

/-- All characters but the line feed. -/
def sameLine : CharSet := { negated := true, members := [.single 0xa] }

/-- The ranges of digits. -/
def digits : List CodeRange := [(0x30, 0x39)]

/-- The ranges of the characters of words. -/
def words : List CodeRange := [(0x30, 0x39), (0x41, 0x5a), (0x5f, 0x5f), (0x61, 0x7a)]

/-- The ranges of white space. -/
def spaces : List CodeRange := [(0x9, 0xa), (0xc, 0xd), (0x20, 0x20)]

end CharSet

/-- A condition on a position that takes up no character. -/
inductive Assertion where
  /-- The start of the text, or of a line. -/
  | start (line : Bool)
  /-- The end of the text, or of a line. -/
  | stop (line : Bool)
  /-- The edge of a word, or anything but one. -/
  | wordEdge (edge : Bool)
deriving DecidableEq, Repr, Inhabited

/-- A regular expression. -/
inductive Regex where
  | empty
  | one (set : CharSet)
  /-- Any byte, be it part of a character only. -/
  | byte
  | assertion (condition : Assertion)
  | seq (first second : Regex)
  | alt (first second : Regex)
  | star (inner : Regex)
deriving Repr, Inhabited

namespace Regex

/-- Whether the byte at a position belongs to a word. -/
def inWord (text : Array Nat) (position : Nat) : Bool :=
  match text[position]? with
  | some b => CharSet.words.any (·.contains b)
  | none => false

/-- Whether the byte at a position ends a line. -/
def isLineFeed (text : Array Nat) (position : Nat) : Bool := text[position]? == some 0xa

/-- Whether a condition holds at a position. -/
def assertionHolds (text : Array Nat) (position : Nat) : Assertion → Bool
  | .start line => position == 0 || (line && isLineFeed text (position - 1))
  | .stop line => position == text.size || (line && isLineFeed text position)
  | .wordEdge edge =>
      ((0 < position && inWord text (position - 1)) != inWord text position) == edge

/-- The low six bits of the byte at a position. -/
def lowBits (text : Array Nat) (position : Nat) : Nat := ((text[position]?).getD 0) % 0x40

/-- The character that starts at a position, with the number of its bytes. -/
def charAt? (text : Array Nat) (p : Nat) : Option (Nat × Nat) :=
  match text[p]? with
  | none => none
  | some b =>
      if b < 0x80 then some (b, 1)
      else if b < 0xc0 then none
      else if b < 0xe0 then some (b % 0x20 * 0x40 + lowBits text (p + 1), 2)
      else if b < 0xf0 then
        some ((b % 0x10 * 0x40 + lowBits text (p + 1)) * 0x40 + lowBits text (p + 2), 3)
      else
        some (((b % 8 * 0x40 + lowBits text (p + 1)) * 0x40 + lowBits text (p + 2)) * 0x40 +
          lowBits text (p + 3), 4)

/-- The positions that are in one of two ascending lists. -/
def union : List Nat → List Nat → List Nat
  | [], qs => qs
  | ps, [] => ps
  | p :: ps, q :: qs =>
      if p < q then p :: union ps (q :: qs)
      else if q < p then q :: union (p :: ps) qs
      else p :: union ps qs
termination_by ps qs => ps.length + qs.length

/-- The positions that are in the first of two ascending lists only. -/
def without : List Nat → List Nat → List Nat
  | [], _ => []
  | ps, [] => ps
  | p :: ps, q :: qs =>
      if p < q then p :: without ps (q :: qs)
      else if q < p then without (p :: ps) qs
      else without ps qs
termination_by ps qs => ps.length + qs.length

/-- A position is in a union if it is in one of its parts. -/
theorem mem_union (ps qs : List Nat) (n : Nat) : n ∈ union ps qs ↔ n ∈ ps ∨ n ∈ qs := by
  fun_induction union ps qs with
  | case1 qs => simp
  | case2 ps => simp
  | case3 p ps q qs _ ih => simp [ih, or_assoc]
  | case4 p ps q qs _ _ ih => simp only [List.mem_cons, ih]; grind
  | case5 p ps q qs _ _ ih =>
      have same : p = q := by omega
      subst same
      simp only [List.mem_cons, ih]
      grind

/-- All positions that repeated steps reach, from those that were reached last: as many rounds as there are
positions suffice. A round that finds nothing new is the last. -/
def closure (step : List Nat → List Nat) : Nat → List Nat → List Nat → List Nat
  | 0, _, found => found
  | rounds + 1, last, found =>
      match without (step last) found with
      | [] => found
      | fresh => closure step rounds fresh (union found fresh)

/-- The positions at which a match that starts at one of some positions may end. -/
def ends (text : Array Nat) : Regex → List Nat → List Nat
  | .empty, ps => ps
  | .one set, ps =>
      ps.filterMap fun p => (charAt? text p).bind fun (n, size) =>
        if set.contains n then some (p + size) else none
  | .byte, ps => (ps.filter (· < text.size)).map (· + 1)
  | .assertion condition, ps => ps.filter fun p => assertionHolds text p condition
  | .seq first second, ps => ends text second (ends text first ps)
  | .alt first second, ps => union (ends text first ps) (ends text second ps)
  | .star inner, ps => closure (ends text inner) (text.size + 1) ps ps

/-- Whether a match occurs anywhere in the bytes of a text. -/
def occursIn (r : Regex) (bytes : List Nat) : Bool :=
  let text := bytes.toArray
  !(r.ends text (List.range (text.size + 1))).isEmpty

/-! ## Derived forms -/

/-- Nothing or a match. -/
def optional (r : Regex) : Regex := .alt r .empty

/-- A given number of matches in a row. -/
def repeated (r : Regex) : Nat → Regex
  | 0 => .empty
  | n + 1 => .seq r (repeated r n)

/-- At most a given number of matches in a row. -/
def atMost (r : Regex) : Nat → Regex
  | 0 => .empty
  | n + 1 => optional (.seq r (atMost r n))

/-- Between two numbers of matches in a row; without an upper one, any number from the lower one on. -/
def between (r : Regex) (least : Nat) : Option Nat → Regex
  | some most => .seq (r.repeated least) (r.atMost (most - least))
  | none => .seq (r.repeated least) (.star r)

end Regex

end SearchTables
