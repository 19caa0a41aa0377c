import SearchTables.Text.Case
import SearchTables.Text.CodePoint
import SearchTables.Text.Cut

/-! # LIKE patterns

In a LIKE pattern `%` stands for any text and `_` for any one character; an escape character takes the
character after it literally. A pattern is a list of tokens, and **matching** is a relation between tokens
and texts, decided by `matches?`. A character here is a code point. -/

namespace SearchTables.Text

/-- One token of a LIKE pattern. -/
inductive LikeToken where
  | literal (c : Nat)
  | anyText
  | anyChar
deriving DecidableEq, Repr

namespace LikeToken

/-- The token that a character without an escape stands for. -/
def ofCode (c : Nat) : LikeToken :=
  if c = 0x25 then .anyText else if c = 0x5f then .anyChar else .literal c

/-- The character of a literal token. -/
def literal? : LikeToken → Option Nat
  | .literal c => some c
  | _ => none

end LikeToken

/-- An escape of one character is in force; the empty text and longer ones are not. -/
def escapeCode? (escape : String) : Option Nat :=
  match codePoints escape with
  | [c] => some c
  | _ => none

/-- The tokens of a pattern. An escape at the very end stands for itself. -/
def splitLike (escape : Option Nat) : List Nat → List LikeToken
  | [] => []
  | [c] => [.ofCode c]
  | c :: d :: rest =>
      if escape = some c then .literal d :: splitLike escape rest
      else .ofCode c :: splitLike escape (d :: rest)

/-- The tokens of a pattern written as a text. -/
def likeTokens (pattern escape : String) : List LikeToken :=
  splitLike (escapeCode? escape) (codePoints pattern)

/-- A text **matches** a list of tokens, characters being compared by a relation. -/
inductive LikeMatches (same : Nat → Nat → Bool) : List LikeToken → List Nat → Prop where
  | nil : LikeMatches same [] []
  | literal {c d : Nat} {tokens : List LikeToken} {cs : List Nat} :
      same c d = true → LikeMatches same tokens cs → LikeMatches same (.literal c :: tokens) (d :: cs)
  | anyChar {d : Nat} {tokens : List LikeToken} {cs : List Nat} :
      LikeMatches same tokens cs → LikeMatches same (.anyChar :: tokens) (d :: cs)
  | anyText {skipped : List Nat} {tokens : List LikeToken} {cs : List Nat} :
      LikeMatches same tokens cs → LikeMatches same (.anyText :: tokens) (skipped ++ cs)

/-- Whether some end of a text satisfies a test. -/
def someEnd (test : List Nat → Bool) : List Nat → Bool
  | [] => test []
  | c :: rest => test (c :: rest) || someEnd test rest

/-- `someEnd` looks at every way to split the text. -/
theorem someEnd_iff (test : List Nat → Bool) (cs : List Nat) :
    someEnd test cs = true ↔ ∃ skipped rest, cs = skipped ++ rest ∧ test rest = true := by
  induction cs with
  | nil =>
      constructor
      · intro h; exact ⟨[], [], rfl, h⟩
      · rintro ⟨skipped, rest, split, h⟩
        obtain ⟨rfl, rfl⟩ := List.append_eq_nil_iff.1 split.symm
        exact h
  | cons c rest ih =>
      simp only [someEnd, Bool.or_eq_true, ih]
      constructor
      · rintro (h | ⟨skipped, tail, rfl, h⟩)
        · exact ⟨[], c :: rest, rfl, h⟩
        · exact ⟨c :: skipped, tail, rfl, h⟩
      · rintro ⟨skipped, tail, split, h⟩
        cases skipped with
        | nil => left; rw [List.nil_append] at split; rw [split]; exact h
        | cons s skipped =>
            rw [List.cons_append, List.cons.injEq] at split
            exact Or.inr ⟨skipped, tail, split.2, h⟩

/-- Decide whether a text matches a list of tokens. -/
def matches? (same : Nat → Nat → Bool) : List LikeToken → List Nat → Bool
  | [], cs => cs.isEmpty
  | .literal c :: tokens, d :: cs => same c d && matches? same tokens cs
  | .anyChar :: tokens, _ :: cs => matches? same tokens cs
  | .anyText :: tokens, cs => someEnd (matches? same tokens) cs
  | .literal _ :: _, [] => false
  | .anyChar :: _, [] => false

/-- The decision agrees with the relation. -/
theorem matches?_iff (same : Nat → Nat → Bool) (tokens : List LikeToken) (cs : List Nat) :
    matches? same tokens cs = true ↔ LikeMatches same tokens cs := by
  induction tokens generalizing cs with
  | nil =>
      cases cs with
      | nil => exact ⟨fun _ => .nil, fun _ => rfl⟩
      | cons c cs => exact ⟨fun h => by simp [matches?] at h, fun h => by cases h⟩
  | cons token tokens ih =>
      cases token with
      | literal c =>
          cases cs with
          | nil => exact ⟨fun h => by simp [matches?] at h, fun h => by cases h⟩
          | cons d cs =>
              simp only [matches?, Bool.and_eq_true, ih]
              exact ⟨fun h => .literal h.1 h.2, fun h => by cases h with | literal s m => exact ⟨s, m⟩⟩
      | anyChar =>
          cases cs with
          | nil => exact ⟨fun h => by simp [matches?] at h, fun h => by cases h⟩
          | cons d cs =>
              simp only [matches?, ih]
              exact ⟨fun h => .anyChar h, fun h => by cases h with | anyChar m => exact m⟩
      | anyText =>
          simp only [matches?, someEnd_iff]
          constructor
          · rintro ⟨skipped, rest, rfl, h⟩; exact .anyText ((ih rest).1 h)
          · intro h
            cases h with
            | anyText m => exact ⟨_, _, rfl, (ih _).2 m⟩

/-! ## All ends at once

Looking at the ends of a text one by one decides the same things again and again. The **row** of a list of
tokens tells of every end of a text, the whole text first, whether it matches, and the row of a longer list is
made from the row of its tail in one pass. -/

/-- A test on every end of a text, the whole text first and the empty one last. -/
def onEnds (test : List Nat → Bool) : List Nat → List Bool
  | [] => [test []]
  | c :: rest => test (c :: rest) :: onEnds test rest

/-- The row of one character before tokens whose row is known. -/
def oneBefore (test : Nat → Bool) : List Nat → List Bool → List Bool
  | c :: cs, _ :: row => (row.headD false && test c) :: oneBefore test cs row
  | _, _ => [false]

/-- The row of any text before tokens whose row is known. -/
def anyBefore : List Bool → List Bool
  | [] => []
  | b :: row =>
      match anyBefore row with
      | [] => [b]
      | a :: later => (b || a) :: a :: later

/-- The row of a list of tokens. -/
def likeRow (same : Nat → Nat → Bool) : List LikeToken → List Nat → List Bool
  | [], cs => onEnds List.isEmpty cs
  | .literal c :: tokens, cs => oneBefore (same c) cs (likeRow same tokens cs)
  | .anyChar :: tokens, cs => oneBefore (fun _ => true) cs (likeRow same tokens cs)
  | .anyText :: tokens, cs => anyBefore (likeRow same tokens cs)

/-- The first entry is about the whole text. -/
theorem onEnds_eq_cons (test : List Nat → Bool) (cs : List Nat) :
    ∃ later, onEnds test cs = test cs :: later := by
  cases cs <;> exact ⟨_, rfl⟩

/-- A row is decided by what a test says of the ends, however it says so. -/
theorem onEnds_congr {test other : List Nat → Bool} (h : ∀ cs, test cs = other cs) (cs : List Nat) :
    onEnds test cs = onEnds other cs := by
  rw [funext h]

/-- The row of one character, by what comes after the character. -/
theorem oneBefore_onEnds (test : Nat → Bool) {after whole : List Nat → Bool} (atEnd : whole [] = false)
    (step : ∀ c cs, whole (c :: cs) = (after cs && test c)) (cs : List Nat) :
    oneBefore test cs (onEnds after cs) = onEnds whole cs := by
  induction cs with
  | nil => rw [onEnds, onEnds, oneBefore, atEnd]; exact fun _ _ _ _ h => by cases h
  | cons c cs ih =>
      obtain ⟨later, h⟩ := onEnds_eq_cons after cs
      rw [onEnds, onEnds, oneBefore, ih, step, h, List.headD_cons]

/-- The row of any text tells whether some end matches what comes after. -/
theorem anyBefore_onEnds (after : List Nat → Bool) (cs : List Nat) :
    anyBefore (onEnds after cs) = onEnds (someEnd after) cs := by
  induction cs with
  | nil => rfl
  | cons c cs ih =>
      obtain ⟨later, h⟩ := onEnds_eq_cons (someEnd after) cs
      rw [onEnds, onEnds, anyBefore, ih, h]
      rfl

/-- A row tells of every end whether it matches. -/
theorem likeRow_eq (same : Nat → Nat → Bool) (tokens : List LikeToken) (cs : List Nat) :
    likeRow same tokens cs = onEnds (matches? same tokens) cs := by
  induction tokens with
  | nil => exact onEnds_congr (fun _ => rfl) cs
  | cons token tokens ih =>
      cases token with
      | literal c =>
          rw [likeRow, ih]
          exact oneBefore_onEnds _ rfl (fun d ds => by rw [matches?, Bool.and_comm]) cs
      | anyChar =>
          rw [likeRow, ih]
          exact oneBefore_onEnds _ rfl (fun d ds => by rw [matches?, Bool.and_true]) cs
      | anyText =>
          rw [likeRow, ih, anyBefore_onEnds]
          exact onEnds_congr (fun _ => rfl) cs

/-! ## Whole texts -/

/-- How a pattern compares characters. -/
def sameChar (ignoreCase : Bool) (c d : Nat) : Bool := if ignoreCase then sameLetter c d else c == d

/-- Whether a text matches a pattern from end to end. -/
def like (pattern escape : String) (ignoreCase : Bool) (value : String) : Bool :=
  (likeRow (sameChar ignoreCase) (likeTokens pattern escape) (codePoints value)).headD false

/-- A text is like a pattern when it matches the tokens of the pattern. -/
theorem like_iff (pattern escape : String) (ignoreCase : Bool) (value : String) :
    like pattern escape ignoreCase value = true ↔
      LikeMatches (sameChar ignoreCase) (likeTokens pattern escape) (codePoints value) := by
  obtain ⟨later, h⟩ :=
    onEnds_eq_cons (matches? (sameChar ignoreCase) (likeTokens pattern escape)) (codePoints value)
  rw [like, likeRow_eq, h, List.headD_cons, matches?_iff]

/-! ## Escaping -/

/-- The escape used unless another one is given. -/
def defaultEscape : String := "\\"

/-- A text as a pattern that matches it: the escape is doubled, then each wildcard gets an escape. -/
def escapeLike (value escape : String) : String :=
  let e := escape.toList
  let doubled := replaceChars e (e ++ e) value.toList
  let percents := replaceChars ['%'] (e ++ ['%']) doubled
  String.ofList (replaceChars ['_'] (e ++ ['_']) percents)

/-- A text inside a wildcard pattern, where `*`, `?` and the backslash are special. -/
def escapeWildcardChars (cs : List Char) : List Char :=
  replaceChars ['?'] ['\\', '?']
    (replaceChars ['*'] ['\\', '*'] (replaceChars ['\\'] ['\\', '\\'] cs))

/-- `escapeWildcardChars` on a whole text. -/
def escapeWildcard (value : String) : String := String.ofList (escapeWildcardChars value.toList)

/-- A token as it is written in a wildcard pattern. -/
def LikeToken.wildcard : LikeToken → List Char
  | .literal c => escapeWildcardChars (written c)
  | .anyText => ['*']
  | .anyChar => ['?']

end SearchTables.Text
