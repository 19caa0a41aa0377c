import SearchTables.Text.CodePoint

/-! # Bytes of a text

Texts leave the program in UTF-8: one byte for an ASCII character, two to four for any other one. Half of
a surrogate pair has no bytes, so a text with a half in it cannot be sent. -/

namespace SearchTables.Text

/-- The bytes of a code point. -/
def utf8Code (n : Nat) : List Nat :=
  if n < 0x80 then [n]
  else if n < 0x800 then [0xc0 + n / 0x40, 0x80 + n % 0x40]
  else if n < 0x10000 then [0xe0 + n / 0x1000, 0x80 + n / 0x40 % 0x40, 0x80 + n % 0x40]
  else [0xf0 + n / 0x40000, 0x80 + n / 0x1000 % 0x40, 0x80 + n / 0x40 % 0x40, 0x80 + n % 0x40]

/-- The bytes of a text, if it can be sent. -/
def utf8? (s : String) : Option (List Nat) :=
  if isEncodable s then some ((codePoints s).flatMap utf8Code) else none

/-! ## Reading bytes -/

/-- The code point that stands for bytes that are no text. -/
def replacement : Nat := 0xfffd

/-- A code point of which some bytes were read: its bits so far, how many bytes are missing, and the range of the
next one. -/
structure Partial where
  bits : Nat
  missing : Nat
  low : Nat
  high : Nat

/-- What a first byte starts: a code point of one byte, one of which more bytes are to come, or none. -/
def startByte (b : Nat) : Option (Nat ⊕ Partial) :=
  if b < 0x80 then some (.inl b)
  else if b < 0xc2 then none
  else if b < 0xe0 then some (.inr ⟨b - 0xc0, 1, 0x80, 0xbf⟩)
  else if b < 0xf0 then
    some (.inr ⟨b - 0xe0, 2, if b = 0xe0 then 0xa0 else 0x80, if b = 0xed then 0x9f else 0xbf⟩)
  else if b < 0xf5 then
    some (.inr ⟨b - 0xf0, 3, if b = 0xf0 then 0x90 else 0x80, if b = 0xf4 then 0x8f else 0xbf⟩)
  else none

/-- The code points of bytes, one replacement for each longest run of bytes that could have become a code point
and did not. -/
def decodeAfter : Option Partial → List Nat → List Nat
  | none, [] => []
  | some _, [] => [replacement]
  | pending, b :: rest =>
      let fresh (found : List Nat) : List Nat :=
        match startByte b with
        | some (.inl n) => found ++ n :: decodeAfter none rest
        | some (.inr p) => found ++ decodeAfter (some p) rest
        | none => found ++ replacement :: decodeAfter none rest
      match pending with
      | none => fresh []
      | some p =>
          if p.low ≤ b ∧ b ≤ p.high then
            let bits := p.bits * 0x40 + b % 0x40
            if p.missing ≤ 1 then bits :: decodeAfter none rest
            else decodeAfter (some ⟨bits, p.missing - 1, 0x80, 0xbf⟩) rest
          else fresh [replacement]

/-- The code points of bytes. -/
def decodeUtf8 (bytes : List Nat) : List Nat := decodeAfter none bytes

/-- A code point has one to four bytes. -/
theorem length_utf8Code (n : Nat) : 1 ≤ (utf8Code n).length ∧ (utf8Code n).length ≤ 4 := by
  unfold utf8Code
  repeat' split
  all_goals simp

/-- A text without halves can be sent. -/
theorem utf8?_isSome_iff (s : String) : (utf8? s).isSome = isEncodable s := by
  unfold utf8?
  split <;> simp_all

end SearchTables.Text
