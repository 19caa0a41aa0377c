/-! # Code points of a text

A text is a sequence of code points, and one half of a UTF-16 surrogate pair may stand alone in it although
it is no character. In a `String` such a half is **written** as two marks, a leading and a trailing one,
which come from a block of private-use characters. The characters of the block are written in the same way,
so every sequence of code points has one written form and can be read back from it. -/

namespace SearchTables.Text

/-- Whether a code point is half of a surrogate pair. -/
def isHalf (n : Nat) : Bool := decide (0xd800 ≤ n ∧ n < 0xe000)

/-- Whether a code point is a mark: the first sixty-four marks lead, the others trail. -/
def isMark (n : Nat) : Bool := decide (0x10f000 ≤ n ∧ n < 0x10f080)

/-- The marks of a place in the list of all halves and then all marks. -/
def marksOf (place : Nat) : List Char :=
  [Char.ofNat (0x10f000 + place / 64), Char.ofNat (0x10f040 + place % 64)]

/-- The written form of a code point. -/
def written (n : Nat) : List Char :=
  if isHalf n then marksOf (n - 0xd800)
  else if isMark n then marksOf (n - 0x10f000 + 0x800)
  else [Char.ofNat n]

/-- The code point at a place in the list of all halves and then all marks. -/
def codeAt (place : Nat) : Nat := if place < 0x800 then 0xd800 + place else 0x10f000 + (place - 0x800)

/-- The code point that a leading and a trailing mark stand for, given their own code points. -/
def pairCode? (lead trail : Nat) : Option Nat :=
  if 0x10f000 ≤ lead ∧ lead < 0x10f040 ∧ 0x10f040 ≤ trail ∧ trail < 0x10f080 then
    some (codeAt ((lead - 0x10f000) * 64 + (trail - 0x10f040)))
  else none

/-- The code points of a written text. -/
def codesOf : List Char → List Nat
  | [] => []
  | [c] => [c.toNat]
  | c :: d :: rest =>
      match pairCode? c.toNat d.toNat with
      | some n => n :: codesOf rest
      | none => c.toNat :: codesOf (d :: rest)

/-- The written form of code points. -/
def writtenAll (codes : List Nat) : List Char := codes.flatMap written

/-- The code points of a text. -/
def codePoints (s : String) : List Nat := codesOf s.toList

/-- The text of code points. -/
def ofCodePoints (codes : List Nat) : String := String.ofList (writtenAll codes)

/-- The written form of a code point, if it is one; nothing past the code space. -/
def written? (n : Nat) : Option (List Char) := if n < 0x110000 then some (written n) else none

/-- The number of code points of a text. -/
def size (s : String) : Nat := (codePoints s).length

/-- The first code points of a text. -/
def first (count : Nat) (s : String) : String := ofCodePoints ((codePoints s).take count)

/-- The texts of the single code points of a text. -/
def letters (s : String) : List String := (codePoints s).map fun n => ofCodePoints [n]

/-- Whether a text comes before another one in the order of code points. -/
def precedes (s t : String) : Bool := decide (codePoints s < codePoints t)

/-- Whether every code point of a text is a character. -/
def isEncodable (s : String) : Bool := !(codePoints s).any isHalf

/-- The characters that a text consists of, if every code point is one. -/
def characters? (s : String) : Option (List Char) :=
  if isEncodable s then some ((codePoints s).map Char.ofNat) else none

/-- The written form of a text all of whose characters stand for themselves. -/
def ofCharacters (s : String) : String := String.ofList (s.toList.flatMap fun c => written c.toNat)

/-! ## Reading back -/

/-- A code point other than a half is its own character. -/
theorem toNat_ofNat {n : Nat} (bound : n < 0x110000) (whole : ¬(0xd800 ≤ n ∧ n < 0xe000)) :
    (Char.ofNat n).toNat = n := by
  have valid : Nat.isValidChar n := by
    simp only [Nat.isValidChar]
    omega
  rw [Char.ofNat, dif_pos valid]
  rfl

/-- The marks of a place lead back to its code point. -/
theorem codesOf_marksOf_append {place : Nat} (bound : place < 0x1000) (rest : List Char) :
    codesOf (marksOf place ++ rest) = codeAt place :: codesOf rest := by
  have lead : (Char.ofNat (0x10f000 + place / 64)).toNat = 0x10f000 + place / 64 :=
    toNat_ofNat (by omega) (by omega)
  have trail : (Char.ofNat (0x10f040 + place % 64)).toNat = 0x10f040 + place % 64 :=
    toNat_ofNat (by omega) (by omega)
  have pair : pairCode? (0x10f000 + place / 64) (0x10f040 + place % 64) = some (codeAt place) := by
    have joined : (0x10f000 + place / 64 - 0x10f000) * 64 + (0x10f040 + place % 64 - 0x10f040) =
        place := by omega
    rw [pairCode?, if_pos (by omega), joined]
  simp only [marksOf, List.cons_append, List.nil_append, codesOf, lead, trail, pair]

/-- A code point that is no mark starts no pair. -/
theorem pairCode?_eq_none {m n : Nat} (plain : ¬(0x10f000 ≤ m ∧ m < 0x10f080)) :
    pairCode? m n = none := by
  rw [pairCode?, if_neg (by omega)]

/-- The first code point of a written text. -/
theorem codesOf_written_append {n : Nat} (bound : n < 0x110000) (rest : List Char) :
    codesOf (written n ++ rest) = n :: codesOf rest := by
  unfold written
  by_cases half : 0xd800 ≤ n ∧ n < 0xe000
  · have self : 0xd800 + (n - 0xd800) = n := by omega
    rw [if_pos (show isHalf n = true from decide_eq_true half), codesOf_marksOf_append (by omega),
      codeAt, if_pos (by omega), self]
  · rw [if_neg (by simpa [isHalf] using half)]
    by_cases mark : 0x10f000 ≤ n ∧ n < 0x10f080
    · have self : 0x10f000 + (n - 0x10f000 + 0x800 - 0x800) = n := by omega
      rw [if_pos (show isMark n = true from decide_eq_true mark), codesOf_marksOf_append (by omega),
        codeAt, if_neg (by omega), self]
    · rw [if_neg (by simpa [isMark] using mark)]
      have self := toNat_ofNat bound half
      cases rest with
      | nil => simp only [List.append_nil, codesOf, self]
      | cons d rest =>
          simp only [List.cons_append, List.nil_append, codesOf, self, pairCode?_eq_none mark]

/-- Code points are read back from their written form. -/
theorem codesOf_writtenAll {codes : List Nat} (bound : ∀ n ∈ codes, n < 0x110000) :
    codesOf (writtenAll codes) = codes := by
  induction codes with
  | nil => rfl
  | cons n rest ih =>
      rw [writtenAll, List.flatMap_cons, codesOf_written_append (bound n (by simp))]
      exact congrArg _ (ih fun m h => bound m (List.mem_cons_of_mem _ h))

end SearchTables.Text
