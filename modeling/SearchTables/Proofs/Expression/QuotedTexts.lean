import SearchTables.Filter.Builder
import SearchTables.Proofs.Expression.Operands
import SearchTables.Proofs.Json.PlainText
import SearchTables.Proofs.Text.LikeEscapes
import SearchTables.Proofs.Text.LikeReadings
import SearchTables.Proofs.Text.Parts

/-! # Quoted texts — what is written between quotes is what is read

A code point is **spelled** in a quoted text as itself, by a letter after a backslash, or by its
hexadecimal digits. A text is spelled code point by code point, each of them in any of these ways.
Replacing the escapes of a spelling gives the text back (`unescape_of_spells`): what an escape stands
for is never looked at again, even if it is a backslash. The lexer takes the spelling whole, since a
quote in it stands behind a backslash (`takeBody?_of_spells`). A raw text keeps its characters. -/

namespace SearchTables.Expression

/-! ## Spellings -/

/-- The letters that stand for a code point after a backslash. -/
def simpleEscapes : List (Char × Nat) := [
  ('n', 0x0a), ('t', 0x09), ('r', 0x0d), ('\\', 0x5c), ('\'', 0x27), ('"', 0x22), ('0', 0x00)]

/-- The code points that are not spelled as themselves: the line feed, the quotes and the backslash. -/
def escapedCodes : List Nat := [0x0a, 0x22, 0x27, 0x5c]

/-- **The spellings of a code point** in a quoted text. -/
inductive Spells : List Char → Nat → Prop where
  /-- As itself. -/
  | itself {n : Nat} (hcode : n < 0x110000) (hplain : n ∉ escapedCodes) : Spells (Text.written n) n
  /-- By a letter. -/
  | simple {letter : Char} {n : Nat} (h : (letter, n) ∈ simpleEscapes) : Spells ['\\', letter] n
  /-- By two hexadecimal digits. -/
  | byte {a b : Char} {x y : Nat} (ha : Text.hexDigit? a = some x) (hb : Text.hexDigit? b = some y) :
      Spells ['\\', 'x', a, b] (16 * x + y)
  /-- By four hexadecimal digits. -/
  | unit {a b c d : Char} {x y z w : Nat} (ha : Text.hexDigit? a = some x)
      (hb : Text.hexDigit? b = some y) (hc : Text.hexDigit? c = some z) (hd : Text.hexDigit? d = some w) :
      Spells ['\\', 'u', a, b, c, d] (16 * (16 * (16 * x + y) + z) + w)

/-! ## Hexadecimal digits -/

/-- A hexadecimal digit is a letter or digit of ASCII, and it is worth less than sixteen. -/
theorem hexDigit_bounds {c : Char} {x : Nat} (h : Text.hexDigit? c = some x) :
    c.toNat < 0x80 ∧ x < 16 := by
  have hall : ∀ n < 0x80, ∀ y ∈ Text.hexDigit? (Char.ofNat n), y < 16 := by decide
  have hascii : c.toNat < 0x80 := by
    unfold Text.hexDigit? at h
    split_ifs at h with hrange hrange hrange <;> exact Nat.lt_of_le_of_lt hrange.2 (by decide)
  have hvalue := hall _ hascii x
  rw [Char.ofNat_toNat] at hvalue
  exact ⟨hascii, hvalue h⟩

/-- A hexadecimal digit is no character with a meaning of its own. -/
theorem plain_of_hexDigit {c : Char} {x : Nat} (h : Text.hexDigit? c = some x) :
    Text.isBlank c = false ∧ c ∉ ['-', '+', '_', 'x', 'X', '"', '\'', '\\', '\n'] := by
  have hall : ∀ n < 0x80, (Text.hexDigit? (Char.ofNat n)).isSome = true →
      Text.isBlank (Char.ofNat n) = false ∧
        Char.ofNat n ∉ ['-', '+', '_', 'x', 'X', '"', '\'', '\\', '\n'] := by decide
  have hplain := hall _ (hexDigit_bounds h).1
  rw [Char.ofNat_toNat] at hplain
  exact hplain (by rw [h]; rfl)

/-- The values of several hexadecimal digits. -/
def HexValues (cs : List Char) (xs : List Nat) : Prop :=
  List.Forall₂ (fun c x => Text.hexDigit? c = some x) cs xs

section

variable {cs : List Char} {xs : List Nat}

/-- Each of several hexadecimal digits is one. -/
theorem HexValues.exists_of_mem (h : HexValues cs xs) {c : Char} (hc : c ∈ cs) :
    ∃ x, Text.hexDigit? c = some x := by
  induction h with
  | nil => cases hc
  | cons hfirst _ ih =>
      rcases List.mem_cons.1 hc with rfl | hc
      · exact ⟨_, hfirst⟩
      · exact ih hc

/-- Hexadecimal digits have no blanks around them. -/
theorem HexValues.tight (h : HexValues cs xs) (hne : cs ≠ []) : Text.Tight cs := by
  have hblank : ∀ c ∈ cs, Text.isBlank c = false := fun c hc => by
    obtain ⟨x, hx⟩ := h.exists_of_mem hc
    exact (plain_of_hexDigit hx).1
  constructor
  · obtain ⟨c, rest, rfl⟩ := List.exists_cons_of_ne_nil hne
    exact ⟨c, rest, rfl, hblank c List.mem_cons_self⟩
  · obtain ⟨before, c, rfl⟩ := (List.eq_nil_or_concat cs).resolve_left hne
    rw [List.concat_eq_append] at hblank ⊢
    exact ⟨before, c, rfl, hblank c (by simp)⟩

/-- Hexadecimal digits have no sign. -/
theorem HexValues.splitSign (h : HexValues cs xs) : splitSign cs = (false, cs) := by
  cases h with
  | nil => rfl
  | cons hfirst _ =>
      have hplain := (plain_of_hexDigit hfirst).2
      unfold SearchTables.splitSign
      split
      · rename_i heq
        exact absurd (by rw [(List.cons.inj heq).1]; decide) hplain
      · rename_i heq
        exact absurd (by rw [(List.cons.inj heq).1]; decide) hplain
      · rfl

/-- Nor the mark of a hexadecimal number. -/
theorem HexValues.dropHexMark (h : HexValues cs xs) : dropHexMark cs = cs := by
  unfold SearchTables.dropHexMark
  split
  · rename_i c rest
    obtain ⟨x, hx⟩ := h.exists_of_mem (List.mem_cons_of_mem _ List.mem_cons_self : c ∈ '0' :: c :: rest)
    have hplain := (plain_of_hexDigit hx).2
    refine if_neg ?_
    rintro (rfl | rfl) <;> exact hplain (by decide)
  · rfl

/-- Hexadecimal digits are read one by one. -/
theorem HexValues.separatedDigits? (h : HexValues cs xs) :
    ∀ {afterDigit : Bool}, afterDigit = true ∨ cs ≠ [] →
      separatedDigits? anyHexDigit? afterDigit cs = some xs := by
  induction h with
  | nil =>
      rintro _ (rfl | hne)
      · rfl
      · exact absurd rfl hne
  | cons hfirst _ ih =>
      intro afterDigit _
      have hscore := (plain_of_hexDigit hfirst).2
      rw [SearchTables.separatedDigits?, if_neg (by rintro rfl; exact hscore (by decide)), anyHexDigit?,
        hfirst, Option.some_or]
      exact congrArg (Option.map _) (ih (.inl rfl))

/-- **Hexadecimal digits are read as the number that they write.** -/
theorem readWhole?_of_hexValues (h : HexValues cs xs) (hne : cs ≠ []) :
    readWhole? true cs = some (valueOfDigits 16 xs : Int) := by
  rw [readWhole?, Text.trimWhite_of_tight (h.tight hne), h.splitSign]
  simp only [if_true, h.dropHexMark, h.separatedDigits? (.inr hne), Option.map_some, valueOfDigits,
    Bool.false_eq_true, if_false]

/-- The escape of a code point means the code point, whatever follows its digits. -/
theorem codeEscape?_of_hexValues (h : HexValues cs xs) (hne : cs ≠ [])
    (hcode : valueOfDigits 16 xs < 0x110000) (rest : List Char) :
    codeEscape? cs.length (cs ++ rest) = some (Text.written (valueOfDigits 16 xs)) := by
  rw [codeEscape?, List.take_left, readWhole?_of_hexValues h hne]
  exact if_pos hcode

end

/-! ## Replacing the escapes of a spelling -/

/-- Skipped characters are gone. -/
theorem unescapeFrom_append (cs rest : List Char) :
    unescapeFrom cs.length (cs ++ rest) = unescapeFrom 0 rest := by
  induction cs with
  | nil => rfl
  | cons c cs ih => rw [List.length_cons, List.cons_append, unescapeFrom, ih]

/-- Characters other than backslashes stay. -/
theorem unescape_append_of_plain {cs : List Char} (h : '\\' ∉ cs) (rest : List Char) :
    unescape (cs ++ rest) = cs ++ unescape rest := by
  induction cs with
  | nil => rfl
  | cons c cs ih =>
      rw [List.mem_cons, not_or] at h
      rw [List.cons_append, List.cons_append, ← ih h.2]
      -- escapes are looked for where two characters are left
      cases cs ++ rest with
      | nil => rfl
      | cons d more => rw [unescape, unescape, unescapeFrom, if_pos (Ne.symm h.1)]

/-- A text without escapes stands for itself. -/
theorem unescape_of_plain {body : List Char} (h : '\\' ∉ body) : unescape body = body := by
  have hplain := unescape_append_of_plain h []
  rwa [List.append_nil, show unescape [] = [] from rfl, List.append_nil] at hplain

/-- An escape of one letter is replaced by what the letter stands for. -/
theorem unescape_simple {letter meant : Char} (h : simpleEscape? letter = some meant) (rest : List Char) :
    unescape ('\\' :: letter :: rest) = meant :: unescape rest := by
  rw [unescape, unescapeFrom, if_neg (by simp), h]
  rfl

/-- **An escape of a code point is replaced by its written form**: what was used up is skipped, and the
rest of the text is looked at as before. -/
theorem unescape_code {mark : Char} {cs : List Char} {xs : List Nat} (hsimple : simpleEscape? mark = none)
    (hwidth : codeWidth? mark = some cs.length) (h : HexValues cs xs) (hne : cs ≠ [])
    (hcode : valueOfDigits 16 xs < 0x110000) (rest : List Char) :
    unescape ('\\' :: mark :: (cs ++ rest)) = Text.written (valueOfDigits 16 xs) ++ unescape rest := by
  have hfits : cs.length ≤ (cs ++ rest).length := by
    rw [List.length_append]
    omega
  have hskip : unescapeFrom (1 + cs.length) (mark :: (cs ++ rest)) = unescape rest := by
    rw [Nat.add_comm, unescapeFrom, unescapeFrom_append, unescape]
  rw [unescape, unescapeFrom, if_neg (by simp), hsimple, hwidth]
  simp only [if_pos hfits, codeEscape?_of_hexValues h hne hcode, hskip]

/-- Where a spelling begins, the code point is read and the rest is looked at as before. -/
theorem Spells.unescape_append {piece : List Char} {n : Nat} (h : Spells piece n) (rest : List Char) :
    unescape (piece ++ rest) = Text.written n ++ unescape rest := by
  cases h with
  | itself hcode hplain =>
      -- a code point that is written as itself writes no backslash
      refine unescape_append_of_plain (fun hmem => ?_) rest
      rcases Text.toNat_of_mem_written hcode hmem with heq | hmark
      · exact hplain (heq ▸ (by decide))
      · exact absurd hmark (by decide)
  | simple h =>
      simp only [simpleEscapes, List.mem_cons, List.not_mem_nil, or_false, Prod.mk.injEq] at h
      obtain ⟨rfl, rfl⟩ | ⟨rfl, rfl⟩ | ⟨rfl, rfl⟩ | ⟨rfl, rfl⟩ | ⟨rfl, rfl⟩ | ⟨rfl, rfl⟩ | ⟨rfl, rfl⟩ := h <;>
        exact unescape_simple rfl rest
  | @byte a b x y ha hb =>
      have hvalues : HexValues [a, b] [x, y] := .cons ha (.cons hb .nil)
      have hvalue : valueOfDigits 16 [x, y] = 16 * x + y := by simp [valueOfDigits]
      have hx := (hexDigit_bounds ha).2
      have hy := (hexDigit_bounds hb).2
      rw [← hvalue]
      exact unescape_code (rfl : simpleEscape? 'x' = none) rfl hvalues (by simp) (by omega) rest
  | @unit a b c d x y z w ha hb hc hd =>
      have hvalues : HexValues [a, b, c, d] [x, y, z, w] := .cons ha (.cons hb (.cons hc (.cons hd .nil)))
      have hvalue : valueOfDigits 16 [x, y, z, w] = 16 * (16 * (16 * x + y) + z) + w := by
        simp [valueOfDigits]
      have hx := (hexDigit_bounds ha).2
      have hy := (hexDigit_bounds hb).2
      have hz := (hexDigit_bounds hc).2
      have hw := (hexDigit_bounds hd).2
      rw [← hvalue]
      exact unescape_code (rfl : simpleEscape? 'u' = none) rfl hvalues (by simp) (by omega) rest

/-- What is spelled is a code point. -/
theorem Spells.code_lt {piece : List Char} {n : Nat} (h : Spells piece n) : n < 0x110000 := by
  cases h with
  | itself hcode => exact hcode
  | simple h =>
      have hall : ∀ escape ∈ simpleEscapes, escape.2 < 0x110000 := by decide
      exact hall _ h
  | byte ha hb =>
      have hx := (hexDigit_bounds ha).2
      have hy := (hexDigit_bounds hb).2
      omega
  | unit ha hb hc hd =>
      have hx := (hexDigit_bounds ha).2
      have hy := (hexDigit_bounds hb).2
      have hz := (hexDigit_bounds hc).2
      have hw := (hexDigit_bounds hd).2
      omega

/-- Spelled texts consist of code points. -/
theorem lt_of_spells {pieces : List (List Char)} {codes : List Nat}
    (h : List.Forall₂ Spells pieces codes) : ∀ n ∈ codes, n < 0x110000 := by
  induction h with
  | nil => exact List.forall_mem_nil _
  | cons hfirst _ ih => exact List.forall_mem_cons.2 ⟨hfirst.code_lt, ih⟩

/-- **Replacing the escapes of a spelled text gives the text.** The induction is on the code points: each
step reads one spelling, so what an escape stands for never starts another one. -/
theorem unescape_of_spells {pieces : List (List Char)} {codes : List Nat}
    (h : List.Forall₂ Spells pieces codes) : unescape pieces.flatten = Text.writtenAll codes := by
  induction h with
  | nil => rfl
  | cons hfirst _ ih =>
      rw [List.flatten_cons, hfirst.unescape_append, ih, Text.writtenAll_cons]

/-! ## Where a spelling ends -/

section

variable {quote : Char} {cs body rest : List Char}

/-- A backslash takes a quote or a backslash along, where the text still has an end. -/
theorem EndsAt.escape (h : EndsAt quote cs body rest) {d : Char} (hquote : '\\' ≠ quote)
    (hescapable : isEscapable d = true) (hlater : endsLater [quote] true cs = true) :
    EndsAt quote ('\\' :: d :: cs) ('\\' :: d :: body) rest := by
  intro steps hsteps
  obtain ⟨steps, rfl⟩ : ∃ fewer, steps = fewer + 1 := ⟨steps - 1, by omega⟩
  have hrest := h steps (by simp only [List.length_cons] at hsteps; omega)
  have hnot : [quote].isPrefixOf ('\\' :: d :: cs) = false := by
    rw [List.isPrefixOf, beq_false_of_ne (Ne.symm hquote), Bool.false_and]
  unfold takeBody?
  rw [hnot, if_neg Bool.false_ne_true, if_neg (fun hboth => absurd hboth.2 (by decide))]
  simp only [hescapable, hlater, Bool.and_self, if_true, hrest, Option.map_some]

/-- A quote follows on the same line where nothing before it ends the line. -/
theorem endsLater_append (hfeed : '\n' ∉ body) (rest : List Char) :
    endsLater [quote] true (body ++ quote :: rest) = true := by
  induction body with
  | nil => simp [endsLater]
  | cons c body ih =>
      rw [List.mem_cons, not_or] at hfeed
      rw [List.cons_append, endsLater, ih hfeed.2]
      simp [Ne.symm hfeed.1]

end

/-- An **ordinary** character neither ends a quoted text or its line nor is taken along by a
backslash. -/
def Ordinary (c : Char) : Prop := isEscapable c = false ∧ c ≠ '\n'

instance (c : Char) : Decidable (Ordinary c) := inferInstanceAs (Decidable (_ ∧ _))

/-- An ordinary character is no quote. -/
theorem Ordinary.ne {c quote : Char} (h : Ordinary c) (hquote : isEscapable quote = true) : c ≠ quote := by
  rintro rfl
  exact Bool.false_ne_true (h.1.symm.trans hquote)

/-- A hexadecimal digit is ordinary. -/
theorem ordinary_of_hexDigit {c : Char} {x : Nat} (h : Text.hexDigit? c = some x) : Ordinary c := by
  have hplain := (plain_of_hexDigit h).2
  simp_all [Ordinary, isEscapable]

/-- So is every character of a code point that stands for itself. -/
theorem ordinary_of_mem_written {n : Nat} (hcode : n < 0x110000) (hplain : n ∉ escapedCodes) {c : Char}
    (hc : c ∈ Text.written n) : Ordinary c := by
  by_contra hspecial
  have hescaped : c.toNat ∈ escapedCodes := by
    have hcases : c = '"' ∨ c = '\'' ∨ c = '\\' ∨ c = '\n' := by
      simp only [Ordinary, isEscapable] at hspecial
      grind
    rcases hcases with rfl | rfl | rfl | rfl <;> decide
  rcases Text.toNat_of_mem_written hcode hc with heq | hmark
  · exact hplain (heq ▸ hescaped)
  · have hbelow : ∀ m ∈ escapedCodes, m < 0x10f000 := by decide
    exact absurd hmark (Nat.not_le.2 (hbelow _ hescaped))

namespace Spells

variable {quote : Char} {piece cs body rest : List Char} {n : Nat}

/-- **A spelling has one of three shapes**: ordinary characters, a backslash that takes one character
along, and a backslash before ordinary characters. -/
theorem shape (h : Spells piece n) :
    (piece ≠ [] ∧ ∀ c ∈ piece, Ordinary c) ∨ (∃ d, piece = ['\\', d] ∧ isEscapable d = true) ∨
      ∃ d more, piece = '\\' :: d :: more ∧ ∀ c ∈ d :: more, Ordinary c := by
  cases h with
  | itself hcode hplain =>
      exact .inl ⟨Text.written_ne_nil _, fun c => ordinary_of_mem_written hcode hplain⟩
  | @simple letter _ h =>
      have hall : ∀ escape ∈ simpleEscapes, isEscapable escape.1 = true ∨ Ordinary escape.1 := by decide
      rcases hall _ h with hescapable | hordinary
      · exact .inr (.inl ⟨letter, rfl, hescapable⟩)
      · exact .inr (.inr ⟨letter, [], rfl, List.forall_mem_singleton.2 hordinary⟩)
  | byte ha hb =>
      refine .inr (.inr ⟨'x', _, rfl, ?_⟩)
      simp only [List.forall_mem_cons]
      exact ⟨by decide, ordinary_of_hexDigit ha, ordinary_of_hexDigit hb, List.forall_mem_nil _⟩
  | unit ha hb hc hd =>
      refine .inr (.inr ⟨'u', _, rfl, ?_⟩)
      simp only [List.forall_mem_cons]
      exact ⟨by decide, ordinary_of_hexDigit ha, ordinary_of_hexDigit hb, ordinary_of_hexDigit hc,
        ordinary_of_hexDigit hd, List.forall_mem_nil _⟩

/-- A spelling does not end the line. -/
theorem feed_notMem (h : Spells piece n) : '\n' ∉ piece := by
  have hordinary : ¬ Ordinary '\n' := by decide
  obtain ⟨-, hall⟩ | ⟨d, rfl, hd⟩ | ⟨d, more, rfl, hall⟩ := h.shape
  · exact fun hmem => hordinary (hall _ hmem)
  · have hfeed : d ≠ '\n' := by
      rintro rfl
      cases hd
    simpa using Ne.symm hfeed
  · intro hmem
    rcases List.mem_cons.1 hmem with heq | hmem
    · cases heq
    · exact hordinary (hall _ hmem)

/-- A spelling does not begin with a quote. -/
theorem head_ne_quote (h : Spells piece n) (hquote : isEscapable quote = true) (hbackslash : '\\' ≠ quote) :
    ∃ c more, piece = c :: more ∧ c ≠ quote := by
  obtain ⟨hne, hall⟩ | ⟨d, rfl, -⟩ | ⟨d, more, rfl, -⟩ := h.shape
  · obtain ⟨c, more, rfl⟩ := List.exists_cons_of_ne_nil hne
    exact ⟨c, more, rfl, (hall c List.mem_cons_self).ne hquote⟩
  · exact ⟨_, _, rfl, hbackslash⟩
  · exact ⟨_, _, rfl, hbackslash⟩

/-- **A spelling does not end a quoted text**: it ends where the text after the spelling does. -/
theorem endsAt (h : Spells piece n) (hquote : isEscapable quote = true) (hbackslash : '\\' ≠ quote)
    (hends : EndsAt quote cs body rest) (hlater : endsLater [quote] true cs = true) :
    EndsAt quote (piece ++ cs) (piece ++ body) rest := by
  have hrest : ∀ {plain : List Char}, (∀ c ∈ plain, Ordinary c) →
      EndsAt quote (plain ++ cs) (plain ++ body) rest := fun hall =>
    hends.append fun c hc => ⟨(hall c hc).ne hquote, (hall c hc).ne (by decide), (hall c hc).2⟩
  obtain ⟨-, hall⟩ | ⟨d, rfl, hd⟩ | ⟨d, more, rfl, hall⟩ := h.shape
  · exact hrest hall
  · exact hends.escape hbackslash hd hlater
  · -- the backslash stays, and what it stands before is taken as if it were not there
    refine (hrest hall).cons hbackslash (by decide) fun _ c hc => ?_
    obtain rfl : d = c := by simpa using hc
    exact (hall d List.mem_cons_self).1

end Spells

section

variable {pieces : List (List Char)} {codes : List Nat} {quote : Char} {rest : List Char}

/-- A spelled text does not end its line. -/
theorem feed_notMem_of_spells (h : List.Forall₂ Spells pieces codes) : '\n' ∉ pieces.flatten := by
  induction h with
  | nil => exact List.not_mem_nil
  | cons hfirst _ ih =>
      rw [List.flatten_cons, List.mem_append, not_or]
      exact ⟨hfirst.feed_notMem, ih⟩

/-- **A spelled text ends at the quote after it.** The induction is on the code points. -/
theorem endsAt_of_spells (h : List.Forall₂ Spells pieces codes) (hquote : isEscapable quote = true)
    (hbackslash : '\\' ≠ quote) (rest : List Char) :
    EndsAt quote (pieces.flatten ++ quote :: rest) pieces.flatten rest := by
  induction h with
  | nil => exact endsAt_quote quote rest
  | cons hfirst hothers ih =>
      rw [List.flatten_cons, List.append_assoc]
      exact hfirst.endsAt hquote hbackslash ih (endsLater_append (feed_notMem_of_spells hothers) rest)

/-- A spelled text in quotes does not begin with a tripled quote. -/
theorem not_tripled_of_spells (h : List.Forall₂ Spells pieces codes) (hquote : isEscapable quote = true)
    (hbackslash : '\\' ≠ quote) (hrest : rest.head? ≠ some quote) (more : List Char) :
    pieces.flatten ++ quote :: rest ≠ quote :: quote :: more := by
  intro heq
  cases h with
  | nil =>
      rw [List.flatten_nil, List.nil_append] at heq
      exact hrest (by rw [(List.cons.inj heq).2]; rfl)
  | cons hfirst _ =>
      obtain ⟨c, others, rfl, hc⟩ := hfirst.head_ne_quote hquote hbackslash
      exact hc (List.cons.inj heq).1

/-- **The lexer takes a spelled text whole**, with or without the mark of a raw text. -/
theorem takeQuoted?_of_spells (h : List.Forall₂ Spells pieces codes) (hquote : quote ∈ ['"', '\''])
    (hrest : rest.head? ≠ some quote) :
    takeQuoted? (quote :: (pieces.flatten ++ quote :: rest)) = some (pieces.flatten, rest) := by
  rw [List.mem_cons, List.mem_singleton] at hquote
  have hescapable : isEscapable quote = true ∧ '\\' ≠ quote := by
    rcases hquote with rfl | rfl <;> exact ⟨rfl, by decide⟩
  have htaken := takeAfterQuote?_of_endsAt (endsAt_of_spells h hescapable.1 hescapable.2 rest)
    (not_tripled_of_spells h hescapable.1 hescapable.2 hrest)
  rcases hquote with rfl | rfl <;> exact htaken

/-- A spelled text in quotes is a literal. -/
theorem takeLiteral?_of_spells (h : List.Forall₂ Spells pieces codes) (hquote : quote ∈ ['"', '\''])
    (hrest : rest.head? ≠ some quote) :
    takeLiteral? (quote :: (pieces.flatten ++ quote :: rest)) = some (.text false pieces.flatten, rest) := by
  have htaken := takeQuoted?_of_spells h hquote hrest
  rw [List.mem_cons, List.mem_singleton] at hquote
  have hnumber : takeNumber? (quote :: (pieces.flatten ++ quote :: rest)) = none := by
    rcases hquote with rfl | rfl <;> rfl
  have hmark : ¬(quote = 'r' ∨ quote = 'R') := by
    rcases hquote with rfl | rfl <;> decide
  rw [takeLiteral?, hnumber]
  simp only [takeTextLiteral?, takeText?, if_neg hmark, htaken, Option.map_some]

/-- A spelled text in quotes after a mark is a raw literal. -/
theorem takeLiteral?_raw_of_spells (h : List.Forall₂ Spells pieces codes) (hquote : quote ∈ ['"', '\''])
    {mark : Char} (hmark : mark = 'r' ∨ mark = 'R') (hrest : rest.head? ≠ some quote) :
    takeLiteral? (mark :: quote :: (pieces.flatten ++ quote :: rest)) =
      some (.text true pieces.flatten, rest) := by
  have htaken := takeQuoted?_of_spells h hquote hrest
  have hnumber : takeNumber? (mark :: quote :: (pieces.flatten ++ quote :: rest)) = none := by
    rcases hmark with rfl | rfl <;> rfl
  rw [takeLiteral?, hnumber]
  simp only [takeTextLiteral?, takeText?, if_pos hmark, htaken, Option.map_some]

end

/-! ## Raw texts -/

/-- The quotes around texts, single and tripled. -/
def quotes : List (List Char) := [['"'], ['\''], ['"', '"', '"'], ['\'', '\'', '\'']]

/-- The marks of raw texts. -/
def rawMarks : List Char := ['r', 'R']

section

variable {cs body rest : List Char}

/-- Where a rest of a body stands before a quote, so does all of it. -/
theorem eq_append_of_map {quote more : List Char} {found : Option (List Char × List Char)}
    (taken : List Char) (hmore : ∀ {body}, found = some (body, rest) → more = body ++ (quote ++ rest))
    (h : (found.map fun (body, rest) => (taken ++ body, rest)) = some (body, rest)) :
    taken ++ more = body ++ (quote ++ rest) := by
  obtain ⟨⟨inner, after⟩, hinner, heq⟩ := Option.map_eq_some_iff.1 h
  obtain ⟨rfl, rfl⟩ := Prod.mk.inj heq
  rw [hmore hinner, List.append_assoc]

/-- A body stands before its closing quote as it is: a step takes one character, or a backslash and the
next one. -/
theorem eq_append_of_takeBody? {quote : List Char} {sameLine : Bool} {steps : Nat}
    (h : takeBody? quote sameLine steps cs = some (body, rest)) : cs = body ++ (quote ++ rest) := by
  fun_induction takeBody? quote sameLine steps cs generalizing body with
  | case1 => cases h
  | case2 => cases h
  | case3 steps c more hprefix =>
      obtain ⟨rfl, rfl⟩ := Prod.mk.inj (Option.some.inj h)
      obtain ⟨after, hafter⟩ := List.isPrefixOf_iff_prefix.1 hprefix
      rw [← hafter, List.drop_left, List.nil_append]
  | case4 => cases h
  | case5 steps d after hescape hfeed hprefix ih => exact eq_append_of_map ['\\', d] ih h
  | case6 steps d after hescape hfeed hprefix ih => exact eq_append_of_map ['\\'] ih h
  | case7 steps c more hprefix hfeed halone ih => exact eq_append_of_map [c] ih h

/-- A quoted text after its opening quote goes on with its body and a quote that ends it. -/
theorem exists_quote_of_takeAfterQuote? {quote : Char} (hquote : quote ∈ ['"', '\''])
    (h : takeAfterQuote? quote cs = some (body, rest)) :
    ∃ whole ∈ quotes, quote :: cs = whole ++ body ++ whole ++ rest := by
  have hquotes : [quote] ∈ quotes ∧ [quote, quote, quote] ∈ quotes := by
    rw [List.mem_cons, List.mem_singleton] at hquote
    rcases hquote with rfl | rfl <;> simp [quotes]
  have hsingle : takeBody? [quote] true (cs.length + 1) cs = some (body, rest) →
      ∃ whole ∈ quotes, quote :: cs = whole ++ body ++ whole ++ rest := fun hbody => by
    refine ⟨[quote], hquotes.1, ?_⟩
    simp [eq_append_of_takeBody? hbody]
  -- a tripled quote counts only where it has an end, so a single one may stand there after all
  unfold takeAfterQuote? at h
  split at h
  · rename_i a b more
    split at h
    · rename_i htripled
      obtain ⟨rfl, rfl⟩ := htripled
      split at h
      · rename_i found hbody
        obtain rfl := Option.some.inj h
        refine ⟨[b, b, b], hquotes.2, ?_⟩
        simp [eq_append_of_takeBody? hbody]
      · exact hsingle h
    · exact hsingle h
  · exact hsingle h

/-- A quoted text is its body between two equal quotes. -/
theorem exists_quote_of_takeQuoted? (h : takeQuoted? cs = some (body, rest)) :
    ∃ quote ∈ quotes, cs = quote ++ body ++ quote ++ rest := by
  unfold takeQuoted? at h
  split at h
  · exact exists_quote_of_takeAfterQuote? (by decide) h
  · exact exists_quote_of_takeAfterQuote? (by decide) h
  · cases h

/-- A number is no text. -/
theorem takeNumber?_ne_text {raw : Bool} : takeNumber? cs ≠ some (.text raw body, rest) := by
  have hwhole : ∀ negative hexadecimal digits more,
      wholeNumber negative hexadecimal digits more ≠ (.text raw body, rest) := by
    intro negative hexadecimal digits more heq
    unfold wholeNumber at heq
    split at heq <;> cases heq
  have hunsigned : ∀ negative more, takeUnsigned? negative more ≠ some (.text raw body, rest) := by
    intro negative more heq
    unfold takeUnsigned? at heq
    split at heq
    · cases heq
    · dsimp only at heq
      split at heq
      · cases heq
      · split at heq <;> exact hwhole _ _ _ _ (Option.some.inj heq)
  unfold takeNumber?
  split <;> exact hunsigned _ _

/-- A raw text is its body between two equal quotes, after a mark. -/
theorem exists_mark_of_takeText? (h : takeText? cs = some (true, body, rest)) :
    ∃ mark ∈ rawMarks, ∃ quote ∈ quotes, cs = mark :: (quote ++ body ++ quote ++ rest) := by
  cases cs with
  | nil => cases h
  | cons c more =>
      rw [takeText?] at h
      split at h
      · rename_i hmark
        obtain ⟨⟨taken, left⟩, htaken, heq⟩ := Option.map_eq_some_iff.1 h
        obtain ⟨rfl, rfl⟩ : taken = body ∧ left = rest := by simpa using heq
        obtain ⟨quote, hquote, rfl⟩ := exists_quote_of_takeQuoted? htaken
        exact ⟨c, by simpa [rawMarks] using hmark, quote, hquote, rfl⟩
      · obtain ⟨found, -, heq⟩ := Option.map_eq_some_iff.1 h
        cases heq

/-- **A raw literal is its body between two equal quotes, after a mark.** -/
theorem exists_mark_of_takeLiteral? (h : takeLiteral? cs = some (.text true body, rest)) :
    ∃ mark ∈ rawMarks, ∃ quote ∈ quotes, cs = mark :: (quote ++ body ++ quote ++ rest) := by
  unfold takeLiteral? at h
  split at h
  · rename_i found hnumber
    obtain rfl := Option.some.inj h
    exact absurd hnumber takeNumber?_ne_text
  unfold takeTextLiteral? at h
  split at h
  · rename_i raw inner after htext
    obtain ⟨⟨rfl, rfl⟩, rfl⟩ : (raw = true ∧ inner = body) ∧ after = rest := by simpa using h
    exact exists_mark_of_takeText? htext
  -- what is left are bytes
  split at h
  · split at h
    · obtain ⟨found, -, heq⟩ := Option.map_eq_some_iff.1 h
      cases heq
    · cases h
  · cases h

end

/-! ## Texts and their spellings -/

/-- **A quoted text is read as the text that it spells, and a raw one as it is written.** However each
code point is spelled, the lexer takes the spelling between two quotes, and replacing its escapes gives
the code points back; the same spelling after a mark is the text that it is. Whatever else is taken as
a raw literal is its own characters between two quotes. -/
theorem reading_of_spells :
    (∀ (pieces : List (List Char)) (codes : List Nat), List.Forall₂ Spells pieces codes →
      ∀ quote ∈ ['"', '\''], ∀ rest : List Char, rest.head? ≠ some quote →
        takeLiteral? (quote :: (pieces.flatten ++ quote :: rest)) = some (.text false pieces.flatten, rest) ∧
        Text.codesOf (unescape pieces.flatten) = codes ∧
        (Literal.text false pieces.flatten).reading = .ok (.constant (.str (Text.ofCodePoints codes))) ∧
        ∀ mark ∈ rawMarks, takeLiteral? (mark :: quote :: (pieces.flatten ++ quote :: rest)) =
          some (.text true pieces.flatten, rest)) ∧
    ∀ cs body rest : List Char, takeLiteral? cs = some (.text true body, rest) →
      (Literal.text true body).reading = .ok (.constant (.str (String.ofList body))) ∧
      ∃ mark ∈ rawMarks, ∃ quote ∈ quotes, cs = mark :: (quote ++ body ++ quote ++ rest) := by
  refine ⟨fun pieces codes h quote hquote rest hrest => ⟨?_, ?_, ?_, fun mark hmark => ?_⟩, fun cs body rest h =>
    ⟨rfl, exists_mark_of_takeLiteral? h⟩⟩
  · exact takeLiteral?_of_spells h hquote hrest
  · rw [unescape_of_spells h, Text.codesOf_writtenAll (lt_of_spells h)]
  · rw [Literal.reading, if_neg Bool.false_ne_true, unescape_of_spells h, Text.ofCodePoints]
  · exact takeLiteral?_raw_of_spells h hquote (by simpa [rawMarks] using hmark) hrest

/-- A text in which code points are spelled in all of the ways, and the same as a raw one. -/
theorem reading_of_spells_mixed :
    takeLiteral? "\"a\\n\\\\\\x4A\\u00e9\" == b".toList =
        some (.text false "a\\n\\\\\\x4A\\u00e9".toList, " == b".toList) ∧
      (Literal.text false "a\\n\\\\\\x4A\\u00e9".toList).reading =
        .ok (.constant (.str (Text.ofCodePoints [0x61, 0x0a, 0x5c, 0x4a, 0xe9]))) ∧
      (Literal.text true "a\\d".toList).reading = .ok (.constant (.str "a\\d")) := by
  have hletter : Spells ['a'] 0x61 := Spells.itself (by decide : 0x61 < 0x110000) (by decide)
  have hbyte : Spells ['\\', 'x', '4', 'A'] 0x4a :=
    .byte (rfl : Text.hexDigit? '4' = some 4) (rfl : Text.hexDigit? 'A' = some 10)
  have hunit : Spells ['\\', 'u', '0', '0', 'e', '9'] 0xe9 :=
    .unit (rfl : Text.hexDigit? '0' = some 0) (rfl : Text.hexDigit? '0' = some 0)
      (rfl : Text.hexDigit? 'e' = some 14) (rfl : Text.hexDigit? '9' = some 9)
  have hspells : List.Forall₂ Spells
      [['a'], ['\\', 'n'], ['\\', '\\'], ['\\', 'x', '4', 'A'], ['\\', 'u', '0', '0', 'e', '9']]
      [0x61, 0x0a, 0x5c, 0x4a, 0xe9] :=
    .cons hletter (.cons (.simple (by decide)) (.cons (.simple (by decide)) (.cons hbyte (.cons hunit .nil))))
  obtain ⟨hlexed, -, hreading, -⟩ :=
    reading_of_spells.1 _ _ hspells '"' (by decide) " == b".toList (by decide)
  have hraw := (reading_of_spells.2 "r\"a\\d\"".toList "a\\d".toList [] (by cbv)).1
  exact ⟨hlexed, hreading, hraw⟩

end SearchTables.Expression
