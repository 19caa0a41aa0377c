import SearchTables.Proofs.Decimal.PlainNumeral
import SearchTables.Proofs.Outcome
import SearchTables.Geometry.WktToken

/-! # Tokens of well-known text — which texts have which tokens

A token at the start of a text is a word of letters, a numeral or a sign, and words and numerals are as
long as they can be (`Begins`). A text is made of tokens with blanks around them (`Lexes`). The tokens
that are read are those of the text, and a text that has no tokens is refused (`tokens_eq_ok_iff`). -/

namespace SearchTables

/-- A numeral with the digits of any script. -/
abbrev TextNumeral := PlainNumeral Text.digitValue?

namespace Wkt

/-! ## The grammar of tokens -/

/-- Whether no numeral at the start of a text is longer than the one that stands there. -/
def Longest (p : TextNumeral) (rest : List Char) : Prop :=
  ∀ q : TextNumeral, q.chars <+: p.chars ++ rest → q.chars.length ≤ p.chars.length

/-- A token stands at the start of a text, and it is as long as it can be. -/
inductive Begins : List Char → WktToken → List Char → Prop where
  /-- A word ends where no letter follows. -/
  | word {letters rest : List Char} (hne : letters ≠ []) (hletters : ∀ c ∈ letters, isLetter c = true)
      (hend : ∀ c, rest.head? = some c → isLetter c = false) :
      Begins (letters ++ rest) (.word (String.ofList letters)) rest
  /-- No other numeral at the start of the text is longer. -/
  | number (p : TextNumeral) {rest : List Char}
      (hlongest : Longest p rest) :
      Begins (p.chars ++ rest) (.number (String.ofList p.chars) p.numeral.toFloat) rest
  /-- A sign is a token of its own. -/
  | sign {c : Char} {rest : List Char} (hsign : isSign c = true) : Begins (c :: rest) (.sign c) rest

/-- A text is made of tokens, with blanks around them. -/
inductive Lexes : List Char → List WktToken → Prop where
  | done {blanks : List Char} (hblank : ∀ c ∈ blanks, Text.isBlank c = true) : Lexes blanks []
  | token {blanks cs rest : List Char} {t : WktToken} {ts : List WktToken}
      (hblank : ∀ c ∈ blanks, Text.isBlank c = true) (ht : Begins cs t rest) (hrest : Lexes rest ts) :
      Lexes (blanks ++ cs) (t :: ts)

/-! ## Kinds of characters -/

/-- Signs, points and marks of exponents are no digits. -/
theorem not_digit : ∀ c ∈ "+-.eE".toList, Text.digitValue? c = none := by simp; decide

/-- Where the digits of all scripts stand. -/
theorem exists_start_of_digit {c : Char} (h : (Text.digitValue? c).isSome = true) :
    ∃ start ∈ Text.digitZeros, start ≤ c.toNat ∧ c.toNat < start + 10 := by
  obtain ⟨d, hd⟩ := Option.isSome_iff_exists.1 h
  rw [Text.digitValue?, Option.map_eq_some_iff] at hd
  obtain ⟨start, hfound, -⟩ := hd
  have hrange := List.find?_some hfound
  rw [Bool.and_eq_true, decide_eq_true_eq, decide_eq_true_eq] at hrange
  exact ⟨start, List.mem_of_find?_eq_some hfound, hrange⟩

/-- Whether a numeral may start with a character. -/
def StartsNumeral (c : Char) : Prop :=
  c = '+' ∨ c = '-' ∨ c = '.' ∨ (Text.digitValue? c).isSome = true

/-- A numeral starts with a character that may start one. -/
theorem exists_startsNumeral (p : TextNumeral) : ∃ c cs, p.chars = c :: cs ∧ StartsNumeral c := by
  rw [PlainNumeral.chars]
  cases p.sign with
  | plus => exact ⟨'+', p.bodyChars, rfl, .inl rfl⟩
  | minus => exact ⟨'-', p.bodyChars, rfl, .inr (.inl rfl)⟩
  | none =>
      rw [NumeralSign.chars, List.nil_append, PlainNumeral.bodyChars]
      by_cases hwhole : p.whole.1 = []
      · rcases p.hasDigit with h | ⟨ds, hds, -⟩
        · exact absurd hwhole h
        · rw [hwhole, PlainNumeral.tailChars, hds]
          exact ⟨'.', _, rfl, .inr (.inr (.inl rfl))⟩
      · obtain ⟨c, cs, hcs⟩ := List.exists_cons_of_ne_nil hwhole
        rw [hcs]
        exact ⟨c, _, rfl, .inr (.inr (.inr (p.whole.2 c (hcs ▸ List.mem_cons_self ..))))⟩

/-- The letters are those from `a` to `z` and from `A` to `Z`, by their code points. -/
theorem isLetter_iff {c : Char} :
    isLetter c = true ↔ 97 ≤ c.toNat ∧ c.toNat ≤ 122 ∨ 65 ≤ c.toNat ∧ c.toNat ≤ 90 := by
  simp only [isLetter, Bool.or_eq_true, Bool.and_eq_true, decide_eq_true_eq, Char.le_def,
    UInt32.le_iff_toNat_le]
  exact Iff.rfl

/-- No numeral starts with a letter. -/
theorem StartsNumeral.not_letter {c : Char} (h : StartsNumeral c) : isLetter c = false := by
  rcases h with rfl | rfl | rfl | h
  · decide
  · decide
  · decide
  · obtain ⟨start, hstart, hleast, hmost⟩ := exists_start_of_digit h
    have hplace : ∀ start ∈ Text.digitZeros, start = 0x30 ∨ 0x660 ≤ start := by decide
    have hbounds := hplace start hstart
    rw [Bool.eq_false_iff]
    intro hletter
    rw [isLetter_iff] at hletter
    omega

/-- No numeral starts with a sign of the grammar. -/
theorem StartsNumeral.not_sign {c : Char} (h : StartsNumeral c) : isSign c = false := by
  rw [Bool.eq_false_iff]
  intro hsign
  simp only [isSign, Bool.or_eq_true, decide_eq_true_eq] at hsign
  rcases hsign with (rfl | rfl) | rfl
  · exact absurd h (by simp [StartsNumeral]; decide)
  · exact absurd h (by simp [StartsNumeral]; decide)
  · exact absurd h (by simp [StartsNumeral]; decide)

/-- No numeral starts with a blank. -/
theorem StartsNumeral.not_blank {c : Char} (h : StartsNumeral c) : Text.isBlank c = false := by
  rcases h with rfl | rfl | rfl | h
  · decide
  · decide
  · decide
  · obtain ⟨start, hstart, hleast, hmost⟩ := exists_start_of_digit h
    have hapart : ∀ start ∈ Text.digitZeros, ∀ range ∈ Text.blankRanges,
        range.2 < start ∨ start + 9 < range.1 := by decide
    rw [Bool.eq_false_iff]
    intro hblank
    obtain ⟨range, hrange, hinside⟩ := List.any_eq_true.1 hblank
    have hbounds := hapart start hstart range hrange
    simp only [Bool.and_eq_true, decide_eq_true_eq] at hinside
    omega

/-- A letter is no blank. -/
theorem not_blank_of_isLetter {c : Char} (h : isLetter c = true) : Text.isBlank c = false := by
  rw [Bool.eq_false_iff]
  intro hblank
  obtain ⟨range, hrange, hinside⟩ := List.any_eq_true.1 hblank
  have hplace : ∀ range ∈ Text.blankRanges, range.2 < 65 ∨ 122 < range.1 := by decide
  have hbounds := hplace range hrange
  rw [isLetter_iff] at h
  simp only [Bool.and_eq_true, decide_eq_true_eq] at hinside
  omega

/-- A blank is no letter. -/
theorem not_letter_of_isBlank {c : Char} (h : Text.isBlank c = true) : isLetter c = false := by
  rw [Bool.eq_false_iff]
  intro hletter
  rw [not_blank_of_isLetter hletter] at h
  exact Bool.false_ne_true h

/-- A blank stands in no numeral. -/
theorem not_numeralPart_of_isBlank {c : Char} (h : Text.isBlank c = true) : isNumeralPart c = false := by
  rw [Bool.eq_false_iff]
  intro hpart
  simp only [isNumeralPart, Bool.or_eq_true, decide_eq_true_eq] at hpart
  rcases hpart with ((((rfl | rfl) | rfl) | rfl) | rfl) | hdigit
  · exact absurd h (by decide)
  · exact absurd h (by decide)
  · exact absurd h (by decide)
  · exact absurd h (by decide)
  · exact absurd h (by decide)
  · rw [StartsNumeral.not_blank (.inr (.inr (.inr hdigit)))] at h
    exact Bool.false_ne_true h

/-- A sign is no letter. -/
theorem not_letter_of_isSign {c : Char} (h : isSign c = true) : isLetter c = false := by
  simp only [isSign, Bool.or_eq_true, decide_eq_true_eq] at h
  rcases h with (rfl | rfl) | rfl <;> decide

/-- A sign stands in no numeral. -/
theorem not_numeralPart_of_isSign {c : Char} (h : isSign c = true) : isNumeralPart c = false := by
  simp only [isSign, Bool.or_eq_true, decide_eq_true_eq] at h
  rcases h with (rfl | rfl) | rfl <;> decide

/-- A sign is no blank. -/
theorem not_blank_of_isSign {c : Char} (h : isSign c = true) : Text.isBlank c = false := by
  simp only [isSign, Bool.or_eq_true, decide_eq_true_eq] at h
  rcases h with (rfl | rfl) | rfl <;> decide

/-- A token does not start with a blank. -/
theorem Begins.exists_cons {cs rest : List Char} {t : WktToken} (h : Begins cs t rest) :
    ∃ c more, cs = c :: more ∧ Text.isBlank c = false := by
  cases h with
  | @word letters _ hne hletters =>
      obtain ⟨c, more, rfl⟩ := List.exists_cons_of_ne_nil hne
      exact ⟨c, _, rfl, not_blank_of_isLetter (hletters c (List.mem_cons_self ..))⟩
  | number p =>
      obtain ⟨c, more, hchars, hstart⟩ := exists_startsNumeral p
      rw [hchars]
      exact ⟨c, _, rfl, hstart.not_blank⟩
  | sign hsign => exact ⟨_, _, rfl, not_blank_of_isSign hsign⟩

/-! ## Numerals -/

/-- The characters of a numeral may stand in one. -/
theorem isNumeralPart_of_mem {p : TextNumeral} {c : Char} (h : c ∈ p.chars) :
    isNumeralPart c = true := by
  have hrun : ∀ ds : DigitRun Text.digitValue?, c ∈ ds.1 → isNumeralPart c = true := fun ds hc => by
    rw [isNumeralPart, ds.2 c hc, Bool.or_true]
  have hsign : ∀ sign : NumeralSign, c ∈ sign.chars → isNumeralPart c = true := by
    intro sign hc
    cases sign with
    | none => exact absurd hc List.not_mem_nil
    | plus => rw [List.mem_singleton.1 hc]; decide
    | minus => rw [List.mem_singleton.1 hc]; decide
  have hexponent : ∀ e : ExponentPart Text.digitValue?, c ∈ e.chars → isNumeralPart c = true := by
    intro e hc
    rw [ExponentPart.chars, List.mem_cons, List.mem_append] at hc
    rcases hc with rfl | hc | hc
    · cases e.capital <;> decide
    · exact hsign _ hc
    · exact hrun _ hc
  rw [PlainNumeral.chars, PlainNumeral.bodyChars, PlainNumeral.tailChars, List.mem_append,
    List.mem_append, List.mem_append] at h
  -- sign, digits, fraction and exponent in turn
  rcases h with h | h | h | h
  · exact hsign _ h
  · exact hrun _ h
  · cases hfraction : p.fraction with
    | none => simp [hfraction] at h
    | some ds =>
        rw [hfraction, List.mem_cons] at h
        rcases h with rfl | h
        · decide
        · exact hrun _ h
  · cases hexp : p.exponent with
    | none => simp [hexp] at h
    | some e =>
        rw [hexp] at h
        exact hexponent e h

/-- What may stand in a word or a numeral at the start of a text is all at its start. -/
theorem prefix_takeWhile {P : Char → Bool} {front cs : List Char} (h : front <+: cs)
    (hall : ∀ c ∈ front, P c = true) : front <+: cs.takeWhile P := by
  obtain ⟨rest, rfl⟩ := h
  rw [List.takeWhile_append_of_pos hall]
  exact List.prefix_append ..

/-- A number is read from the characters that may stand in a numeral. -/
theorem takeNumber?_eq (cs : List Char) :
    takeNumber? cs = (takeSigned Text.digitValue? (cs.takeWhile isNumeralPart)).map fun (n, left) =>
      (.number (String.ofList ((cs.takeWhile isNumeralPart).take
        ((cs.takeWhile isNumeralPart).length - left.length))) n.toFloat,
        left ++ cs.dropWhile isNumeralPart) := rfl

/-- What is read as a number is the longest numeral at the start of the text. -/
theorem longest_of_takeNumber? {cs rest : List Char} {t : WktToken}
    (h : takeNumber? cs = some (t, rest)) :
    ∃ p : TextNumeral, cs = p.chars ++ rest ∧
      t = .number (String.ofList p.chars) p.numeral.toFloat ∧ Longest p rest := by
  rw [takeNumber?_eq, Option.map_eq_some_iff] at h
  obtain ⟨⟨n, left⟩, htake, hresult⟩ := h
  obtain ⟨p, hrun, rfl, hlongest⟩ := takeSigned_eq_some not_digit htake
  have htext : (cs.takeWhile isNumeralPart).take
      ((cs.takeWhile isNumeralPart).length - left.length) = p.chars := by
    rw [hrun]
    simp
  dsimp only at hresult
  rw [htext] at hresult
  obtain ⟨rfl, rfl⟩ := Prod.mk.inj hresult
  have hcs : cs = p.chars ++ (left ++ cs.dropWhile isNumeralPart) := by
    rw [← List.append_assoc, ← hrun, List.takeWhile_append_dropWhile]
  refine ⟨p, hcs, rfl, fun q hq => hlongest q ?_⟩
  rw [← hcs] at hq
  exact prefix_takeWhile hq fun c => isNumeralPart_of_mem

/-- The longest numeral at the start of a text is read as a number. -/
theorem takeNumber?_of_longest {p : TextNumeral} {rest : List Char} (hlongest : Longest p rest) :
    takeNumber? (p.chars ++ rest) = some (.number (String.ofList p.chars) p.numeral.toFloat, rest) := by
  cases htake : takeNumber? (p.chars ++ rest) with
  | none =>
      rw [takeNumber?_eq, Option.map_eq_none_iff] at htake
      refine absurd ?_ (takeSigned_eq_none not_digit htake p)
      exact prefix_takeWhile (List.prefix_append ..) fun c => isNumeralPart_of_mem
  | some found =>
      obtain ⟨t, left⟩ := found
      -- both numerals are the longest one, so they are equally long
      obtain ⟨q, hq, rfl, hlongest'⟩ := longest_of_takeNumber? htake
      have hle := hlongest q ⟨left, hq.symm⟩
      have hge := hlongest' p ⟨rest, hq⟩
      obtain ⟨hchars, rfl⟩ := List.append_inj hq (Nat.le_antisymm hge hle)
      rw [hchars, PlainNumeral.numeral_eq not_digit hchars]

/-! ## Tokens -/

/-- The first character of what is left after dropping is none that was to be dropped. -/
theorem head_dropWhile {P : Char → Bool} {cs : List Char} {c : Char}
    (h : (cs.dropWhile P).head? = some c) : P c = false := by
  have hnot := List.head?_dropWhile_not P cs
  rw [h] at hnot
  simpa using hnot

/-- What may be taken is taken up to the first character that may not. -/
theorem takeWhile_append {P : Char → Bool} {front rest : List Char} (hall : ∀ c ∈ front, P c = true)
    (hend : ∀ c, rest.head? = some c → P c = false) :
    (front ++ rest).takeWhile P = front ∧ (front ++ rest).dropWhile P = rest := by
  rw [List.takeWhile_append_of_pos hall, List.dropWhile_append_of_pos hall]
  cases rest with
  | nil => simp
  | cons c rest => simp [hend c rfl]

/-- **The token that is read at the start of a text is the one that stands there.** -/
theorem takeToken?_eq_some_iff {cs rest : List Char} {t : WktToken} :
    takeToken? cs = some (t, rest) ↔ Begins cs t rest := by
  constructor
  · intro h
    cases cs with
    | nil => exact absurd h (by simp [takeToken?])
    | cons c cs =>
        rw [takeToken?] at h
        split at h
        · rename_i hletter
          obtain ⟨rfl, rfl⟩ := Prod.mk.inj (Option.some.inj h)
          have hword := Begins.word (List.cons_ne_nil c (cs.takeWhile isLetter))
            (List.forall_mem_cons.2 ⟨hletter, List.all_eq_true.1 List.all_takeWhile⟩)
            fun d (hd : (cs.dropWhile isLetter).head? = some d) => head_dropWhile hd
          rwa [List.cons_append, List.takeWhile_append_dropWhile] at hword
        · split at h
          · rename_i hsign
            obtain ⟨rfl, rfl⟩ := Prod.mk.inj (Option.some.inj h)
            exact .sign hsign
          · obtain ⟨p, hcs, rfl, hlongest⟩ := longest_of_takeNumber? h
            rw [hcs]
            exact .number p hlongest
  · intro h
    cases h with
    | @word letters _ hne hletters hend =>
        obtain ⟨c, cs, rfl⟩ := List.exists_cons_of_ne_nil hne
        rw [List.forall_mem_cons] at hletters
        obtain ⟨htake, hdrop⟩ := takeWhile_append hletters.2 hend
        rw [List.cons_append, takeToken?, if_pos hletters.1, htake, hdrop]
    | number p hlongest =>
        -- a numeral starts with no letter and no sign, so it is tried
        obtain ⟨c, cs, hchars, hstart⟩ := exists_startsNumeral p
        have hread := takeNumber?_of_longest hlongest
        rw [hchars, List.cons_append] at hread ⊢
        rw [takeToken?, hstart.not_letter, hstart.not_sign, if_neg Bool.false_ne_true,
          if_neg Bool.false_ne_true]
        exact hread
    | @sign c _ hsign =>
        rw [takeToken?, not_letter_of_isSign hsign, if_neg Bool.false_ne_true, if_pos hsign]

/-! ## Texts -/

/-- A text without tokens has blanks only. -/
theorem lexes_nil_iff {cs : List Char} : Lexes cs [] ↔ ∀ c ∈ cs, Text.isBlank c = true := by
  constructor
  · intro h
    cases h with
    | done hblank => exact hblank
  · exact .done

/-- The first token of a text is read after its blanks. -/
theorem lexes_cons_iff {cs : List Char} {t : WktToken} {ts : List WktToken} :
    Lexes cs (t :: ts) ↔
      ∃ rest, takeToken? (Text.trimStartChars cs) = some (t, rest) ∧ Lexes rest ts := by
  constructor
  · intro h
    cases h with
    | @token blanks cs rest _ _ hblank ht hrest =>
        refine ⟨rest, ?_, hrest⟩
        obtain ⟨c, more, rfl, hc⟩ := ht.exists_cons
        have htrim : Text.trimStartChars (blanks ++ c :: more) = c :: more :=
          (takeWhile_append hblank (by simpa using hc)).2
        rw [htrim, takeToken?_eq_some_iff]
        exact ht
  · rintro ⟨rest, htake, hrest⟩
    rw [← List.takeWhile_append_dropWhile (p := Text.isBlank) (l := cs)]
    exact .token (List.all_eq_true.1 List.all_takeWhile) (takeToken?_eq_some_iff.1 htake) hrest

/-- A token takes something from the start of a text. -/
theorem Begins.exists_append {cs rest : List Char} {t : WktToken} (h : Begins cs t rest) :
    ∃ front, front ≠ [] ∧ cs = front ++ rest := by
  cases h with
  | word hne => exact ⟨_, hne, rfl⟩
  | number p =>
      obtain ⟨c, cs, hchars, -⟩ := exists_startsNumeral p
      exact ⟨p.chars, by simp [hchars], rfl⟩
  | @sign c _ _ => exact ⟨[c], List.cons_ne_nil c [], rfl⟩

section

variable {blanks : List Char} (hblank : ∀ c ∈ blanks, Text.isBlank c = true)
include hblank

/-- What no blank may be is not found among blanks. -/
theorem takeWhile_append_blanks {P : Char → Bool} (hP : ∀ c, Text.isBlank c = true → P c = false)
    (cs : List Char) : (cs ++ blanks).takeWhile P = cs.takeWhile P ∧
      (cs ++ blanks).dropWhile P = cs.dropWhile P ++ blanks := by
  induction cs with
  | nil =>
      cases blanks with
      | nil => exact ⟨rfl, rfl⟩
      | cons c blanks =>
          have hc := hP c (hblank c (List.mem_cons_self ..))
          simp [hc]
  | cons c cs ih =>
      cases hc : P c with
      | false => simp [hc]
      | true => simp [hc, ih.1, ih.2]

/-- A token is read in the same way when blanks come after the text. -/
theorem takeToken?_append_blanks {cs : List Char} (hne : cs ≠ []) :
    takeToken? (cs ++ blanks) = (takeToken? cs).map fun (t, rest) => (t, rest ++ blanks) := by
  obtain ⟨c, cs, rfl⟩ := List.exists_cons_of_ne_nil hne
  obtain ⟨hletters, hrest⟩ := takeWhile_append_blanks hblank (fun _ => not_letter_of_isBlank) cs
  rw [List.cons_append, takeToken?, takeToken?]
  split
  · rw [hletters, hrest]
    rfl
  · split
    · rfl
    · obtain ⟨hrun, hafter⟩ := takeWhile_append_blanks hblank (fun _ => not_numeralPart_of_isBlank)
        (c :: cs)
      rw [← List.cons_append, takeNumber?_eq, takeNumber?_eq, hrun, hafter, Option.map_map]
      congr 1
      funext found
      simp [List.append_assoc]

end

/-- Whether the last character of a text is no blank. -/
def Trimmed (cs : List Char) : Prop := ∀ c, cs.getLast? = some c → Text.isBlank c = false

/-- The end of a trimmed text is trimmed. -/
theorem Trimmed.of_append {front rest : List Char} (h : Trimmed (front ++ rest)) : Trimmed rest := by
  intro c hc
  refine h c ?_
  rw [List.getLast?_append, hc]
  rfl

/-- In a trimmed text something comes after the blanks at its start. -/
theorem Trimmed.trimStart_ne_nil {cs : List Char} (h : Trimmed cs) (hne : cs ≠ []) :
    Text.trimStartChars cs ≠ [] := by
  intro hnil
  have hall : ∀ c ∈ cs, Text.isBlank c = true := by
    have hcs := List.takeWhile_append_dropWhile (p := Text.isBlank) (l := cs)
    rw [Text.trimStartChars] at hnil
    rw [hnil, List.append_nil] at hcs
    rw [← hcs]
    exact List.all_eq_true.1 List.all_takeWhile
  have hlast := h _ (List.getLast?_eq_some_getLast hne)
  rw [hall _ (List.getLast_mem hne)] at hlast
  exact Bool.false_ne_true hlast.symm

/-- Blanks have no tokens. -/
theorem lexes_blanks_iff {blanks : List Char} (hblank : ∀ c ∈ blanks, Text.isBlank c = true)
    {ts : List WktToken} : Lexes blanks ts ↔ ts = [] := by
  cases ts with
  | nil => exact iff_of_true (lexes_nil_iff.2 hblank) rfl
  | cons t ts =>
      have htrim : Text.trimStartChars blanks = [] := by
        have hend : ∀ c, ([] : List Char).head? = some c → Text.isBlank c = false := by simp
        have hdrop := (takeWhile_append hblank hend).2
        rwa [List.append_nil] at hdrop
      rw [lexes_cons_iff, htrim]
      simp [takeToken?]

/-- The end of a text is split off by trimming. -/
theorem trimEndChars_append (cs : List Char) :
    ∃ blanks, cs = Text.trimEndChars cs ++ blanks ∧ (∀ c ∈ blanks, Text.isBlank c = true) ∧
      Trimmed (Text.trimEndChars cs) := by
  refine ⟨(cs.reverse.takeWhile Text.isBlank).reverse, ?_, ?_, ?_⟩
  · rw [Text.trimEndChars, ← List.reverse_append, List.takeWhile_append_dropWhile, List.reverse_reverse]
  · intro c hc
    exact List.all_eq_true.1 List.all_takeWhile c (List.mem_reverse.1 hc)
  · intro c hc
    rw [Text.trimEndChars, List.getLast?_reverse] at hc
    exact head_dropWhile hc

/-- A trimmed text that is not empty starts with a token after its blanks, with blanks after the text or
without. -/
theorem lexes_append_blanks_iff {cs blanks : List Char} {ts : List WktToken}
    (hblank : ∀ c ∈ blanks, Text.isBlank c = true) (htrimmed : Trimmed cs) (hne : cs ≠ []) :
    Lexes (cs ++ blanks) ts ↔ ∃ t rest ts', takeToken? (Text.trimStartChars cs) = some (t, rest) ∧
      Lexes (rest ++ blanks) ts' ∧ t :: ts' = ts := by
  have hstart := htrimmed.trimStart_ne_nil hne
  have htrim : Text.trimStartChars (cs ++ blanks) = Text.trimStartChars cs ++ blanks := by
    rw [Text.trimStartChars] at hstart
    rw [Text.trimStartChars, List.dropWhile_append, if_neg (by simpa using hstart)]
    rfl
  cases ts with
  | nil =>
      -- the last character is no blank, so there is a token
      refine iff_of_false (fun h => ?_) (by simp)
      have hlast := htrimmed _ (List.getLast?_eq_some_getLast hne)
      rw [lexes_nil_iff.1 h _ (List.mem_append_left _ (List.getLast_mem hne))] at hlast
      exact Bool.false_ne_true hlast.symm
  | cons t ts =>
      rw [lexes_cons_iff, htrim, takeToken?_append_blanks hblank hstart]
      simp only [Option.map_eq_some_iff, Prod.exists, Prod.mk.injEq, List.cons.injEq]
      constructor
      · rintro ⟨_, ⟨_, rest, htake, rfl, rfl⟩, hrest⟩
        exact ⟨_, rest, ts, htake, hrest, rfl, rfl⟩
      · rintro ⟨_, rest, _, htake, hrest, rfl, rfl⟩
        exact ⟨_, ⟨_, rest, htake, rfl, rfl⟩, hrest⟩

/-- The tokens of a trimmed text are those of the text with blanks after it, when there are steps
enough. -/
theorem tokensFrom_eq_ok_iff {size steps : Nat} {cs blanks : List Char} {ts : List WktToken}
    (hblank : ∀ c ∈ blanks, Text.isBlank c = true) (htrimmed : Trimmed cs)
    (hsteps : cs.length ≤ steps) :
    tokensFrom size steps cs = .ok ts ↔ Lexes (cs ++ blanks) ts := by
  induction steps generalizing cs ts with
  | zero =>
      obtain rfl := List.length_eq_zero_iff.1 (Nat.le_zero.1 hsteps)
      rw [List.nil_append, lexes_blanks_iff hblank, tokensFrom, Except.ok.injEq, eq_comm]
  | succ steps ih =>
      cases cs with
      | nil => rw [List.nil_append, lexes_blanks_iff hblank, tokensFrom, Except.ok.injEq, eq_comm]
      | cons c cs =>
          rw [lexes_append_blanks_iff hblank htrimmed (List.cons_ne_nil c cs)]
          rw [tokensFrom]
          · cases htake : takeToken? (Text.trimStartChars (c :: cs)) with
            | none => simp
            | some found =>
                obtain ⟨t, rest⟩ := found
                obtain ⟨front, hfront, hcs⟩ := (takeToken?_eq_some_iff.1 htake).exists_append
                have hsplit : c :: cs = (c :: cs).takeWhile Text.isBlank ++ front ++ rest := by
                  rw [List.append_assoc, ← hcs, Text.trimStartChars, List.takeWhile_append_dropWhile]
                -- every token takes a character, so the steps do not run out
                have hshorter : rest.length ≤ steps := by
                  have hlength := congrArg List.length hsplit
                  have hpos := List.length_pos_iff.2 hfront
                  rw [List.length_append, List.length_append] at hlength
                  omega
                have hrest : ∀ ts', tokensFrom size steps rest = .ok ts' ↔ Lexes (rest ++ blanks) ts' :=
                  fun ts' => ih (Trimmed.of_append (hsplit ▸ htrimmed)) hshorter
                simp only [map_eq_ok, hrest, Option.some.injEq, Prod.mk.injEq]
                constructor
                · rintro ⟨ts', hts', rfl⟩
                  exact ⟨t, rest, ts', ⟨rfl, rfl⟩, hts', rfl⟩
                · rintro ⟨_, _, ts', ⟨rfl, rfl⟩, hts', rfl⟩
                  exact ⟨ts', hts', rfl⟩
          · exact List.cons_ne_nil c cs

/-- **The tokens that are read are those of the text.** A text that has no tokens is refused. -/
theorem tokens_eq_ok_iff {s : String} {ts : List WktToken} :
    tokens s = .ok ts ↔ Lexes s.toList ts := by
  obtain ⟨blanks, hsplit, hblank, htrimmed⟩ := trimEndChars_append s.toList
  conv => rhs; rw [hsplit]
  exact tokensFrom_eq_ok_iff hblank htrimmed (Nat.le_refl _)

end Wkt

end SearchTables
