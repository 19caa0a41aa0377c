import SearchTables.Decimal.Numeral

/-! # Plain numerals — what is read as one

A **plain numeral** is an optional sign, digits with or without a point among them, and an optional
exponent. Reading takes the longest plain numeral at the start of a text (`takeSigned_eq_some`), and it
takes none only where none stands (`takeSigned_eq_none`). The digits are those of a given function, which
knows no sign, point or exponent mark as a digit. -/

namespace SearchTables

/-! ## The grammar -/

/-- An optional sign. -/
inductive NumeralSign where
  | none
  | plus
  | minus
deriving DecidableEq

namespace NumeralSign

/-- The characters of a sign. -/
def chars : NumeralSign → List Char
  | none => []
  | plus => ['+']
  | minus => ['-']

/-- Whether the sign is a minus. -/
def negative : NumeralSign → Bool
  | minus => true
  | _ => false

end NumeralSign

/-- Characters that are digits. -/
abbrev DigitRun (digit? : Char → Option Nat) :=
  { cs : List Char // ∀ c ∈ cs, (digit? c).isSome = true }

/-- The values of digits. -/
def DigitRun.values {digit? : Char → Option Nat} (ds : DigitRun digit?) : List Nat :=
  ds.1.filterMap digit?

/-- An exponent: its mark, an optional sign, and digits. -/
structure ExponentPart (digit? : Char → Option Nat) where
  capital : Bool
  sign : NumeralSign
  digits : DigitRun digit?
  hasDigit : digits.1 ≠ []

namespace ExponentPart

variable {digit? : Char → Option Nat}

/-- The characters of an exponent. -/
def chars (e : ExponentPart digit?) : List Char :=
  (if e.capital then 'E' else 'e') :: (e.sign.chars ++ e.digits.1)

/-- The value of an exponent. -/
def value (e : ExponentPart digit?) : Int :=
  if e.sign.negative then -(natOfDigits e.digits.values : Int) else natOfDigits e.digits.values

end ExponentPart

/-- A **plain numeral**: an optional sign, digits before and after an optional point with one digit at
least, and an optional exponent. -/
structure PlainNumeral (digit? : Char → Option Nat) where
  sign : NumeralSign
  whole : DigitRun digit?
  /-- The digits after the point, if there is one. -/
  fraction : Option (DigitRun digit?)
  exponent : Option (ExponentPart digit?)
  hasDigit : whole.1 ≠ [] ∨ ∃ ds, fraction = some ds ∧ ds.1 ≠ []

namespace PlainNumeral

variable {digit? : Char → Option Nat}

/-- The characters after the digits before the point. -/
def tailChars (p : PlainNumeral digit?) : List Char :=
  (match p.fraction with
    | some ds => '.' :: ds.1
    | none => []) ++
  match p.exponent with
    | some e => e.chars
    | none => []

/-- The characters without the sign. -/
def bodyChars (p : PlainNumeral digit?) : List Char := p.whole.1 ++ p.tailChars

/-- The characters of a plain numeral. -/
def chars (p : PlainNumeral digit?) : List Char := p.sign.chars ++ p.bodyChars

/-- The parts of a plain numeral as numbers. -/
def numeral (p : PlainNumeral digit?) : Numeral :=
  { negative := p.sign.negative
    whole := p.whole.values
    fraction := match p.fraction with
      | some ds => ds.values
      | none => []
    exponent := match p.exponent with
      | some e => e.value
      | none => 0 }

end PlainNumeral

/-- The longest numeral at the start of a text, with the rest. -/
def takeSigned (digit? : Char → Option Nat) (cs : List Char) : Option (Numeral × List Char) :=
  takeNumeral digit? (splitSign cs).1 (splitSign cs).2

/-! ## Digits -/

section

variable {digit? : Char → Option Nat} {cs rest : List Char}

/-- Digits at the start of a text are taken together with those that follow. -/
theorem takeDigits_append (ds : DigitRun digit?) (rest : List Char) :
    takeDigits digit? (ds.1 ++ rest) =
      (ds.values ++ (takeDigits digit? rest).1, (takeDigits digit? rest).2) := by
  obtain ⟨cs, hcs⟩ := ds
  induction cs with
  | nil => rfl
  | cons c cs ih =>
      rw [List.forall_mem_cons] at hcs
      obtain ⟨d, hd⟩ := Option.isSome_iff_exists.1 hcs.1
      have hrest := ih hcs.2
      simp only [DigitRun.values] at hrest ⊢
      rw [List.cons_append, takeDigits, hd]
      dsimp only
      rw [hrest, List.filterMap_cons_some hd, List.cons_append]

/-- No digit is taken where none stands. -/
theorem takeDigits_of_not_digit {c : Char} (h : digit? c = none) :
    takeDigits digit? (c :: rest) = ([], c :: rest) := by
  rw [takeDigits, h]

/-- What is taken as digits are digits, and what is left does not start with one. -/
theorem takeDigits_sound {values : List Nat} (h : takeDigits digit? cs = (values, rest)) :
    ∃ ds : DigitRun digit?, cs = ds.1 ++ rest ∧ values = ds.values := by
  induction cs generalizing values with
  | nil =>
      obtain ⟨rfl, rfl⟩ := Prod.mk.inj h
      exact ⟨⟨[], by simp⟩, rfl, rfl⟩
  | cons c cs ih =>
      rw [takeDigits] at h
      split at h
      · rename_i d hd
        rcases hcs : takeDigits digit? cs with ⟨vs, rest'⟩
        rw [hcs] at h
        obtain ⟨rfl, rfl⟩ := Prod.mk.inj h
        obtain ⟨⟨ds, hds⟩, rfl, rfl⟩ := ih hcs
        refine ⟨⟨c :: ds, List.forall_mem_cons.2 ⟨by rw [hd]; rfl, hds⟩⟩, rfl, ?_⟩
        simp [DigitRun.values, hd]
      · obtain ⟨rfl, rfl⟩ := Prod.mk.inj h
        exact ⟨⟨[], by simp⟩, rfl, rfl⟩

/-- Taking digits leaves no more than there was. -/
theorem length_takeDigits (cs : List Char) :
    (takeDigits digit? cs).2.length ≤ cs.length := by
  obtain ⟨ds, hcs, -⟩ := takeDigits_sound (rfl : takeDigits digit? cs = _)
  have hlength := congrArg List.length hcs
  rw [List.length_append] at hlength
  omega

/-- The values of digits are as many as the digits. -/
theorem DigitRun.values_eq_nil_iff {ds : DigitRun digit?} : ds.values = [] ↔ ds.1 = [] := by
  obtain ⟨cs, hcs⟩ := ds
  cases cs with
  | nil => simp [values]
  | cons c cs =>
      rw [List.forall_mem_cons] at hcs
      obtain ⟨d, hd⟩ := Option.isSome_iff_exists.1 hcs.1
      simp [values, hd]

/-- The sign of a text is split off. -/
theorem splitSign_sound (cs : List Char) :
    ∃ sign : NumeralSign, (splitSign cs).1 = sign.negative ∧ cs = sign.chars ++ (splitSign cs).2 := by
  unfold splitSign
  split
  · exact ⟨.minus, rfl, rfl⟩
  · exact ⟨.plus, rfl, rfl⟩
  · exact ⟨.none, rfl, rfl⟩

/-- A sign is split off what starts with no sign. -/
theorem splitSign_append {sign : NumeralSign} {body : List Char}
    (h : ∀ c, body.head? = some c → c ≠ '+' ∧ c ≠ '-') :
    splitSign (sign.chars ++ body) = (sign.negative, body) := by
  cases sign with
  | none =>
      cases body with
      | nil => rfl
      | cons c body =>
          obtain ⟨hplus, hminus⟩ := h c rfl
          rw [NumeralSign.chars, List.nil_append, splitSign.eq_3 _ ?_ ?_]
          · rfl
          · intro rest he
            exact hminus (List.cons.inj he).1
          · intro rest he
            exact hplus (List.cons.inj he).1
  | plus => rfl
  | minus => rfl

/-! ## Exponents -/

/-- What is taken as an exponent is one. -/
theorem takeExponent?_sound {e : Int} (h : takeExponent? digit? cs = some (e, rest)) :
    ∃ p : ExponentPart digit?, cs = p.chars ++ rest ∧ e = p.value := by
  cases cs with
  | nil => exact absurd h (by simp [takeExponent?])
  | cons c cs =>
      rw [takeExponent?] at h
      split at h
      · rename_i hmark
        obtain ⟨sign, hsign, hcs⟩ := splitSign_sound cs
        -- a mark is not enough: without digits after it nothing is taken
        rcases hsplit : splitSign cs with ⟨negative, body⟩
        rw [hsplit] at h hsign hcs
        dsimp only at h hsign hcs
        rcases hdigits : takeDigits digit? body with ⟨values, left⟩
        obtain ⟨ds, hbody, hvalues⟩ := takeDigits_sound hdigits
        rw [hdigits] at h
        cases values with
        | nil => exact absurd h (by simp)
        | cons d values =>
            simp only [Option.some.injEq, Prod.mk.injEq] at h
            obtain ⟨rfl, rfl⟩ := h
            have hne : ds.1 ≠ [] := fun hnil => by
              rw [DigitRun.values_eq_nil_iff.2 hnil] at hvalues
              exact List.cons_ne_nil _ _ hvalues
            refine ⟨⟨decide (c = 'E'), sign, ds, hne⟩, ?_, ?_⟩
            · have hc : c = if decide (c = 'E') then 'E' else 'e' := by
                rcases hmark with rfl | rfl <;> rfl
              rw [ExponentPart.chars, ← hc, hcs, hbody, List.cons_append, List.append_assoc]
            · rw [ExponentPart.value, ← hsign, ← hvalues]
      · exact absurd h (by simp)

variable (hdigit : ∀ c ∈ "+-.eE".toList, digit? c = none)
include hdigit

/-- Digits start with no sign. -/
theorem not_sign_of_digits {ds : DigitRun digit?} (hne : ds.1 ≠ []) (rest : List Char) :
    ∀ c, (ds.1 ++ rest).head? = some c → c ≠ '+' ∧ c ≠ '-' := by
  obtain ⟨cs, hcs⟩ := ds
  obtain ⟨d, cs, rfl⟩ := List.exists_cons_of_ne_nil hne
  have hd := hcs d (List.mem_cons_self ..)
  rintro c hc
  obtain rfl : d = c := by simpa using hc
  constructor
  · rintro rfl
    simp [hdigit '+' (by decide)] at hd
  · rintro rfl
    simp [hdigit '-' (by decide)] at hd

/-- An exponent is taken, with the digits that follow it. -/
theorem takeExponent?_append (p : ExponentPart digit?) (rest : List Char) :
    takeExponent? digit? (p.chars ++ rest) =
      some (if p.sign.negative then -(natOfDigits (p.digits.values ++ (takeDigits digit? rest).1) : Int)
        else natOfDigits (p.digits.values ++ (takeDigits digit? rest).1), (takeDigits digit? rest).2) := by
  have hmark : ∀ capital : Bool, (if capital then 'E' else 'e') = 'e' ∨
      (if capital then 'E' else 'e') = 'E' := by decide
  have hne : p.digits.values ≠ [] := fun h => p.hasDigit (DigitRun.values_eq_nil_iff.1 h)
  rw [ExponentPart.chars, List.cons_append, takeExponent?, if_pos (hmark _), List.append_assoc,
    splitSign_append (not_sign_of_digits hdigit p.hasDigit rest)]
  dsimp only
  rw [takeDigits_append]
  cases hvalues : p.digits.values with
  | nil => exact absurd hvalues hne
  | cons d values => rfl

omit hdigit in
/-- Taking an exponent leaves no more than there was. -/
theorem length_takeExponent (cs : List Char) : (takeExponent digit? cs).2.length ≤ cs.length := by
  rw [takeExponent]
  rcases h : takeExponent? digit? cs with _ | ⟨e, rest⟩
  · exact Nat.le_refl _
  · obtain ⟨p, rfl, -⟩ := takeExponent?_sound h
    simp

/-! ## Numerals -/

/-- The digits after a point at the start of a text, with the rest. -/
def takeFraction (digit? : Char → Option Nat) : List Char → List Nat × List Char
  | '.' :: rest => takeDigits digit? rest
  | cs => ([], cs)

omit hdigit in
/-- A numeral is read in three parts, and there is one when some part in front of the exponent has a
digit. -/
theorem takeNumeral_eq (negative : Bool) (cs : List Char) :
    takeNumeral digit? negative cs =
      let (whole, afterWhole) := takeDigits digit? cs
      let (fraction, afterFraction) := takeFraction digit? afterWhole
      let (exponent, left) := takeExponent digit? afterFraction
      if whole = [] ∧ fraction = [] then none else some (⟨negative, whole, fraction, exponent⟩, left) := by
  rw [takeNumeral]
  rcases takeDigits digit? cs with ⟨whole, afterWhole⟩
  dsimp only
  -- with digits before the point and without, with a point after them and without
  split
  · rename_i rest heq
    obtain ⟨rfl, rfl⟩ := Prod.mk.inj heq
    rw [takeFraction]
    rcases takeDigits digit? rest with ⟨fraction, afterFraction⟩
    cases fraction with
    | nil => simp
    | cons d fraction => simp
  · rename_i afterWhole' hpoint heq
    obtain ⟨rfl, rfl⟩ := Prod.mk.inj heq
    rw [takeFraction.eq_2 _ _ (fun rest h => hpoint rest h)]
    simp
  · rename_i whole' rest hne heq
    obtain ⟨rfl, rfl⟩ := Prod.mk.inj heq
    rw [takeFraction, if_neg fun h => hne h.1]
  · rename_i whole' rest _ hne hpoint heq
    obtain ⟨rfl, rfl⟩ := Prod.mk.inj heq
    rw [takeFraction.eq_2 _ _ (fun rest h => hpoint rest h), if_neg fun h => hne h.1]

omit hdigit in
/-- Taking a fraction leaves no more than there was. -/
theorem length_takeFraction (cs : List Char) : (takeFraction digit? cs).2.length ≤ cs.length := by
  unfold takeFraction
  split
  · exact Nat.le_succ_of_le (length_takeDigits _)
  · exact Nat.le_refl _

omit hdigit in
/-- **What is read as a numeral is one**, without its sign. -/
theorem takeNumeral_sound {sign : NumeralSign} {n : Numeral}
    (h : takeNumeral digit? sign.negative cs = some (n, rest)) :
    ∃ p : PlainNumeral digit?, p.sign = sign ∧ cs = p.bodyChars ++ rest ∧ n = p.numeral := by
  rw [takeNumeral_eq] at h
  rcases hwhole : takeDigits digit? cs with ⟨whole, afterWhole⟩
  rcases hfraction : takeFraction digit? afterWhole with ⟨fraction, afterFraction⟩
  rcases hexponent : takeExponent digit? afterFraction with ⟨exponent, left⟩
  rw [hwhole] at h
  dsimp only at h
  rw [hfraction] at h
  dsimp only at h
  rw [hexponent] at h
  dsimp only at h
  split at h
  · exact absurd h (by simp)
  rename_i hdigits
  simp only [Option.some.injEq, Prod.mk.injEq] at h
  obtain ⟨rfl, rfl⟩ := h
  obtain ⟨ws, rfl, rfl⟩ := takeDigits_sound hwhole
  -- the fraction and the exponent are there or not
  obtain ⟨fs, rfl, rfl⟩ : ∃ fs : Option (DigitRun digit?),
      afterWhole = (match fs with | some ds => '.' :: ds.1 | none => []) ++ afterFraction ∧
        fraction = match fs with | some ds => ds.values | none => [] := by
    unfold takeFraction at hfraction
    split at hfraction
    · obtain ⟨ds, rfl, rfl⟩ := takeDigits_sound hfraction
      exact ⟨some ds, rfl, rfl⟩
    · obtain ⟨rfl, rfl⟩ := Prod.mk.inj hfraction
      exact ⟨none, rfl, rfl⟩
  obtain ⟨es, rfl, rfl⟩ : ∃ es : Option (ExponentPart digit?),
      afterFraction = (match es with | some e => e.chars | none => []) ++ left ∧
        exponent = match es with | some e => e.value | none => 0 := by
    rw [takeExponent] at hexponent
    rcases htake : takeExponent? digit? afterFraction with _ | ⟨e, after⟩
    · rw [htake] at hexponent
      obtain ⟨rfl, rfl⟩ := Prod.mk.inj hexponent
      exact ⟨none, rfl, rfl⟩
    · rw [htake] at hexponent
      obtain ⟨rfl, rfl⟩ := Prod.mk.inj hexponent
      obtain ⟨p, rfl, rfl⟩ := takeExponent?_sound htake
      exact ⟨some p, rfl, rfl⟩
  have hsome : ws.1 ≠ [] ∨ ∃ ds, fs = some ds ∧ ds.1 ≠ [] := by
    rcases Decidable.not_and_iff_or_not.1 hdigits with h | h
    · exact .inl fun hnil => h (DigitRun.values_eq_nil_iff.2 hnil)
    · cases fs with
      | none => exact absurd rfl h
      | some ds => exact .inr ⟨ds, rfl, fun hnil => h (DigitRun.values_eq_nil_iff.2 hnil)⟩
  refine ⟨⟨sign, ws, fs, es, hsome⟩, rfl, ?_, rfl⟩
  simp [PlainNumeral.bodyChars, PlainNumeral.tailChars, List.append_assoc]

/-- An exponent after digits is taken, and where nothing follows it is just that exponent. -/
theorem takeExponent_append (e : ExponentPart digit?) (rest : List Char) :
    ∃ value, takeExponent digit? (e.chars ++ rest) = (value, (takeDigits digit? rest).2) ∧
      (rest = [] → value = e.value) := by
  rw [takeExponent, takeExponent?_append hdigit]
  refine ⟨_, rfl, ?_⟩
  rintro rfl
  simp [takeDigits, ExponentPart.value]

omit hdigit in
/-- The mark of an exponent is no point. -/
theorem takeFraction_exponent (e : ExponentPart digit?) (rest : List Char) :
    takeFraction digit? (e.chars ++ rest) = ([], e.chars ++ rest) := by
  rw [takeFraction.eq_2]
  intro more h
  rw [ExponentPart.chars, List.cons_append, List.cons.injEq] at h
  obtain ⟨hmark, -⟩ := h
  cases hcapital : e.capital <;> simp [hcapital] at hmark

/-- No digit stands where an exponent does. -/
theorem takeDigits_exponent (e : ExponentPart digit?) (rest : List Char) :
    takeDigits digit? (e.chars ++ rest) = ([], e.chars ++ rest) := by
  refine takeDigits_of_not_digit ?_
  cases e.capital
  · exact hdigit 'e' (by decide)
  · exact hdigit 'E' (by decide)

/-- **Every numeral at the start of a text is read to its end**, or further, and a numeral alone is read
as what it writes. -/
theorem takeNumeral_append (p : PlainNumeral digit?) (rest : List Char) :
    ∃ n left, takeNumeral digit? p.sign.negative (p.bodyChars ++ rest) = some (n, left) ∧
      left.length ≤ rest.length ∧ (rest = [] → n = p.numeral) := by
  obtain ⟨sign, whole, fraction, exponent, hsome⟩ := p
  have hrest : (takeDigits digit? rest).2.length ≤ rest.length := length_takeDigits rest
  rw [takeNumeral_eq, PlainNumeral.bodyChars, List.append_assoc, takeDigits_append]
  dsimp only
  cases fraction with
  | none =>
      -- no fraction is written, so there are digits in the whole part
      have hwhole : whole.values ≠ [] := by
        simpa [DigitRun.values_eq_nil_iff] using hsome
      cases exponent with
      | none =>
          rw [PlainNumeral.tailChars, List.nil_append, List.nil_append]
          -- the rest may still be taken for a fraction or an exponent, which only leaves less of it
          refine ⟨_, _, if_neg (by simp [hwhole]), ?_, ?_⟩
          · exact Nat.le_trans (length_takeExponent _) (Nat.le_trans (length_takeFraction _) hrest)
          · rintro rfl
            simp [takeDigits, takeFraction, takeExponent, takeExponent?, PlainNumeral.numeral]
      | some e =>
          obtain ⟨value, htake, hvalue⟩ := takeExponent_append hdigit e rest
          rw [PlainNumeral.tailChars, List.nil_append]
          dsimp only
          rw [takeDigits_exponent hdigit, takeFraction_exponent, htake]
          refine ⟨_, _, if_neg (by simp [hwhole]), hrest, fun h => ?_⟩
          simp [PlainNumeral.numeral, hvalue h]
  | some ds =>
      -- there is a digit on one side of the point at least
      have hdigits : ¬(whole.values = [] ∧ ds.values = []) := by
        simp only [DigitRun.values_eq_nil_iff]
        rintro ⟨hwhole, hds⟩
        simp [hwhole, hds] at hsome
      have hpoint : ∀ more, takeDigits digit? ('.' :: more) = ([], '.' :: more) := fun more =>
        takeDigits_of_not_digit (hdigit '.' (by decide))
      have hvalues : ∀ more : List Nat, ¬(whole.values ++ [] = [] ∧ ds.values ++ more = []) := by
        intro more h
        simp only [List.append_nil, List.append_eq_nil_iff] at h
        exact hdigits ⟨h.1, h.2.1⟩
      rw [PlainNumeral.tailChars]
      dsimp only
      cases exponent with
      | none =>
          dsimp only
          rw [List.append_nil, List.cons_append, hpoint, takeFraction]
          dsimp only
          rw [takeDigits_append]
          refine ⟨_, _, if_neg (hvalues _), Nat.le_trans (length_takeExponent _) hrest, ?_⟩
          rintro rfl
          simp [takeDigits, takeExponent, takeExponent?, PlainNumeral.numeral]
      | some e =>
          obtain ⟨value, htake, hvalue⟩ := takeExponent_append hdigit e rest
          dsimp only
          rw [List.append_assoc, List.cons_append, hpoint, takeFraction]
          dsimp only
          rw [takeDigits_append, takeDigits_exponent hdigit]
          dsimp only
          rw [htake]
          refine ⟨_, _, if_neg (hvalues _), hrest, fun h => ?_⟩
          simp [PlainNumeral.numeral, hvalue h]

/-- The characters of a numeral without its sign start with no sign. -/
theorem PlainNumeral.not_sign (p : PlainNumeral digit?) (rest : List Char) :
    ∀ c, (p.bodyChars ++ rest).head? = some c → c ≠ '+' ∧ c ≠ '-' := by
  by_cases hwhole : p.whole.1 = []
  · rcases p.hasDigit with h | ⟨ds, hds, -⟩
    · exact absurd hwhole h
    · intro c hc
      rw [bodyChars, hwhole, tailChars, hds] at hc
      obtain rfl : '.' = c := by simpa using hc
      exact ⟨by decide, by decide⟩
  · rw [bodyChars, List.append_assoc]
    exact not_sign_of_digits hdigit hwhole _

/-! ## The longest numeral -/

/-- Every numeral at the start of a text is read to its end, or further. -/
theorem takeSigned_append (p : PlainNumeral digit?) (rest : List Char) :
    ∃ n left, takeSigned digit? (p.chars ++ rest) = some (n, left) ∧ left.length ≤ rest.length ∧
      (rest = [] → n = p.numeral) := by
  rw [takeSigned, PlainNumeral.chars, List.append_assoc, splitSign_append (p.not_sign hdigit rest)]
  exact takeNumeral_append hdigit p rest

/-- Numerals with the same characters write the same number. -/
theorem PlainNumeral.numeral_eq {p q : PlainNumeral digit?} (h : p.chars = q.chars) :
    p.numeral = q.numeral := by
  obtain ⟨n, left, htake, -, hn⟩ := takeSigned_append hdigit p []
  obtain ⟨n', left', htake', -, hn'⟩ := takeSigned_append hdigit q []
  rw [h, htake'] at htake
  rw [← hn rfl, ← hn' rfl, (Prod.mk.inj (Option.some.inj htake)).1]

/-- **The longest numeral is read**: what is read at the start of a text is a numeral, and no numeral at
the start of the text is longer. -/
theorem takeSigned_eq_some {n : Numeral} (h : takeSigned digit? cs = some (n, rest)) :
    ∃ p : PlainNumeral digit?, cs = p.chars ++ rest ∧ n = p.numeral ∧
      ∀ q : PlainNumeral digit?, q.chars <+: cs → q.chars.length ≤ p.chars.length := by
  obtain ⟨sign, hsign, hcs⟩ := splitSign_sound cs
  rw [takeSigned, hsign] at h
  obtain ⟨p, rfl, hbody, rfl⟩ := takeNumeral_sound h
  have hchars : cs = p.chars ++ rest := by
    rw [PlainNumeral.chars, List.append_assoc, ← hbody]
    exact hcs
  refine ⟨p, hchars, rfl, ?_⟩
  -- every numeral at the start is read to its end at least
  rintro q ⟨more, hmore⟩
  obtain ⟨n', left, htake, hleft, -⟩ := takeSigned_append hdigit q more
  have hlength := congrArg List.length (hmore.trans hchars)
  rw [hmore, takeSigned, hsign, h] at htake
  obtain ⟨-, rfl⟩ := Prod.mk.inj (Option.some.inj htake)
  rw [List.length_append, List.length_append] at hlength
  omega

/-- Nothing is read only where no numeral stands. -/
theorem takeSigned_eq_none (h : takeSigned digit? cs = none) (q : PlainNumeral digit?) :
    ¬q.chars <+: cs := by
  rintro ⟨more, rfl⟩
  obtain ⟨n, left, htake, -⟩ := takeSigned_append hdigit q more
  rw [h] at htake
  exact Option.some_ne_none _ htake.symm

end

end SearchTables
