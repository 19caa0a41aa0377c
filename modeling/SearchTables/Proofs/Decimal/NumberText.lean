import SearchTables.Decimal.Shortest

/-! # The texts of numbers — what they are made of

A whole number is written with digits and perhaps a minus, and is read back from its text. The text of a
double has characters of a small set only, and one of them at least is no part of the text of a whole
number: a point, the letter of an exponent, or a letter of one of the names for what is not finite. -/

namespace SearchTables

/-! ## Whole numbers -/

/-- The whole number that digits after an optional minus write. -/
def wholeOf : List Char → Int
  | '-' :: digits => -(Nat.ofDigitChars 10 digits 0 : Int)
  | digits => Nat.ofDigitChars 10 digits 0

/-- The characters of the texts of whole numbers. -/
def isWholeChar (c : Char) : Bool := c.isDigit || c == '-'

/-- The text of a whole number. -/
theorem toList_toString_int (n : Int) :
    (toString n).toList = (if 0 ≤ n then [] else ['-']) ++ Nat.toDigits 10 n.natAbs := by
  rw [Int.toString_eq_repr, Int.repr_eq_if]
  split
  · rename_i h
    have habs : n.toNat = n.natAbs := by omega
    simp [Nat.toList_repr, habs]
  · rename_i h
    have habs : (-n).toNat = n.natAbs := by omega
    simp [Nat.toList_repr, habs]

/-- Digits are read as what they write. -/
theorem wholeOf_toDigits (n : Nat) : wholeOf (Nat.toDigits 10 n) = n := by
  rw [wholeOf, Nat.ofDigitChars_toDigits (by decide) (by decide)]
  intro digits h
  have hminus : '-' ∈ Nat.toDigits 10 n := h ▸ List.mem_cons_self ..
  exact absurd (Nat.isDigit_of_mem_toDigits (by decide) (by decide) hminus) (by decide)

/-- **A whole number is read back from its text.** -/
theorem wholeOf_toString (n : Int) : wholeOf (toString n).toList = n := by
  rw [toList_toString_int]
  split
  · rw [List.nil_append, wholeOf_toDigits]
    omega
  · rw [List.cons_append, List.nil_append, wholeOf, Nat.ofDigitChars_toDigits (by decide) (by decide)]
    omega

/-- Whole numbers with one text are one number. -/
theorem toString_int_inj {m n : Int} (h : toString m = toString n) : m = n := by
  rw [← wholeOf_toString m, h, wholeOf_toString]

/-- The text of a whole number is not empty. -/
theorem toList_toString_int_ne_nil (n : Int) : (toString n).toList ≠ [] := by
  rw [toList_toString_int]
  simp [Nat.toDigits_ne_nil]

/-- The characters of the text of a whole number. -/
theorem isWholeChar_of_mem {n : Int} {c : Char} (h : c ∈ (toString n).toList) :
    isWholeChar c = true := by
  rw [toList_toString_int, List.mem_append] at h
  rcases h with h | h
  · split at h
    · exact absurd h List.not_mem_nil
    · rw [List.mem_singleton.1 h]
      decide
  · rw [isWholeChar, Nat.isDigit_of_mem_toDigits (by decide) (by decide) h, Bool.true_or]

/-! ## Doubles -/

/-- The characters of the texts of doubles. -/
def isNumberChar (c : Char) : Bool := c.isDigit || "-+.eNaInfity".toList.contains c

/-- A digit is a character of numbers. -/
theorem isNumberChar_of_isDigit {c : Char} (h : c.isDigit = true) : isNumberChar c = true := by
  rw [isNumberChar, h, Bool.true_or]

/-- A character of a whole number is one of numbers. -/
theorem isNumberChar_of_isWholeChar {c : Char} (h : isWholeChar c = true) : isNumberChar c = true := by
  rw [isWholeChar, Bool.or_eq_true] at h
  rcases h with h | h
  · exact isNumberChar_of_isDigit h
  · rw [eq_of_beq h]
    decide

/-- The digits of a number are digits. -/
theorem isDigit_of_mem_ofNat {n : Nat} {exponent : Int} {c : Char}
    (h : c ∈ (DecimalDigits.ofNat n exponent).digits) : c.isDigit = true := by
  have hmem : c ∈ Nat.toDigits 10 n := by
    have hdrop := (List.dropWhile_sublist _).mem (List.mem_reverse.1 h)
    exact List.mem_reverse.1 hdrop
  exact Nat.isDigit_of_mem_toDigits (by decide) (by decide) hmem

/-- The shortest digits are digits. -/
theorem isDigit_of_mem_shortest {d : Dyadic} {c : Char} (h : c ∈ d.shortest.digits) :
    c.isDigit = true := by
  unfold Dyadic.shortest at h
  dsimp only at h
  split at h
  · exact isDigit_of_mem_ofNat h
  · exact isDigit_of_mem_ofNat h

/-- A padded numeral has digits only. -/
theorem isDigit_of_mem_padZeros {width n : Nat} {c : Char}
    (h : c ∈ padZeros width (Nat.toDigits 10 n)) : c.isDigit = true := by
  rw [padZeros, List.mem_append] at h
  rcases h with h | h
  · rw [(List.mem_replicate.1 h).2]
    decide
  · exact Nat.isDigit_of_mem_toDigits (by decide) (by decide) h

namespace FloatLayout

/-- The characters of digits spelled as a double. -/
theorem isNumberChar_of_mem_spell {layout : FloatLayout} {d : DecimalDigits}
    (hdigits : ∀ c ∈ d.digits, c.isDigit = true) {c : Char} (h : c ∈ layout.spell d) :
    isNumberChar c = true := by
  have hdigit : c ∈ d.digits → isNumberChar c = true := fun h => isNumberChar_of_isDigit (hdigits c h)
  have hzeros : ∀ count, c ∈ List.replicate count '0' → isNumberChar c = true := fun count h => by
    rw [(List.mem_replicate.1 h).2]
    decide
  have htail : ∀ exponent : Int, c ∈ 'e' :: (if exponent < 0 then '-' else '+') ::
      padZeros layout.exponentWidth (Nat.toDigits 10 exponent.natAbs) → isNumberChar c = true := by
    intro exponent h
    rw [List.mem_cons, List.mem_cons] at h
    rcases h with rfl | h | h
    · decide
    · split at h <;> (rw [h]; decide)
    · exact isNumberChar_of_isDigit (isDigit_of_mem_padZeros h)
  -- zeros in front of the digits, a point among or behind them, or an exponent
  unfold spell at h
  dsimp only at h
  split at h
  · split at h
    · simp only [List.cons_append, List.mem_cons, List.mem_append] at h
      rcases h with rfl | rfl | h | h
      · decide
      · decide
      · exact hzeros _ h
      · exact hdigit h
    · simp only [List.mem_cons, List.mem_append] at h
      rcases h with (h | h) | rfl | h
      · exact hdigit (List.mem_of_mem_take h)
      · exact hzeros _ h
      · decide
      · split at h
        · exact hzeros 1 h
        · exact hdigit (List.mem_of_mem_drop h)
  · split at h
    · exact htail _ h
    · rename_i lead hlead
      rcases List.mem_cons.1 h with rfl | h
      · exact hdigit (hlead ▸ List.mem_cons_self ..)
      · exact htail _ h
    · rename_i lead rest hne hrest
      rw [List.cons_append, List.mem_cons, List.cons_append, List.mem_cons, List.mem_append] at h
      rcases h with rfl | rfl | h | h
      · exact hdigit (hrest ▸ List.mem_cons_self ..)
      · decide
      · exact hdigit (hrest ▸ List.mem_cons_of_mem _ h)
      · exact htail _ h

/-- Digits spelled as a double have a point or an exponent. -/
theorem exists_mem_spell (layout : FloatLayout) (d : DecimalDigits) :
    ∃ c ∈ layout.spell d, isWholeChar c = false := by
  unfold spell
  dsimp only
  split
  · refine ⟨'.', ?_, by decide⟩
    split <;> simp
  · refine ⟨'e', ?_, by decide⟩
    split <;> simp

end FloatLayout

/-- The characters of the text of a double. -/
theorem isNumberChar_of_mem_render {x : Float} {c : Char}
    (h : c ∈ (numberLayout.render x).toList) : isNumberChar c = true := by
  have hsign : c ∈ (if isNegative x then "-" else "").toList → isNumberChar c = true := by
    intro h
    split at h
    · rw [List.mem_singleton.1 (show c ∈ ['-'] from h)]
      decide
    · exact absurd h List.not_mem_nil
  have hnamed : ∀ text : String, text.toList.all isNumberChar = true → c ∈ text.toList →
      isNumberChar c = true := fun text hall hc => List.all_eq_true.1 hall c hc
  unfold FloatLayout.render at h
  dsimp only at h
  split at h
  · split at h
    · exact hnamed _ (by decide) h
    · rw [String.toList_append, List.mem_append] at h
      exact h.elim hsign (hnamed _ (by decide))
  · split at h
    · rw [String.toList_append, List.mem_append] at h
      exact h.elim hsign (hnamed _ (by decide))
    · rw [String.toList_append, List.mem_append, String.toList_ofList] at h
      exact h.elim hsign (FloatLayout.isNumberChar_of_mem_spell fun c => isDigit_of_mem_shortest)

/-- **The text of a double is not that of a whole number.** -/
theorem exists_mem_render (x : Float) :
    ∃ c ∈ (numberLayout.render x).toList, isWholeChar c = false := by
  unfold FloatLayout.render
  dsimp only
  split
  · split
    · exact ⟨'N', by decide, by decide⟩
    · refine ⟨'I', ?_, by decide⟩
      rw [String.toList_append, List.mem_append]
      exact .inr (by decide)
  · split
    · refine ⟨'.', ?_, by decide⟩
      rw [String.toList_append, List.mem_append]
      exact .inr (by decide)
    · rename_i d _ _
      obtain ⟨c, hc, hwhole⟩ := FloatLayout.exists_mem_spell numberLayout d.shortest
      refine ⟨c, ?_, hwhole⟩
      rw [String.toList_append, List.mem_append, String.toList_ofList]
      exact .inr hc

end SearchTables
