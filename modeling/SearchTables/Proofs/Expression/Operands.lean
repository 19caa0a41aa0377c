import SearchTables.Proofs.Expression.Grouping
import SearchTables.Row.Filter

/-! # Operands — what is read where an operand may begin

Most readings of this theory start from a text that was read. Here a text is given, and what is read of it
follows: a quoted text without escapes (`readPrimary_text`), a name (`readPrimary_name`), a call of one
argument (`readPrimary_call`). What stands before the next sign of a sum or product is one operand
(`readSum_of_primary`), and one or two operands make a whole expression when a closing sign or the end of
the text follows (`readAt_of_sum`, `readAt_of_relation`). -/

namespace SearchTables

/-- How a comparison is written in a filter. -/
def Relation.sign : Relation → String
  | .lt => "<"
  | .le => "<="
  | .ge => ">="
  | .gt => ">"
  | .eq => "=="
  | .ne => "!="
  | .isIn => "in"

namespace Expression

variable {inner : Reader} {cs mid rest : List Char} {e left right : Expression}

/-! ## Blanks and signs -/

/-- Blanks are skipped once. -/
theorem skip_idem (inComment : Bool) (cs : List Char) : skipBlanks (skip inComment cs) = skip inComment cs := by
  -- skipping ends at the end of the text or in front of a character that is not skipped
  fun_induction skip inComment cs with
  | case1 | case2 => rfl
  | case3 inComment c h =>
      rw [Bool.not_eq_true, Bool.or_eq_false_iff] at h
      simp [skipBlanks, skip, h.2]
  | case4 c d rest ih | case5 _ c d rest _ _ ih | case6 _ c d rest _ _ _ ih => exact ih
  | case7 inComment c d rest hcomment hslash hseparator =>
      simp [skipBlanks, skip, hslash, hseparator]

/-- A space is skipped. -/
theorem skipBlanks_space (cs : List Char) : skipBlanks (' ' :: cs) = skipBlanks cs := by
  cases cs with
  | nil => rfl
  | cons c cs => rfl

/-- A character that is no separator and no slash is not skipped. -/
theorem skipBlanks_cons {c : Char} (hseparator : isSeparator c = false) (hslash : c ≠ '/') (cs : List Char) :
    skipBlanks (c :: cs) = c :: cs := by
  cases cs with
  | nil => simp [skipBlanks, skip, hseparator]
  | cons d cs => simp [skipBlanks, skip, hseparator, hslash]

/-- A sign at the start is taken. -/
theorem takeSign?_cons {c : Char} (hseparator : isSeparator c = false) (hslash : c ≠ '/') (cs : List Char) :
    takeSign? [c] (c :: cs) = some cs := by
  unfold takeSign?
  rw [skipBlanks_cons hseparator hslash]
  simp

/-- A sign that does not come next is not taken. -/
theorem takeSign?_of_head {c : Char} (h : (skipBlanks cs).head? ≠ some c) : takeSign? [c] cs = none := by
  unfold takeSign?
  dsimp only
  cases hcs : skipBlanks cs with
  | nil => rfl
  | cons d more =>
      rw [hcs, List.head?_cons] at h
      have hne : c ≠ d := fun heq => h (heq ▸ rfl)
      simp [hne]

/-! ## What follows an operand -/

/-- A character that may not come next does not. -/
theorem ne_cons_of_head {allowed : Char → Prop} (h : ∀ c ∈ (skipBlanks cs).head?, allowed c) {c : Char}
    (hc : ¬allowed c) (rest : List Char) : skipBlanks cs ≠ c :: rest := by
  intro heq
  rw [heq] at h
  exact hc (h c rfl)

/-- Whether an operand is over: nothing that comes next is attached to it, or makes a product or a sum of it. -/
def EndsOperand (cs : List Char) : Prop :=
  ∀ c ∈ (skipBlanks cs).head?, c ∉ ['.', '[', '\x7b', '*', '/', '%', '+', '-']

/-- Whether an expression is over: the text ends, or a bracket is closed. -/
def EndsExpression (cs : List Char) : Prop :=
  ∀ c ∈ (skipBlanks cs).head?, c ∈ [')', ']', '\x7d', ',']

/-- Where an expression is over its last operand is. -/
theorem EndsExpression.endsOperand (h : EndsExpression cs) : EndsOperand cs := by
  intro c hc
  have hmem := h c hc
  simp only [List.mem_cons, List.not_mem_nil, or_false] at hmem
  rcases hmem with rfl | rfl | rfl | rfl <;> decide

/-- Nothing is attached to an operand that is over. -/
theorem readAttached_of_endsOperand (h : EndsOperand cs) (steps : Nat) (e : Expression) :
    readAttached inner steps e cs = some (e, cs) := by
  cases steps with
  | zero => rfl
  | succ steps =>
      -- a member, an index or fields would begin with one of the signs that do not come next
      unfold readAttached
      split
      · rename_i heq
        exact absurd heq (ne_cons_of_head h (by decide) _)
      · rename_i heq
        exact absurd heq (ne_cons_of_head h (by decide) _)
      · rename_i heq
        exact absurd heq (ne_cons_of_head h (by decide) _)
      · rfl

/-- An operand that is over makes no product. -/
theorem takeProductSign?_of_endsOperand (h : EndsOperand cs) : takeProductSign? (skipBlanks cs) = none := by
  unfold takeProductSign?
  split
  · rename_i heq
    exact absurd heq (ne_cons_of_head h (by decide) _)
  · rename_i heq
    exact absurd heq (ne_cons_of_head h (by decide) _)
  · rename_i heq
    exact absurd heq (ne_cons_of_head h (by decide) _)
  · rfl

/-- An operand that is over makes no sum. -/
theorem takeSumSign?_of_endsOperand (h : EndsOperand cs) : takeSumSign? (skipBlanks cs) = none := by
  unfold takeSumSign?
  split
  · rename_i heq
    exact absurd heq (ne_cons_of_head h (by decide) _)
  · rename_i heq
    exact absurd heq (ne_cons_of_head h (by decide) _)
  · rfl

/-! ## Levels -/

section Levels

variable {α : Type} {operand : Reader} {operator : List Char → Option (α × List Char)}
  {join : α → Expression → Expression → Expression}

/-- An operand without an operator behind it is all that its level reads. -/
theorem readLevel_of_operand (hread : operand cs = some (e, rest)) (hstop : operator (skipBlanks rest) = none) :
    readLevel operand operator join cs = some (e, rest) := by
  unfold readLevel
  rw [hread]
  simp [readChain, hstop]

/-- Two operands with an operator between them are joined when no other operator follows. -/
theorem readLevel_of_pair {op : α} {after : List Char} (hleft : operand cs = some (left, mid))
    (hop : operator (skipBlanks mid) = some (op, after)) (hright : operand after = some (right, rest))
    (hstop : operator (skipBlanks rest) = none) :
    readLevel operand operator join cs = some (join op left right, rest) := by
  unfold readLevel
  rw [hleft]
  simp only [Option.bind_eq_bind, Option.bind_some, readChain, hop, hright]
  cases mid.length with
  | zero => rfl
  | succ steps => rw [readChain, hstop]

end Levels

/-- The reader of sums, which binds tighter than comparisons. -/
def readSum (inner : Reader) : Reader :=
  let unary : Reader := fun cs => readUnary inner (cs.length + 1) cs
  readLevel (readLevel unary takeProductSign? .arithmetic) takeSumSign? .arithmetic

/-- Comparisons are made of what the reader of sums reads. -/
theorem readRelation_eq (inner : Reader) :
    readRelation inner = readLevel (readSum inner) takeRelation? .relation := rfl

/-- The end of the text ends an expression. -/
theorem endsExpression_nil : EndsExpression [] := fun _ hc => nomatch hc

/-- A space before an operand is skipped. -/
theorem readPrimary_space (inner : Reader) (cs : List Char) :
    readPrimary inner (' ' :: cs) = readPrimary inner cs := by
  rw [readPrimary, readPrimary, skipBlanks_space]

/-- **An operand is all of a sum** when it does not begin with a sign and nothing more belongs to it. -/
theorem readSum_of_primary (hread : readPrimary inner cs = some (e, rest))
    (hstart : ∀ c ∈ (skipBlanks cs).head?, c ≠ '!' ∧ c ≠ '-') (hends : EndsOperand rest) :
    readSum inner cs = some (e, rest) := by
  have hskipped : readPrimary inner (skipBlanks cs) = some (e, rest) := by
    rw [← hread, readPrimary, readPrimary]
    rw [show skipBlanks (skipBlanks cs) = skipBlanks cs from skip_idem false cs]
  have hmember : readMember inner (skipBlanks cs) = some (e, rest) := by
    rw [readMember, hskipped]
    exact readAttached_of_endsOperand hends _ e
  have hunary : readUnary inner (cs.length + 1) cs = some (e, rest) := by
    rw [readUnary]
    split
    · rename_i heq
      exact absurd heq (ne_cons_of_head hstart (by decide) _)
    · rename_i heq
      exact absurd heq (ne_cons_of_head hstart (by decide) _)
    · exact hmember
  exact readLevel_of_operand (readLevel_of_operand hunary (takeProductSign?_of_endsOperand hends))
    (takeSumSign?_of_endsOperand hends)

section Whole

variable {levels : Nat}

/-- A comparison is a whole expression when the expression is over. -/
theorem readAt_of_readRelation (hread : readRelation (readAt levels) cs = some (e, rest))
    (hends : EndsExpression rest) : readAt (levels + 1) cs = some (e, rest) := by
  have hand : takeAnd? (skipBlanks rest) = none := by
    unfold takeAnd?
    split
    · rename_i heq
      exact absurd heq (ne_cons_of_head hends (by decide) _)
    · rfl
  have hor : takeOr? (skipBlanks rest) = none := by
    unfold takeOr?
    split
    · rename_i heq
      exact absurd heq (ne_cons_of_head hends (by decide) _)
    · rfl
  have hquestion : takeSign? ['?'] rest = none := by
    refine takeSign?_of_head fun heq => ?_
    exact absurd (hends '?' heq) (by decide)
  have hwhole : readOr (readAt levels) cs = some (e, rest) := by
    rw [readOr_eq]
    exact readLevel_of_operand (readLevel_of_operand hread hand) hor
  rw [readAt, hwhole]
  simp [hquestion]

/-- No comparison goes on where an expression is over. -/
theorem takeRelation?_of_endsExpression (h : EndsExpression cs) : takeRelation? (skipBlanks cs) = none := by
  unfold takeRelation?
  -- each of the seven signs begins with a character that closes nothing
  split <;> first | rfl | exact absurd ‹_› (ne_cons_of_head h (by decide) _)

/-- **One operand is a whole expression** when the expression is over. -/
theorem readAt_of_sum (hread : readSum (readAt levels) cs = some (e, rest)) (hends : EndsExpression rest) :
    readAt (levels + 1) cs = some (e, rest) := by
  refine readAt_of_readRelation ?_ hends
  rw [readRelation_eq]
  exact readLevel_of_operand hread (takeRelation?_of_endsExpression hends)

/-- **Two operands and the sign between them are a whole expression** when the expression is over. -/
theorem readAt_of_relation {sign : Relation} {after : List Char}
    (hleft : readSum (readAt levels) cs = some (left, mid))
    (hsign : takeRelation? (skipBlanks mid) = some (sign, after))
    (hright : readSum (readAt levels) after = some (right, rest)) (hends : EndsExpression rest) :
    readAt (levels + 1) cs = some (.relation sign left right, rest) := by
  refine readAt_of_readRelation ?_ hends
  rw [readRelation_eq]
  exact readLevel_of_pair hleft hsign hright (takeRelation?_of_endsExpression hends)

end Whole

/-! ## Quoted texts -/

/-- Whether the quoted text that goes on with given characters has a given end, however many steps more
than characters there are. -/
def EndsAt (quote : Char) (cs body rest : List Char) : Prop :=
  ∀ steps, cs.length < steps → takeBody? [quote] true steps cs = some (body, rest)

section

variable {quote : Char} {cs body rest : List Char}

/-- A quote ends the text. -/
theorem endsAt_quote (quote : Char) (rest : List Char) : EndsAt quote (quote :: rest) [] rest := by
  intro steps hsteps
  obtain ⟨steps, rfl⟩ : ∃ fewer, steps = fewer + 1 := ⟨steps - 1, by omega⟩
  have hprefix : [quote].isPrefixOf (quote :: rest) = true := by simp
  unfold takeBody?
  rw [if_pos hprefix]
  rfl

/-- A character that is no quote and no line feed is one more of the body, and the text ends where what
follows does; a backslash has to leave what follows alone. -/
theorem EndsAt.cons (h : EndsAt quote cs body rest) {c : Char} (hquote : c ≠ quote) (hfeed : c ≠ '\n')
    (halone : c = '\\' → ∀ d ∈ cs.head?, isEscapable d = false) :
    EndsAt quote (c :: cs) (c :: body) rest := by
  intro steps hsteps
  obtain ⟨steps, rfl⟩ : ∃ fewer, steps = fewer + 1 := ⟨steps - 1, by omega⟩
  have hrest := h steps (Nat.lt_of_succ_lt_succ hsteps)
  have hnot : [quote].isPrefixOf (c :: cs) = false := by
    rw [List.isPrefixOf, beq_false_of_ne (Ne.symm hquote), Bool.false_and]
  unfold takeBody?
  rw [hnot, if_neg Bool.false_ne_true, if_neg (fun hboth => hfeed hboth.2)]
  split
  · rename_i d after
    rw [halone rfl d rfl, Bool.false_and, if_neg Bool.false_ne_true, hrest]
    rfl
  · rw [hrest]
    rfl

/-- Several characters without a quote, a line feed and a backslash belong to the body. -/
theorem EndsAt.append (h : EndsAt quote cs body rest) {plain : List Char}
    (hplain : ∀ c ∈ plain, c ≠ quote ∧ c ≠ '\\' ∧ c ≠ '\n') :
    EndsAt quote (plain ++ cs) (plain ++ body) rest := by
  induction plain with
  | nil => exact h
  | cons c plain ih =>
      rw [List.forall_mem_cons] at hplain
      obtain ⟨⟨hquote, hescape, hfeed⟩, hplain⟩ := hplain
      exact (ih hplain).cons hquote hfeed fun heq => absurd heq hescape

/-- A text that ends at a single quote is taken up to it, where no tripled quote begins. -/
theorem takeAfterQuote?_of_endsAt (h : EndsAt quote cs body rest)
    (htripled : ∀ more, cs ≠ quote :: quote :: more) : takeAfterQuote? quote cs = some (body, rest) := by
  have hsingle := h (cs.length + 1) (Nat.lt_succ_self _)
  unfold takeAfterQuote?
  split
  · rename_i a b more
    rw [if_neg (by rintro ⟨rfl, rfl⟩; exact htripled more rfl)]
    exact hsingle
  · exact hsingle

/-- A quoted text without escapes is taken as it is. -/
theorem takeQuoted?_of_plain (hne : body ≠ [])
    (h : ∀ c ∈ body, c ≠ '"' ∧ c ≠ '\\' ∧ c ≠ '\n') (rest : List Char) :
    takeQuoted? ('"' :: (body ++ '"' :: rest)) = some (body, rest) := by
  have hends := (endsAt_quote '"' rest).append h
  rw [List.append_nil] at hends
  refine takeAfterQuote?_of_endsAt hends fun more heq => ?_
  -- the first character keeps the quote from being a tripled one
  obtain ⟨c, others, rfl⟩ := List.exists_cons_of_ne_nil hne
  exact (h c List.mem_cons_self).1 (List.cons.inj heq).1

end

/-- **A quoted text is read as its body.** -/
theorem readPrimary_text {body : List Char} (hne : body ≠ [])
    (h : ∀ c ∈ body, c ≠ '"' ∧ c ≠ '\\' ∧ c ≠ '\n') (rest : List Char) :
    readPrimary inner ('"' :: (body ++ '"' :: rest)) = some (.literal (.text false body), rest) := by
  have hliteral : takeLiteral? ('"' :: (body ++ '"' :: rest)) = some (.text false body, rest) := by
    have hnumber : takeNumber? ('"' :: (body ++ '"' :: rest)) = none := rfl
    rw [takeLiteral?, hnumber]
    simp [takeTextLiteral?, takeText?, takeQuoted?_of_plain hne h]
  rw [readPrimary, skipBlanks_cons rfl (by decide), hliteral]

/-! ## Names -/

/-- A name is a start and the parts after it. -/
theorem exists_cons_of_isName {name : String} (h : isName name = true) :
    ∃ c more, name.toList = c :: more ∧ isNameStart c = true ∧ ∀ d ∈ more, isNamePart d = true := by
  unfold isName at h
  split at h
  · rename_i c more heq
    rw [Bool.and_eq_true, List.all_eq_true] at h
    exact ⟨c, more, heq, h⟩
  · cases h

/-- Whether a word is over: what comes next is no part of a name, and no quote. -/
def EndsWord (cs : List Char) : Prop := ∀ c ∈ cs.head?, isNamePart c = false ∧ c ≠ '"' ∧ c ≠ '\''

/-- A part of a name is no quote. -/
theorem ne_quote_of_isNamePart {c : Char} (h : isNamePart c = true) : c ≠ '"' ∧ c ≠ '\'' := by
  constructor
  · rintro rfl
    cases h
  · rintro rfl
    cases h

/-- Where there is no quote no text is taken. -/
theorem takeQuoted?_of_head (h : ∀ c ∈ cs.head?, c ≠ '"' ∧ c ≠ '\'') : takeQuoted? cs = none := by
  unfold takeQuoted?
  split
  · exact absurd rfl (h _ rfl).1
  · exact absurd rfl (h _ rfl).2
  · rfl

/-- The first character behind parts of a name is no quote. -/
theorem EndsWord.ne_quote {more : List Char} (hmore : ∀ d ∈ more, isNamePart d = true) (hrest : EndsWord rest) :
    ∀ c ∈ (more ++ rest).head?, c ≠ '"' ∧ c ≠ '\'' := by
  intro c hc
  cases more with
  | nil => exact (hrest c hc).2
  | cons d more =>
      obtain rfl := Option.some.inj hc
      exact ne_quote_of_isNamePart (hmore d (List.mem_cons_self ..))

/-- The parts of a name are no text. -/
theorem takeText?_of_word {more : List Char} (hmore : ∀ d ∈ more, isNamePart d = true) (hrest : EndsWord rest) :
    takeText? (more ++ rest) = none := by
  have hhead := hrest.ne_quote hmore
  cases more with
  | nil =>
      cases rest with
      | nil => rfl
      | cons c rest =>
          -- the mark of a raw text would be a part of a name
          have hpart := (hrest c rfl).1
          have hraw : ¬(c = 'r' ∨ c = 'R') := by
            rintro (rfl | rfl) <;> cases hpart
          rw [List.nil_append] at hhead ⊢
          rw [takeText?, if_neg hraw, takeQuoted?_of_head hhead]
          rfl
  | cons d more =>
      have htail := hrest.ne_quote (List.forall_mem_cons.1 hmore).2
      rw [List.cons_append] at hhead ⊢
      rw [takeText?, takeQuoted?_of_head hhead, takeQuoted?_of_head htail]
      split <;> rfl

/-- No number starts like a name. -/
theorem takeNumber?_of_isNameStart {c : Char} (h : isNameStart c = true) (cs : List Char) :
    takeNumber? (c :: cs) = none := by
  have hminus : c ≠ '-' := by
    rintro rfl
    cases h
  have hpoint : c ≠ '.' := by
    rintro rfl
    cases h
  -- letters and the underscore come after the digits
  have hdigit : Text.asciiDigit? c = none := by
    refine if_neg fun hrange => ?_
    simp only [isNameStart, Bool.or_eq_true, Bool.and_eq_true, decide_eq_true_eq] at h
    rcases h with (rfl | ⟨hletter, -⟩) | ⟨hletter, -⟩
    · revert hrange
      decide
    · exact absurd (Char.le_trans hletter hrange.2) (by decide)
    · exact absurd (Char.le_trans hletter hrange.2) (by decide)
  have hdigits : takeDigits Text.asciiDigit? (c :: cs) = ([], c :: cs) := by
    rw [takeDigits, hdigit]
  have hnumeral : takeNumeral Text.asciiDigit? false (c :: cs) = none := by
    unfold takeNumeral
    rw [hdigits]
    simp [hpoint]
  unfold takeNumber?
  split
  · rename_i heq
    exact absurd (List.cons.inj heq).1 hminus
  · rw [takeUnsigned?, hnumeral]

/-- **A name is no literal.** -/
theorem takeLiteral?_of_name {name : String} (hname : isName name = true) (hrest : EndsWord rest) :
    takeLiteral? (name.toList ++ rest) = none := by
  obtain ⟨c, more, hchars, hstart, hmore⟩ := exists_cons_of_isName hname
  have hpart : ∀ d ∈ c :: more, isNamePart d = true := by
    rw [List.forall_mem_cons, isNamePart, hstart, Bool.true_or]
    exact ⟨rfl, hmore⟩
  have hnumber : takeNumber? (c :: (more ++ rest)) = none := takeNumber?_of_isNameStart hstart _
  have htext := takeText?_of_word hpart hrest
  have hlater := takeText?_of_word hmore hrest
  rw [List.cons_append] at htext
  rw [hchars, List.cons_append, takeLiteral?, hnumber, takeTextLiteral?, htext]
  simp [hlater]

/-- The longest name is taken. -/
theorem takeWord?_of_name {name : String} (hname : isName name = true) (hrest : EndsWord rest) :
    takeWord? (name.toList ++ rest) = some (name, rest) := by
  obtain ⟨c, more, hchars, hstart, hmore⟩ := exists_cons_of_isName hname
  have hstop : rest.takeWhile isNamePart = [] ∧ rest.dropWhile isNamePart = rest := by
    cases rest with
    | nil => exact ⟨rfl, rfl⟩
    | cons d rest => simp [(hrest d rfl).1]
  rw [hchars, List.cons_append, takeWord?, if_pos hstart, List.takeWhile_append_of_pos hmore,
    List.dropWhile_append_of_pos hmore, hstop.1, hstop.2, List.append_nil, ← hchars, String.ofList_toList]

/-- Before a name nothing is skipped. -/
theorem skipBlanks_name {name : String} (hname : isName name = true) (rest : List Char) :
    skipBlanks (name.toList ++ rest) = name.toList ++ rest := by
  obtain ⟨c, more, hchars, hstart, -⟩ := exists_cons_of_isName hname
  rw [hchars]
  refine skipBlanks_cons ?_ ?_ _
  · rw [← Bool.not_eq_true]
    intro hseparator
    simp only [isSeparator, Bool.or_eq_true, decide_eq_true_eq] at hseparator
    rcases hseparator with (((rfl | rfl) | rfl) | rfl) | rfl <;> cases hstart
  · rintro rfl
    cases hstart

/-- A name does not begin with a sign. -/
theorem ne_sign_of_name {name : String} (hname : isName name = true) (rest : List Char) :
    ∀ c ∈ (skipBlanks (name.toList ++ rest)).head?, c ≠ '!' ∧ c ≠ '-' := by
  obtain ⟨c, more, hchars, hstart, -⟩ := exists_cons_of_isName hname
  rw [skipBlanks_name hname, hchars]
  intro d hd
  obtain rfl := Option.some.inj hd
  constructor
  · rintro rfl
    cases hstart
  · rintro rfl
    cases hstart

/-- A word is read where no literal is. -/
theorem readPrimary_word {name : String} (hname : isName name = true) (hrest : EndsWord rest) :
    readPrimary inner (name.toList ++ rest) = readWord inner name rest := by
  rw [readPrimary, skipBlanks_name hname, takeLiteral?_of_name hname hrest, takeWord?_of_name hname hrest]

section Names

variable {name : String} (hname : isName name = true) (htruth : isTruthWord name = false) (hnull : name ≠ "null")

include hname htruth hnull

/-- **A name is read as a field**, when no argument follows. -/
theorem readPrimary_name (hrest : EndsWord rest) (hcall : (skipBlanks rest).head? ≠ some '(') :
    readPrimary inner (name.toList ++ rest) = some (.ident name, rest) := by
  rw [readPrimary_word hname hrest, readWord, htruth, if_neg Bool.false_ne_true, if_neg hnull,
    takeSign?_of_head hcall]

/-- **A name with an argument is read as a call.** -/
theorem readPrimary_call {argument : Expression} (hread : inner cs = some (argument, ')' :: rest))
    (hstart : (skipBlanks cs).head? ≠ some ')') :
    readPrimary inner (name.toList ++ '(' :: cs) = some (.call name [argument], rest) := by
  have hends : EndsWord ('(' :: cs) := by
    intro c hc
    obtain rfl := Option.some.inj hc
    decide
  have hitems : readList inner ')' cs = some ([argument], rest) := by
    have hclose : takeSign? [')'] (')' :: rest) = some rest := takeSign?_cons rfl (by decide) rest
    rw [readList, takeSign?_of_head hstart]
    simp [readItems, hread, hclose]
  rw [readPrimary_word hname hends, readWord, htruth, if_neg Bool.false_ne_true, if_neg hnull,
    takeSign?_cons rfl (by decide)]
  dsimp only
  rw [hitems, Option.map_some]

end Names

/-! ## Comparisons of a field -/

/-- The sign of a comparison comes next when a space stands before it. -/
theorem skipBlanks_sign (relation : Relation) (rest : List Char) :
    skipBlanks (' ' :: (relation.sign.toList ++ ' ' :: rest)) = relation.sign.toList ++ ' ' :: rest := by
  cases relation <;> rfl

/-- No sign of a comparison opens a bracket, belongs to an operand, or makes a sum or product of it. -/
theorem head_sign (relation : Relation) (rest : List Char) :
    ∀ c ∈ (relation.sign.toList ++ ' ' :: rest).head?,
      c ≠ '(' ∧ c ∉ ['.', '[', '\x7b', '*', '/', '%', '+', '-'] := by
  intro c hc
  cases relation <;> obtain rfl := Option.some.inj hc <;> decide

/-- The sign of a comparison is read as the comparison when a space follows. -/
theorem takeRelation?_sign (relation : Relation) (rest : List Char) :
    takeRelation? (relation.sign.toList ++ ' ' :: rest) = some (relation, ' ' :: rest) := by
  cases relation <;> rfl

/-- **A field compared with an operand is read as the comparison.** -/
theorem readAt_comparison {name : String} (hname : isName name = true) (htruth : isTruthWord name = false)
    (hnull : name ≠ "null") (relation : Relation) {levels : Nat} {cs : List Char}
    (hright : readSum (readAt levels) (' ' :: cs) = some (right, rest)) (hends : EndsExpression rest) :
    readAt (levels + 1) (name.toList ++ ' ' :: (relation.sign.toList ++ ' ' :: cs)) =
      some (.relation relation (.ident name) right, rest) := by
  have hword : EndsWord (' ' :: (relation.sign.toList ++ ' ' :: cs)) := by
    intro c hc
    obtain rfl := Option.some.inj hc
    decide
  have hoperand : EndsOperand (' ' :: (relation.sign.toList ++ ' ' :: cs)) := by
    intro c hc
    rw [skipBlanks_sign] at hc
    exact (head_sign relation _ c hc).2
  have hopen : (skipBlanks (' ' :: (relation.sign.toList ++ ' ' :: cs))).head? ≠ some '(' := by
    rw [skipBlanks_sign]
    exact fun heq => (head_sign relation _ '(' heq).1 rfl
  have hsign : takeRelation? (skipBlanks (' ' :: (relation.sign.toList ++ ' ' :: cs))) =
      some (relation, ' ' :: cs) := by
    rw [skipBlanks_sign, takeRelation?_sign]
  have hfield : readSum (readAt levels) (name.toList ++ ' ' :: (relation.sign.toList ++ ' ' :: cs)) =
      some (.ident name, ' ' :: (relation.sign.toList ++ ' ' :: cs)) :=
    readSum_of_primary (readPrimary_name hname htruth hnull hword hopen) (ne_sign_of_name hname _) hoperand
  exact readAt_of_relation hfield hsign hright hends

end Expression

end SearchTables
