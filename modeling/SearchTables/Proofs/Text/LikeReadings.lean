import SearchTables.Text.LikePattern
import Mathlib.Data.List.Basic

/-! # LIKE patterns in other words

The tokens of a LIKE pattern are written down in two other languages: as a **wildcard pattern** for
the index, and as a **regular expression** for rows that are at hand. Each has special characters of
its own and quotes them with a backslash. Each is read here by its own rules, without looking at how
it was written (`WildcardMatches`, `RegexMatches`), and both come to what the tokens say
(`wildcardMatches_iff`, `regexMatches_iff`). -/

namespace SearchTables.Text

/-! ## Literal tokens -/

/-- Tokens all of which are literal are those of their characters. -/
theorem map_literal_eq {tokens : List LikeToken}
    (h : tokens.all (fun token => token.literal?.isSome) = true) :
    (tokens.filterMap LikeToken.literal?).map .literal = tokens := by
  induction tokens with
  | nil => rfl
  | cons token tokens ih =>
      rw [List.all_cons, Bool.and_eq_true] at h
      cases token with
      | literal c => exact congrArg (LikeToken.literal c :: ·) (ih h.2)
      | anyText | anyChar => cases h.1

/-- **Literal tokens match their own characters**, and what comes after them matches the rest. -/
theorem likeMatches_literals_append {codes cs : List Nat} {tokens : List LikeToken} :
    LikeMatches (· == ·) (codes.map .literal ++ tokens) cs ↔
      ∃ rest, cs = codes ++ rest ∧ LikeMatches (· == ·) tokens rest := by
  induction codes generalizing cs with
  | nil => simp
  | cons c codes ih =>
      rw [List.map_cons, List.cons_append]
      constructor
      · intro h
        cases h with
        | @literal _ d _ _ hsame h =>
            obtain rfl : c = d := by simpa using hsame
            obtain ⟨rest, rfl, hrest⟩ := ih.1 h
            exact ⟨rest, rfl, hrest⟩
      · rintro ⟨rest, rfl, hrest⟩
        exact .literal (beq_self_eq_true c) (ih.2 ⟨rest, rfl, hrest⟩)

/-- Literal tokens match their own characters only. -/
theorem likeMatches_literals {codes cs : List Nat} :
    LikeMatches (· == ·) (codes.map .literal) cs ↔ cs = codes := by
  rw [← List.append_nil (codes.map _), likeMatches_literals_append]
  constructor
  · rintro ⟨rest, rfl, hrest⟩
    cases hrest
    exact List.append_nil codes
  · rintro rfl
    exact ⟨[], (List.append_nil cs).symm, .nil⟩

/-- Any text matches what stands for any text. -/
theorem likeMatches_anyText (cs : List Nat) : LikeMatches (· == ·) [.anyText] cs := by
  have h : LikeMatches (· == ·) [.anyText] (cs ++ []) := .anyText .nil
  rwa [List.append_nil] at h

/-- Literal tokens and any text match what begins with the characters. -/
theorem likeMatches_literals_anyText {codes cs : List Nat} :
    LikeMatches (· == ·) (codes.map .literal ++ [.anyText]) cs ↔ codes <+: cs := by
  rw [likeMatches_literals_append]
  constructor
  · rintro ⟨rest, rfl, -⟩
    exact List.prefix_append codes rest
  · rintro ⟨rest, rfl⟩
    exact ⟨rest, rfl, likeMatches_anyText rest⟩

/-! ## Quoting -/

/-- A character as it is written where some characters are special: a backslash quotes those. -/
def quoteIn (specials : List Nat) (c : Nat) : List Nat := if c ∈ specials then [0x5c, c] else [c]

/-! ## Wildcard patterns -/

/-- The special characters of a wildcard pattern: `*`, `?` and the backslash. -/
def wildcardSpecials : List Nat := [0x2a, 0x3f, 0x5c]

/-- A wildcard pattern **matches** a text from end to end: `*` stands for any text, `?` for any one
character, and a backslash quotes the character after it. -/
inductive WildcardMatches : List Nat → List Nat → Prop where
  | nil : WildcardMatches [] []
  | plain {c : Nat} {pattern cs : List Nat} (hc : c ∉ wildcardSpecials)
      (h : WildcardMatches pattern cs) : WildcardMatches (c :: pattern) (c :: cs)
  | quoted {c : Nat} {pattern cs : List Nat} (h : WildcardMatches pattern cs) :
      WildcardMatches (0x5c :: c :: pattern) (c :: cs)
  | anyChar {c : Nat} {pattern cs : List Nat} (h : WildcardMatches pattern cs) :
      WildcardMatches (0x3f :: pattern) (c :: cs)
  | anyText {skipped pattern cs : List Nat} (h : WildcardMatches pattern cs) :
      WildcardMatches (0x2a :: pattern) (skipped ++ cs)

/-- The characters of a token in a wildcard pattern. -/
def LikeToken.wildcardCodes : LikeToken → List Nat
  | .literal c => quoteIn wildcardSpecials c
  | .anyText => [0x2a]
  | .anyChar => [0x3f]

/-- **A wildcard pattern matches what its tokens match.** The induction is on the tokens; the first
character of what is left says which rule applies. -/
theorem wildcardMatches_iff (tokens : List LikeToken) (cs : List Nat) :
    WildcardMatches (tokens.flatMap LikeToken.wildcardCodes) cs ↔
      LikeMatches (· == ·) tokens cs := by
  constructor
  · intro h
    induction tokens generalizing cs with
    | nil =>
        rw [List.flatMap_nil] at h
        cases h
        exact .nil
    | cons token tokens ih =>
        rw [List.flatMap_cons] at h
        generalize tokens.flatMap LikeToken.wildcardCodes = rest at h ih
        cases token with
        | literal c =>
            -- a special character is quoted, and then only the rule for quoted ones applies
            rw [LikeToken.wildcardCodes, quoteIn] at h
            by_cases hc : c ∈ wildcardSpecials
            · rw [if_pos hc] at h
              cases h with
              | plain hplain => exact absurd (by decide) hplain
              | quoted h => exact .literal (beq_self_eq_true c) (ih _ h)
            · rw [if_neg hc] at h
              cases h with
              | plain _ h => exact .literal (beq_self_eq_true c) (ih _ h)
              | quoted | anyChar | anyText => exact absurd (by decide) hc
        | anyChar =>
            cases h with
            | plain hplain => exact absurd (by decide) hplain
            | anyChar h => exact .anyChar (ih _ h)
        | anyText =>
            cases h with
            | plain hplain => exact absurd (by decide) hplain
            | anyText h => exact .anyText (ih _ h)
  · intro h
    induction h with
    | nil => exact .nil
    | @literal c d tokens cs hsame _ ih =>
        obtain rfl : c = d := by simpa using hsame
        rw [List.flatMap_cons, LikeToken.wildcardCodes, quoteIn]
        by_cases hc : c ∈ wildcardSpecials
        · rw [if_pos hc]
          exact .quoted ih
        · rw [if_neg hc]
          exact .plain hc ih
    | anyChar _ ih => exact .anyChar ih
    | anyText _ ih => exact .anyText ih

/-- A text is made a part of a wildcard pattern character by character. -/
theorem escapeWildcardChars_eq (cs : List Char) : escapeWildcardChars cs =
    cs.flatMap fun c => if c = '*' ∨ c = '?' ∨ c = '\\' then ['\\', c] else [c] := by
  rw [escapeWildcardChars, replaceChars_singleton, replaceChars_singleton, replaceChars_singleton,
    List.flatMap_assoc, List.flatMap_assoc]
  refine List.flatMap_congr fun c _ => ?_
  by_cases hbackslash : c = '\\'
  · subst hbackslash
    rfl
  by_cases hstar : c = '*'
  · subst hstar
    rfl
  by_cases hmark : c = '?'
  · subst hmark
    rfl
  simp [hbackslash, hstar, hmark]

/-- Characters none of which is special are made a part of a wildcard pattern as they are. -/
theorem escapeWildcardChars_of_plain {cs : List Char}
    (h : ∀ c ∈ cs, c.toNat ∉ wildcardSpecials) : escapeWildcardChars cs = cs := by
  rw [escapeWildcardChars_eq]
  induction cs with
  | nil => rfl
  | cons c cs ih =>
      rw [List.forall_mem_cons] at h
      have hplain : ¬(c = '*' ∨ c = '?' ∨ c = '\\') := by
        rintro (rfl | rfl | rfl) <;> exact h.1 (by decide)
      rw [List.flatMap_cons, if_neg hplain, ih h.2]
      rfl

/-- A code point is written as its own character or by marks. -/
theorem toNat_of_mem_written {c : Nat} (hc : c < 0x110000) {d : Char} (hd : d ∈ written c) :
    d.toNat = c ∨ 0x10f000 ≤ d.toNat := by
  have hmarks : ∀ place, place < 0x1000 → d ∈ marksOf place → 0x10f000 ≤ d.toNat := by
    intro place hplace hmem
    rw [marksOf, List.mem_cons, List.mem_singleton] at hmem
    rcases hmem with rfl | rfl <;> rw [toNat_ofNat (by omega) (by omega)] <;> omega
  rw [written] at hd
  by_cases hhalf : isHalf c = true
  · rw [if_pos hhalf] at hd
    have hrange : 0xd800 ≤ c ∧ c < 0xe000 := of_decide_eq_true hhalf
    exact .inr (hmarks _ (by omega) hd)
  rw [if_neg hhalf] at hd
  by_cases hmark : isMark c = true
  · rw [if_pos hmark] at hd
    have hrange : 0x10f000 ≤ c ∧ c < 0x10f080 := of_decide_eq_true hmark
    exact .inr (hmarks _ (by omega) hd)
  rw [if_neg hmark, List.mem_singleton] at hd
  subst hd
  exact .inl (toNat_ofNat hc (by simpa [isHalf] using hhalf))

/-- **A token is written in a wildcard pattern as its characters are.** -/
theorem wildcard_eq_writtenAll {token : LikeToken} (h : ∀ c, token = .literal c → c < 0x110000) :
    token.wildcard = writtenAll token.wildcardCodes := by
  cases token with
  | anyText | anyChar => decide
  | literal c =>
      rw [LikeToken.wildcard, LikeToken.wildcardCodes, quoteIn]
      by_cases hspecial : c ∈ wildcardSpecials
      · rw [if_pos hspecial]
        simp only [wildcardSpecials, List.mem_cons, List.not_mem_nil, or_false] at hspecial
        rcases hspecial with rfl | rfl | rfl <;> decide
      · rw [if_neg hspecial, writtenAll, List.flatMap_singleton]
        refine escapeWildcardChars_of_plain fun d hd => ?_
        rcases toNat_of_mem_written (h c rfl) hd with heq | hmark
        · rwa [heq]
        · -- the marks lie far above all special characters
          intro hmem
          simp only [wildcardSpecials, List.mem_cons, List.not_mem_nil, or_false] at hmem
          omega

/-- Two marks stand for a code point within the code space. -/
theorem lt_of_pairCode? {lead trail c : Nat} (h : pairCode? lead trail = some c) :
    c < 0x110000 := by
  rw [pairCode?] at h
  split at h
  · obtain rfl := Option.some.inj h
    rw [codeAt]
    split <;> omega
  · cases h

/-- The code points of a text are within the code space. -/
theorem lt_of_mem_codesOf {cs : List Char} {c : Nat} (hc : c ∈ codesOf cs) : c < 0x110000 := by
  have hchar : ∀ d : Char, d.toNat < 0x110000 := by
    intro d
    have hvalid : d.toNat < 0xd800 ∨ 0xdfff < d.toNat ∧ d.toNat < 0x110000 := d.valid
    omega
  induction cs using codesOf.induct with
  | case1 => simp [codesOf] at hc
  | case2 d =>
      rw [codesOf, List.mem_singleton] at hc
      subst hc
      exact hchar d
  | case3 d e rest n hpair ih =>
      simp only [codesOf, hpair, List.mem_cons] at hc
      rcases hc with rfl | hc
      · exact lt_of_pairCode? hpair
      · exact ih hc
  | case4 d e rest hpair ih =>
      simp only [codesOf, hpair, List.mem_cons] at hc
      rcases hc with rfl | hc
      · exact hchar d
      · exact ih hc

/-- A literal token is a character of its pattern. -/
theorem mem_of_literal_mem_splitLike {escape : Option Nat} {cs : List Nat} {c : Nat}
    (h : .literal c ∈ splitLike escape cs) : c ∈ cs := by
  have hcode : ∀ d, .literal c = LikeToken.ofCode d → c = d := by
    intro d hd
    rw [LikeToken.ofCode] at hd
    split at hd
    · cases hd
    · split at hd
      · cases hd
      · exact LikeToken.literal.inj hd
  induction cs using splitLike.induct escape with
  | case1 => simp [splitLike] at h
  | case2 d =>
      rw [splitLike, List.mem_singleton] at h
      exact List.mem_singleton.2 (hcode d h)
  | case3 d e rest hescape ih =>
      rw [splitLike, if_pos hescape, List.mem_cons] at h
      rcases h with h | h
      · simp [LikeToken.literal.inj h]
      · exact List.mem_cons_of_mem _ (List.mem_cons_of_mem _ (ih h))
  | case4 d e rest hescape ih =>
      rw [splitLike, if_neg hescape, List.mem_cons] at h
      rcases h with h | h
      · exact List.mem_cons.2 (.inl (hcode d h))
      · exact List.mem_cons_of_mem _ (ih h)

/-- The literal tokens of a pattern are within the code space. -/
theorem lt_of_literal_mem_likeTokens {pattern escape : String} {c : Nat}
    (h : .literal c ∈ likeTokens pattern escape) : c < 0x110000 :=
  lt_of_mem_codesOf (mem_of_literal_mem_splitLike h)

/-- The code points of a wildcard pattern are those of its tokens. -/
theorem codePoints_wildcard {tokens : List LikeToken}
    (h : ∀ c, .literal c ∈ tokens → c < 0x110000) :
    codePoints (String.ofList (tokens.flatMap LikeToken.wildcard)) =
      tokens.flatMap LikeToken.wildcardCodes := by
  have hwritten : tokens.flatMap LikeToken.wildcard =
      writtenAll (tokens.flatMap LikeToken.wildcardCodes) := by
    rw [writtenAll, List.flatMap_assoc]
    refine List.flatMap_congr fun token htoken => ?_
    exact wildcard_eq_writtenAll fun c hc => h c (hc ▸ htoken)
  -- a quoted code point adds a backslash at most
  have hbound : ∀ c ∈ tokens.flatMap LikeToken.wildcardCodes, c < 0x110000 := by
    intro c hc
    obtain ⟨token, htoken, hc⟩ := List.mem_flatMap.1 hc
    cases token with
    | literal d =>
        rw [LikeToken.wildcardCodes, quoteIn] at hc
        split at hc
        · rcases List.mem_cons.1 hc with rfl | hc
          · decide
          · exact List.mem_singleton.1 hc ▸ h d htoken
        · exact List.mem_singleton.1 hc ▸ h d htoken
    | anyText | anyChar =>
        obtain rfl := List.mem_singleton.1 hc
        decide
  rw [codePoints, String.toList_ofList, hwritten, codesOf_writtenAll hbound]

/-! ## Regular expressions -/

/-- The special characters of a regular expression: brackets and braces, `?`, `*`, `+`, `-`, `|`,
`^`, `$`, the backslash, `.`, `&`, `~`, `#` and blanks. -/
def regexSpecials : List Nat :=
  [0x28, 0x29, 0x5b, 0x5d, 0x7b, 0x7d, 0x3f, 0x2a, 0x2b, 0x2d, 0x7c, 0x5e, 0x24, 0x5c, 0x2e, 0x26,
    0x7e, 0x23, 0x20, 0x09, 0x0a, 0x0d, 0x0b, 0x0c]

/-- A regular expression **matches** a text from end to end, a `.` standing for any character. Only
these rules are needed: a backslash quotes a special character, and `.*` stands for any text. -/
inductive RegexMatches : List Nat → List Nat → Prop where
  | nil : RegexMatches [] []
  | plain {c : Nat} {regex cs : List Nat} (hc : c ∉ regexSpecials) (h : RegexMatches regex cs) :
      RegexMatches (c :: regex) (c :: cs)
  | quoted {c : Nat} {regex cs : List Nat} (hc : c ∈ regexSpecials) (h : RegexMatches regex cs) :
      RegexMatches (0x5c :: c :: regex) (c :: cs)
  | anyChar {c : Nat} {regex cs : List Nat} (h : RegexMatches regex cs) :
      RegexMatches (0x2e :: regex) (c :: cs)
  | anyText {skipped regex cs : List Nat} (h : RegexMatches regex cs) :
      RegexMatches (0x2e :: 0x2a :: regex) (skipped ++ cs)

/-- The characters of a token in a regular expression. -/
def LikeToken.regexCodes : LikeToken → List Nat
  | .literal c => quoteIn regexSpecials c
  | .anyText => [0x2e, 0x2a]
  | .anyChar => [0x2e]

/-- A star matches nothing on its own. -/
theorem not_regexMatches_star {regex cs : List Nat} : ¬ RegexMatches (0x2a :: regex) cs := by
  intro h
  cases h with
  | plain hc => exact absurd (by decide) hc

/-- No token starts with a star. -/
theorem flatMap_regexCodes_ne_star (tokens : List LikeToken) (regex : List Nat) :
    tokens.flatMap LikeToken.regexCodes ≠ 0x2a :: regex := by
  cases tokens with
  | nil => simp
  | cons token tokens =>
      intro h
      rw [List.flatMap_cons] at h
      cases token with
      | literal c =>
          rw [LikeToken.regexCodes, quoteIn] at h
          by_cases hc : c ∈ regexSpecials
          · rw [if_pos hc] at h
            cases h
          · rw [if_neg hc] at h
            obtain ⟨rfl, -⟩ := List.cons.inj h
            exact absurd (by decide) hc
      | anyText | anyChar => cases h

/-- **A regular expression matches what its tokens match.** The induction is on the tokens; the
first character of what is left says which rule applies, except that a `.` before a star is no
character. -/
theorem regexMatches_iff (tokens : List LikeToken) (cs : List Nat) :
    RegexMatches (tokens.flatMap LikeToken.regexCodes) cs ↔ LikeMatches (· == ·) tokens cs := by
  constructor
  · intro h
    induction tokens generalizing cs with
    | nil =>
        rw [List.flatMap_nil] at h
        cases h
        exact .nil
    | cons token tokens ih =>
        -- no token begins with a star, so what stands for one character is not repeated
        have hstar := flatMap_regexCodes_ne_star tokens
        rw [List.flatMap_cons] at h
        generalize tokens.flatMap LikeToken.regexCodes = rest at h ih hstar
        cases token with
        | literal c =>
            rw [LikeToken.regexCodes, quoteIn] at h
            by_cases hc : c ∈ regexSpecials
            · rw [if_pos hc] at h
              cases h with
              | plain hplain => exact absurd (by decide) hplain
              | quoted _ h => exact .literal (beq_self_eq_true c) (ih _ h)
            · rw [if_neg hc] at h
              cases h with
              | plain _ h => exact .literal (beq_self_eq_true c) (ih _ h)
              | quoted | anyChar | anyText => exact absurd (by decide) hc
        | anyChar =>
            cases h with
            | plain hplain => exact absurd (by decide) hplain
            | anyChar h => exact .anyChar (ih _ h)
            | anyText => exact absurd rfl (hstar _)
        | anyText =>
            cases h with
            | plain hplain => exact absurd (by decide) hplain
            | anyChar h => exact absurd h not_regexMatches_star
            | anyText h => exact .anyText (ih _ h)
  · intro h
    induction h with
    | nil => exact .nil
    | @literal c d tokens cs hsame _ ih =>
        obtain rfl : c = d := by simpa using hsame
        rw [List.flatMap_cons, LikeToken.regexCodes, quoteIn]
        by_cases hc : c ∈ regexSpecials
        · rw [if_pos hc]
          exact .quoted hc ih
        · rw [if_neg hc]
          exact .plain hc ih
    | anyChar _ ih => exact .anyChar ih
    | anyText _ ih => exact .anyText ih

end SearchTables.Text
