import SearchTables.Text.LikePattern
import Mathlib.Data.List.Basic
import SearchTables.Proofs.Text.LikeReadings

/-! # Escaped texts in LIKE patterns

A text is escaped for a LIKE pattern by replacing the escape and the wildcards in it, one after the
other. Replacing works on characters, and an escape may be written with two of them; still it acts
on the code points of a text alone (`replaceChars_writtenAll`). With an escape that is no wildcard
the tokens of the escaped text are then the literals of its code points, and with a wildcard as the
escape they are not (`likeTokens_escapeLike_iff`).

With the default escape they are the literals of its characters (`splitLike_escaped`), so that such a part
with `%` around it asks for the texts that begin with it, end with it or have it somewhere inside. -/

namespace SearchTables.Text

/-! ## Replacing in written texts -/

section Replacing

variable {part replacement : List Char}

/-- Characters that an occurrence has used up are left out. -/
theorem replaceFrom_length_append (used rest : List Char) :
    replaceFrom part replacement used.length (used ++ rest) =
      replaceFrom part replacement 0 rest := by
  induction used with
  | nil => rfl
  | cons c used ih => rwa [List.length_cons, List.cons_append, replaceFrom]

/-- An occurrence at the beginning is replaced. -/
theorem replaceFrom_part_append (hpart : part ≠ []) (rest : List Char) :
    replaceFrom part replacement 0 (part ++ rest) =
      replacement ++ replaceFrom part replacement 0 rest := by
  obtain ⟨c, used, rfl⟩ := List.exists_cons_of_ne_nil hpart
  have hprefix : (c :: used).isPrefixOf (c :: (used ++ rest)) = true :=
    List.isPrefixOf_iff_prefix.2 (List.prefix_append (c :: used) rest)
  rw [List.cons_append, replaceFrom, if_pos hprefix]
  exact congrArg _ (replaceFrom_length_append used rest)

/-- Characters at none of which an occurrence begins are kept. -/
theorem replaceFrom_append_of_absent {kept rest : List Char}
    (h : ∀ later, later ≠ [] → later <:+ kept → ¬ part <+: later ++ rest) :
    replaceFrom part replacement 0 (kept ++ rest) =
      kept ++ replaceFrom part replacement 0 rest := by
  induction kept with
  | nil => rfl
  | cons c kept ih =>
      have hhere : ¬ part <+: c :: (kept ++ rest) := h _ (List.cons_ne_nil _ _) (List.suffix_refl _)
      rw [List.cons_append, replaceFrom, if_neg (mt List.isPrefixOf_iff_prefix.1 hhere),
        ih fun later hne hlater => h later hne (hlater.trans (List.suffix_cons c kept)),
        List.cons_append]

end Replacing

/-- A code point is written as one character, or with a trailing mark after another one. -/
theorem written_cases (n : Nat) :
    (∃ c, written n = [c]) ∨
      ∃ lead trail : Char, written n = [lead, trail] ∧ 0x10f040 ≤ trail.toNat ∧
        trail.toNat < 0x10f080 := by
  have hmarks : ∀ place, ∃ lead trail : Char, marksOf place = [lead, trail] ∧
      0x10f040 ≤ trail.toNat ∧ trail.toNat < 0x10f080 := fun place => by
    refine ⟨_, _, rfl, ?_⟩
    rw [toNat_ofNat (by omega) (by omega)]
    omega
  rw [written]
  split
  · exact .inr (hmarks _)
  · split
    · exact .inr (hmarks _)
    · exact .inl ⟨_, rfl⟩

/-- No written code point begins with a trailing mark. -/
theorem not_trail_of_written {p : Nat} (hp : p < 0x110000) {c : Char} {later : List Char}
    (h : written p = c :: later) : ¬ (0x10f040 ≤ c.toNat ∧ c.toNat < 0x10f080) := by
  -- of two marks the first is a leading one
  have hlead : ∀ place, place < 0x1000 → marksOf place = c :: later → c.toNat < 0x10f040 := by
    intro place hplace hmarks
    obtain ⟨rfl, -⟩ := List.cons.inj hmarks
    rw [toNat_ofNat (by omega) (by omega)]
    omega
  rw [written] at h
  by_cases hhalf : isHalf p = true
  · have hrange : 0xd800 ≤ p ∧ p < 0xe000 := of_decide_eq_true hhalf
    rw [if_pos hhalf] at h
    have := hlead _ (by omega) h
    omega
  rw [if_neg hhalf] at h
  by_cases hmark : isMark p = true
  · have hrange : 0x10f000 ≤ p ∧ p < 0x10f080 := of_decide_eq_true hmark
    rw [if_pos hmark] at h
    have := hlead _ (by omega) h
    omega
  · rw [if_neg hmark] at h
    obtain ⟨rfl, -⟩ := List.cons.inj h
    rw [toNat_ofNat hp (by simpa [isHalf] using hhalf)]
    simp only [isMark, decide_eq_true_eq] at hmark
    omega

/-- A code point is written with a character or more. -/
theorem written_ne_nil (n : Nat) : written n ≠ [] := by
  rcases written_cases n with ⟨c, h⟩ | ⟨lead, trail, h, -⟩ <;> rw [h] <;> exact List.cons_ne_nil _ _

/-- Another code point occurs nowhere in what a code point is written with. -/
theorem absent_of_ne {p c : Nat} (hp : p < 0x110000) (hc : c < 0x110000) (hne : c ≠ p)
    (rest : List Char) :
    ∀ later, later ≠ [] → later <:+ written c → ¬ written p <+: later ++ rest := by
  -- at the beginning the first code point tells
  have hwhole : ¬ written p <+: written c ++ rest := by
    rintro ⟨more, heq⟩
    have hcodes := congrArg codesOf heq
    rw [codesOf_written_append hp, codesOf_written_append hc] at hcodes
    exact hne (List.cons.inj hcodes).1.symm
  rintro later hlater hsuffix
  rcases written_cases c with ⟨d, hd⟩ | ⟨lead, trail, hd, htrail⟩
  · rw [hd] at hsuffix hwhole
    rcases List.suffix_cons_iff.1 hsuffix with rfl | hsuffix
    · exact hwhole
    · exact absurd (List.suffix_nil.1 hsuffix) hlater
  · rw [hd] at hsuffix hwhole
    rcases List.suffix_cons_iff.1 hsuffix with rfl | hsuffix
    · exact hwhole
    · rcases List.suffix_cons_iff.1 hsuffix with rfl | hsuffix
      · -- at a trailing mark none begins
        rintro ⟨more, heq⟩
        obtain ⟨first, others, hfirst⟩ := List.exists_cons_of_ne_nil (written_ne_nil p)
        rw [hfirst] at heq
        obtain rfl : first = trail := (List.cons.inj heq).1
        exact not_trail_of_written hp hfirst htrail
      · exact absurd (List.suffix_nil.1 hsuffix) hlater

/-- A text is written code point by code point. -/
theorem writtenAll_cons (c : Nat) (codes : List Nat) :
    writtenAll (c :: codes) = written c ++ writtenAll codes := List.flatMap_cons

/-- A text is written part by part. -/
theorem writtenAll_append (codes more : List Nat) :
    writtenAll (codes ++ more) = writtenAll codes ++ writtenAll more := List.flatMap_append

/-- A single code point is written alone. -/
theorem writtenAll_singleton (c : Nat) : writtenAll [c] = written c := List.flatMap_singleton ..

/-- The code points of a text within the code space are those that it was made of. -/
theorem codePoints_ofCodePoints {codes : List Nat} (h : ∀ c ∈ codes, c < 0x110000) :
    codePoints (ofCodePoints codes) = codes := by
  rw [codePoints, ofCodePoints, String.toList_ofList, codesOf_writtenAll h]

/-- **Replacing a code point acts on every code point alone.** -/
theorem replaceChars_writtenAll {p : Nat} (hp : p < 0x110000) (replacement : List Nat)
    {codes : List Nat} (hcodes : ∀ c ∈ codes, c < 0x110000) :
    replaceChars (written p) (writtenAll replacement) (writtenAll codes) =
      writtenAll (codes.flatMap fun c => if c = p then replacement else [c]) := by
  have hpart : ¬ (written p).isEmpty = true := mt List.isEmpty_iff.1 (written_ne_nil p)
  rw [replaceChars, if_neg hpart]
  induction codes with
  | nil => rfl
  | cons c codes ih =>
      rw [List.forall_mem_cons] at hcodes
      rw [List.flatMap_cons, writtenAll_cons, writtenAll_append, ← ih hcodes.2]
      by_cases hc : c = p
      · rw [if_pos hc, hc]
        exact replaceFrom_part_append (written_ne_nil p) _
      · rw [if_neg hc, writtenAll_singleton]
        exact replaceFrom_append_of_absent (absent_of_ne hp hcodes.1 hc _)

/-! ## Escaping -/

/-- A code point after an escape, if it is the one that needs it. -/
def escapeAt (escape p c : Nat) : List Nat := if c = p then [escape, p] else [c]

/-- A code point as it is written in a LIKE pattern: with an escape if it is special there. -/
def quoteWith (escape c : Nat) : List Nat :=
  if c = escape ∨ c = 0x25 ∨ c = 0x5f then [escape, c] else [c]

/-- Code points that get an escape before some of them stay within the code space. -/
theorem lt_of_mem_escapeAt {escape p : Nat} (hescape : escape < 0x110000) {codes : List Nat}
    (hcodes : ∀ c ∈ codes, c < 0x110000) :
    ∀ c ∈ codes.flatMap (escapeAt escape p), c < 0x110000 := by
  intro c hc
  obtain ⟨d, hd, hc⟩ := List.mem_flatMap.1 hc
  rw [escapeAt] at hc
  split at hc
  · rename_i hp
    simp only [List.mem_cons, List.not_mem_nil, or_false] at hc
    rcases hc with rfl | rfl
    · exact hescape
    · exact hp ▸ hcodes d hd
  · exact List.mem_singleton.1 hc ▸ hcodes d hd

/-- Putting an escape before every occurrence of a code point. -/
theorem replaceChars_escapeAt {p : Nat} (hp : p < 0x110000) (escape : Nat) {codes : List Nat}
    (hcodes : ∀ c ∈ codes, c < 0x110000) :
    replaceChars (written p) (written escape ++ written p) (writtenAll codes) =
      writtenAll (codes.flatMap (escapeAt escape p)) := by
  have hboth : written escape ++ written p = writtenAll [escape, p] := by
    rw [writtenAll_cons, writtenAll_singleton]
  rw [hboth]
  exact replaceChars_writtenAll hp [escape, p] hcodes

/-- **A text is escaped on its code points**: the escape first, then each wildcard. -/
theorem escapeLike_ofCodePoints {escape : Nat} (hescape : escape < 0x110000) {codes : List Nat}
    (hcodes : ∀ c ∈ codes, c < 0x110000) :
    escapeLike (ofCodePoints codes) (ofCodePoints [escape]) =
      ofCodePoints (((codes.flatMap (escapeAt escape escape)).flatMap (escapeAt escape 0x25)).flatMap
        (escapeAt escape 0x5f)) := by
  have hdoubled := lt_of_mem_escapeAt (p := escape) hescape hcodes
  have hpercents := lt_of_mem_escapeAt (p := 0x25) hescape hdoubled
  have hpercent : ['%'] = written 0x25 := by decide
  have hunderscore : ['_'] = written 0x5f := by decide
  rw [escapeLike, ofCodePoints, ofCodePoints, String.toList_ofList, String.toList_ofList,
    writtenAll_singleton, hpercent, hunderscore]
  rw [replaceChars_escapeAt hescape escape hcodes, replaceChars_escapeAt (by omega) escape hdoubled,
    replaceChars_escapeAt (by omega) escape hpercents, ofCodePoints]

/-- With an escape that is no wildcard the replacements do not get in each other's way. -/
theorem flatMap_escapeAt {escape : Nat} (hpercent : escape ≠ 0x25) (hunderscore : escape ≠ 0x5f)
    (codes : List Nat) :
    ((codes.flatMap (escapeAt escape escape)).flatMap (escapeAt escape 0x25)).flatMap
      (escapeAt escape 0x5f) = codes.flatMap (quoteWith escape) := by
  rw [List.flatMap_assoc, List.flatMap_assoc]
  refine List.flatMap_congr fun c _ => ?_
  by_cases hc : c = escape
  · subst hc
    simp [escapeAt, quoteWith, hpercent, hunderscore]
  by_cases hcpercent : c = 0x25
  · subst hcpercent
    simp [escapeAt, quoteWith, hc, hunderscore]
  by_cases hcunderscore : c = 0x5f
  · subst hcunderscore
    simp [escapeAt, quoteWith, hc]
  simp [escapeAt, quoteWith, hc, hcpercent, hcunderscore]

/-! ## Splitting -/

/-- A character that is not the escape is a token of its own. -/
theorem splitLike_cons {escape c : Nat} (hc : escape ≠ c) (rest : List Nat) :
    splitLike (some escape) (c :: rest) = .ofCode c :: splitLike (some escape) rest := by
  cases rest with
  | nil => rfl
  | cons d rest =>
      rw [splitLike, if_neg]
      simpa using hc

/-- **The tokens of a quoted text are its literals.** -/
theorem splitLike_quoted (escape : Nat) (codes tail : List Nat) :
    splitLike (some escape) (codes.flatMap (quoteWith escape) ++ tail) =
      codes.map .literal ++ splitLike (some escape) tail := by
  induction codes with
  | nil => rfl
  | cons c codes ih =>
      rw [List.flatMap_cons, List.append_assoc, List.map_cons, List.cons_append, ← ih, quoteWith]
      by_cases hspecial : c = escape ∨ c = 0x25 ∨ c = 0x5f
      · rw [if_pos hspecial, List.cons_append, List.cons_append, List.nil_append, splitLike,
          if_pos rfl]
      · rw [if_neg hspecial]
        rw [not_or, not_or] at hspecial
        have hcode : LikeToken.ofCode c = .literal c := by
          rw [LikeToken.ofCode, if_neg hspecial.2.1, if_neg hspecial.2.2]
        rw [List.cons_append, List.nil_append, splitLike_cons (Ne.symm hspecial.1), hcode]

/-- **Splitting undoes escaping exactly for escapes that are no wildcards.** -/
theorem likeTokens_escapeLike_iff {escape : Nat} (hescape : escape < 0x110000) :
    (∀ codes : List Nat, (∀ c ∈ codes, c < 0x110000) →
      likeTokens (escapeLike (ofCodePoints codes) (ofCodePoints [escape])) (ofCodePoints [escape]) =
        codes.map .literal) ↔ escape ≠ 0x25 ∧ escape ≠ 0x5f := by
  constructor
  · -- the escape itself, escaped, becomes two literals when it is a wildcard
    intro h
    have hself := h [escape] (List.forall_mem_singleton.2 hescape)
    constructor
    · rintro rfl
      exact absurd hself (by decide)
    · rintro rfl
      exact absurd hself (by decide)
  · rintro ⟨hpercent, hunderscore⟩ codes hcodes
    have hcode : escapeCode? (ofCodePoints [escape]) = some escape := by
      rw [escapeCode?, codePoints_ofCodePoints (List.forall_mem_singleton.2 hescape)]
    have hbound := lt_of_mem_escapeAt (p := 0x5f) hescape
      (lt_of_mem_escapeAt (p := 0x25) hescape (lt_of_mem_escapeAt (p := escape) hescape hcodes))
    rw [likeTokens, hcode, escapeLike_ofCodePoints hescape hcodes, codePoints_ofCodePoints hbound,
      flatMap_escapeAt hpercent hunderscore]
    simpa [splitLike] using splitLike_quoted escape codes []

/-! ## The code points of an escaped text -/

/-- The special characters of a LIKE pattern with the backslash as its escape. -/
def likeSpecials : List Nat := [0x25, 0x5c, 0x5f]

/-- One character of an escaped text. -/
def likeQuote (c : Char) : List Char :=
  if c = '\\' ∨ c = '%' ∨ c = '_' then ['\\', c] else [c]

/-- A text is escaped character by character. -/
theorem toList_escapeLike (value : String) :
    (escapeLike value defaultEscape).toList = value.toList.flatMap likeQuote := by
  have hescape : defaultEscape.toList = ['\\'] := rfl
  rw [escapeLike, hescape, String.toList_ofList, replaceChars_singleton, replaceChars_singleton,
    replaceChars_singleton, List.flatMap_assoc, List.flatMap_assoc]
  refine List.flatMap_congr fun c _ => ?_
  by_cases hbackslash : c = '\\'
  · subst hbackslash
    rfl
  by_cases hpercent : c = '%'
  · subst hpercent
    rfl
  by_cases hunderscore : c = '_'
  · subst hunderscore
    rfl
  simp [likeQuote, hbackslash, hpercent, hunderscore]

/-- Nothing that a text starts with makes a pair with a character before it. -/
def Unpaired (c : Char) (rest : List Char) : Prop :=
  ∀ d later, rest = d :: later → pairCode? c.toNat d.toNat = none

/-- A character without a pair is a code point of its own. -/
theorem codesOf_cons_of_unpaired {c : Char} {rest : List Char} (h : Unpaired c rest) :
    codesOf (c :: rest) = c.toNat :: codesOf rest := by
  cases rest with
  | nil => rfl
  | cons d later =>
      have hpair := h d later rfl
      simp only [codesOf, hpair]

/-- The code points of one escaped character. -/
theorem codesOf_likeQuote_append {c : Char} {rest : List Char} (hrest : Unpaired c rest) :
    codesOf (likeQuote c ++ rest) = quoteIn likeSpecials c.toNat ++ codesOf rest := by
  have hself := codesOf_cons_of_unpaired hrest
  have hbackslash : codesOf ('\\' :: c :: rest) = 0x5c :: codesOf (c :: rest) :=
    codesOf_cons_of_unpaired fun _ _ _ => pairCode?_eq_none (by decide)
  rw [likeQuote, quoteIn]
  by_cases hspecial : c = '\\' ∨ c = '%' ∨ c = '_'
  · have hmem : c.toNat ∈ likeSpecials := by
      rcases hspecial with rfl | rfl | rfl <;> decide
    rw [if_pos hspecial, if_pos hmem]
    exact hbackslash.trans (congrArg _ hself)
  · have hmem : c.toNat ∉ likeSpecials := by
      intro hmem
      refine hspecial ?_
      simp only [likeSpecials, List.mem_cons, List.not_mem_nil, or_false] at hmem
      rcases hmem with h | h | h
      · exact .inr (.inl (Char.toNat_inj.mp h))
      · exact .inl (Char.toNat_inj.mp h)
      · exact .inr (.inr (Char.toNat_inj.mp h))
    rw [if_neg hspecial, if_neg hmem]
    exact hself

/-- What an escaped text starts with makes no pair where the text itself makes none. -/
theorem Unpaired.likeQuote {c : Char} {rest tail : List Char} (hrest : Unpaired c rest)
    (htail : rest = [] → Unpaired c tail) : Unpaired c (rest.flatMap Text.likeQuote ++ tail) := by
  cases rest with
  | nil => exact htail rfl
  | cons d rest =>
      intro e later heq
      rw [List.flatMap_cons, Text.likeQuote] at heq
      by_cases hspecial : d = '\\' ∨ d = '%' ∨ d = '_'
      · -- a backslash ends no pair
        rw [if_pos hspecial] at heq
        obtain ⟨rfl, -⟩ := List.cons.inj heq
        rw [pairCode?, if_neg]
        simp
      · rw [if_neg hspecial] at heq
        obtain ⟨rfl, -⟩ := List.cons.inj heq
        exact hrest d rest rfl

/-- **The code points of an escaped text** are those of the text, each with its escape. The induction
is on how the code points of the text are read; marks that make a pair stay next to each other. -/
theorem codesOf_flatMap_likeQuote (cs : List Char) {tail : List Char}
    (htail : ∀ c, Unpaired c tail) :
    codesOf (cs.flatMap likeQuote ++ tail) =
      (codesOf cs).flatMap (quoteIn likeSpecials) ++ codesOf tail := by
  induction cs using codesOf.induct with
  | case1 => rfl
  | case2 c =>
      rw [List.flatMap_singleton, codesOf_likeQuote_append (htail c), codesOf,
        List.flatMap_singleton]
  | case3 c d rest n hpair ih =>
      -- the marks of a pair lie where no character is special, and so does what they stand for
      have hmarks : 0x10f000 ≤ c.toNat ∧ 0x10f000 ≤ d.toNat ∧ 0xd800 ≤ n := by
        have hsome := hpair
        rw [pairCode?] at hsome
        split at hsome
        · obtain rfl := Option.some.inj hsome
          rw [codeAt]
          split <;> omega
        · cases hsome
      have hplain : ∀ {e : Char}, 0x10f000 ≤ e.toNat → likeQuote e = [e] := by
        intro e he
        rw [likeQuote, if_neg]
        rintro (rfl | rfl | rfl) <;> exact absurd he (by decide)
      have hquote : quoteIn likeSpecials n = [n] := by
        rw [quoteIn, if_neg]
        intro hmem
        simp only [likeSpecials, List.mem_cons, List.not_mem_nil, or_false] at hmem
        omega
      rw [List.flatMap_cons, List.flatMap_cons, hplain hmarks.1, hplain hmarks.2.1]
      simp only [List.cons_append, List.nil_append, codesOf, hpair, List.flatMap_cons, hquote, ih]
  | case4 c d rest hpair ih =>
      have hunpaired : Unpaired c (d :: rest) := by
        rintro e later heq
        obtain ⟨rfl, -⟩ := List.cons.inj heq
        exact hpair
      rw [List.flatMap_cons, List.append_assoc,
        codesOf_likeQuote_append (hunpaired.likeQuote fun h => by cases h), ih,
        codesOf_cons_of_unpaired hunpaired, List.flatMap_cons, List.append_assoc]

/-! ## The tokens of an escaped text -/

/-- Quoting with the backslash as the escape. -/
theorem quoteWith_backslash (c : Nat) : quoteWith 0x5c c = quoteIn likeSpecials c := by
  have hspecials : (c = 0x5c ∨ c = 0x25 ∨ c = 0x5f) ↔ c ∈ likeSpecials := by
    simp [likeSpecials, or_left_comm]
  rw [quoteWith, quoteIn]
  exact if_congr hspecials rfl rfl

/-- **The tokens of an escaped text are its literals.** -/
theorem splitLike_escaped (codes tail : List Nat) :
    splitLike (some 0x5c) (codes.flatMap (quoteIn likeSpecials) ++ tail) =
      codes.map .literal ++ splitLike (some 0x5c) tail := by
  rw [← splitLike_quoted, List.flatMap_congr fun c _ => quoteWith_backslash c]

/-- The tokens of an escaped text after and before other parts of a pattern. -/
theorem likeTokens_escapeLike (before value after : String)
    (hbefore : before = "" ∨ before = "%") (hafter : after = "" ∨ after = "%") :
    likeTokens (before ++ escapeLike value defaultEscape ++ after) defaultEscape =
      likeTokens before defaultEscape ++ (codePoints value).map .literal ++
        likeTokens after defaultEscape := by
  have hescape : escapeCode? defaultEscape = some 0x5c := rfl
  -- what stands after the value does not pair with its last character
  have htail : ∀ c, Unpaired c after.toList := by
    intro c d later heq
    rcases hafter with rfl | rfl
    · cases heq
    · have hpercent : "%".toList = ['%'] := rfl
      obtain ⟨rfl, -⟩ := List.cons.inj (hpercent.symm.trans heq)
      rw [pairCode?, if_neg]
      simp
  have hcodes : codesOf (value.toList.flatMap likeQuote ++ after.toList) =
      (codePoints value).flatMap (quoteIn likeSpecials) ++ codePoints after :=
    codesOf_flatMap_likeQuote value.toList htail
  have htokens := splitLike_escaped (codePoints value) (codePoints after)
  rw [likeTokens, likeTokens, likeTokens, hescape, List.append_assoc, ← htokens, ← hcodes,
    codePoints, String.toList_append, String.toList_append, toList_escapeLike, List.append_assoc]
  rcases hbefore with rfl | rfl
  · rfl
  · have hpercent : codesOf ('%' :: (value.toList.flatMap likeQuote ++ after.toList)) =
        0x25 :: codesOf (value.toList.flatMap likeQuote ++ after.toList) :=
      codesOf_cons_of_unpaired fun _ _ _ => pairCode?_eq_none (by decide)
    refine (congrArg _ hpercent).trans ?_
    exact splitLike_cons (by decide) _

/-! ## What they ask for -/

/-- Any text before tokens matches what has an end that matches them. -/
theorem likeMatches_anyText_cons {tokens : List LikeToken} {cs : List Nat} :
    LikeMatches (· == ·) (.anyText :: tokens) cs ↔
      ∃ skipped rest, cs = skipped ++ rest ∧ LikeMatches (· == ·) tokens rest := by
  constructor
  · intro h
    cases h with
    | anyText h => exact ⟨_, _, rfl, h⟩
  · rintro ⟨skipped, rest, rfl, h⟩
    exact .anyText h

/-- Any text before literals matches what ends with the characters. -/
theorem likeMatches_anyText_literals {codes cs : List Nat} :
    LikeMatches (· == ·) (.anyText :: codes.map .literal) cs ↔ codes <:+ cs := by
  rw [likeMatches_anyText_cons]
  constructor
  · rintro ⟨skipped, rest, rfl, h⟩
    rw [likeMatches_literals.mp h]
    exact List.suffix_append skipped codes
  · rintro ⟨skipped, rfl⟩
    exact ⟨skipped, codes, rfl, likeMatches_literals.mpr rfl⟩

/-- Any text around literals matches what has the characters inside. -/
theorem likeMatches_anyText_literals_anyText {codes cs : List Nat} :
    LikeMatches (· == ·) (.anyText :: (codes.map .literal ++ [.anyText])) cs ↔ codes <:+: cs := by
  rw [likeMatches_anyText_cons]
  constructor
  · rintro ⟨skipped, rest, rfl, h⟩
    obtain ⟨later, rfl⟩ := likeMatches_literals_anyText.mp h
    exact ⟨skipped, later, List.append_assoc skipped codes later⟩
  · rintro ⟨skipped, later, rfl⟩
    refine ⟨skipped, codes ++ later, List.append_assoc skipped codes later, ?_⟩
    exact likeMatches_literals_anyText.mpr (List.prefix_append codes later)

/-- The tokens of an escaped text before `%`. -/
theorem likeTokens_beginning (value : String) :
    likeTokens (escapeLike value defaultEscape ++ "%") defaultEscape =
      (codePoints value).map .literal ++ [.anyText] := by
  have htokens := likeTokens_escapeLike "" value "%" (.inl rfl) (.inr rfl)
  rwa [String.empty_append] at htokens

/-- **An escaped text before `%`** asks for the texts that begin with it. -/
theorem likeMatches_beginning (value s : String) :
    LikeMatches (· == ·) (likeTokens (escapeLike value defaultEscape ++ "%") defaultEscape)
      (codePoints s) ↔ codePoints value <+: codePoints s := by
  rw [likeTokens_beginning]
  exact likeMatches_literals_anyText

/-- **An escaped text after `%`** asks for the texts that end with it. -/
theorem likeMatches_ending (value s : String) :
    LikeMatches (· == ·) (likeTokens ("%" ++ escapeLike value defaultEscape) defaultEscape)
      (codePoints s) ↔ codePoints value <:+ codePoints s := by
  have htokens := likeTokens_escapeLike "%" value "" (.inr rfl) (.inl rfl)
  have hempty : likeTokens "" defaultEscape = [] := rfl
  rw [String.append_empty, hempty, List.append_nil] at htokens
  rw [htokens]
  exact likeMatches_anyText_literals

/-- **An escaped text between two `%`** asks for the texts that have it inside. -/
theorem likeMatches_inside (value s : String) :
    LikeMatches (· == ·) (likeTokens ("%" ++ escapeLike value defaultEscape ++ "%") defaultEscape)
      (codePoints s) ↔ codePoints value <:+: codePoints s := by
  rw [likeTokens_escapeLike "%" value "%" (.inr rfl) (.inr rfl)]
  exact likeMatches_anyText_literals_anyText

end SearchTables.Text
