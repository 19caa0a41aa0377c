import SearchTables.Mapping.Merge
import SearchTables.Proofs.Filter.Translation
import SearchTables.Proofs.Outcome
import SearchTables.Proofs.Text.LikeEscapes
import SearchTables.Proofs.Text.LikeReadings

/-! # Patterns — what the clause of a pattern accepts

A pattern on a field with a target becomes a term, a beginning or a wildcard pattern on the target.
Whichever it is, it accepts the texts that the tokens of the pattern match: those that are like the
pattern for rows at hand (`pattern_pushed_iff_local`).

The conditions that a field begins with a text, ends with it or has it inside are patterns with the
escaped text in them. Splitting undoes escaping, so each selects just the texts that it names, and a
beginning is pushed as a beginning with the text itself for its value (`escapedPatterns_exact`). -/

namespace SearchTables

open Text (LikeToken LikeMatches RegexMatches WildcardMatches codePoints likeTokens)

/-- The texts that a clause on a target accepts, letter by letter: a term equals the text, a
beginning is a beginning of it, and a wildcard pattern matches it from end to end. -/
inductive Clause.Accepts (target value : String) : Clause → Prop where
  | term {text : String} (h : codePoints value = codePoints text) :
      Accepts target value (.term target (.str text) false)
  | beginsWith {text : String} (h : codePoints text <+: codePoints value) :
      Accepts target value (.beginsWith target text false)
  | wildcard {pattern : String} (h : WildcardMatches (codePoints pattern) (codePoints value)) :
      Accepts target value (.wildcard target pattern false)

/-! ## The clause of a token list -/

/-- The code points of the literal tokens of a list. -/
def literalCodes (tokens : List LikeToken) : List Nat := tokens.filterMap LikeToken.literal?

/-- The text of literal tokens has their code points. -/
theorem codePoints_literals {tokens : List LikeToken}
    (h : ∀ c, .literal c ∈ tokens → c < 0x110000) :
    codePoints (String.ofList (literals tokens)) = literalCodes tokens := by
  have hbound : ∀ c ∈ literalCodes tokens, c < 0x110000 := by
    intro c hc
    obtain ⟨token, htoken, hliteral⟩ := List.mem_filterMap.1 hc
    cases token with
    | literal d =>
        obtain rfl : d = c := Option.some.inj hliteral
        exact h d htoken
    | anyText | anyChar => cases hliteral
  rw [codePoints, String.toList_ofList, literals]
  exact Text.codesOf_writtenAll hbound

/-- **The clause of a token list accepts what the tokens match.** The cases are the three forms of
the clause. -/
theorem accepts_likeClause_iff {target value : String} {tokens : List LikeToken}
    (h : ∀ c, .literal c ∈ tokens → c < 0x110000) :
    (likeClause target tokens false).Accepts target value ↔
      LikeMatches (· == ·) tokens (codePoints value) := by
  rw [likeClause]
  -- without wildcards the clause asks for equality
  by_cases hliterals : tokens.all (fun token => token.literal?.isSome) = true
  · rw [if_pos hliterals, ← Text.map_literal_eq hliterals, Text.likeMatches_literals,
      Text.map_literal_eq hliterals]
    have hcodes : codePoints (String.ofList (literals tokens)) = literalCodes tokens :=
      codePoints_literals h
    constructor
    · intro haccepts
      cases haccepts with
      | term heq => exact heq.trans hcodes
    · intro heq
      exact .term (heq.trans hcodes.symm)
  rw [if_neg hliterals]
  -- with nothing but a `%` at the end it asks for a beginning
  by_cases hlast : tokens.getLast? = some .anyText ∧
      tokens.dropLast.all (fun token => token.literal?.isSome) = true
  · rw [if_pos hlast]
    have hsplit : tokens = (literalCodes tokens.dropLast).map .literal ++ [.anyText] := by
      rw [literalCodes, Text.map_literal_eq hlast.2]
      exact (List.dropLast_append_getLast? _ hlast.1).symm
    have hcodes : codePoints (String.ofList (literals tokens.dropLast)) =
        literalCodes tokens.dropLast :=
      codePoints_literals fun c hc => h c (List.dropLast_subset tokens hc)
    have hmatches : LikeMatches (· == ·) tokens (codePoints value) ↔
        literalCodes tokens.dropLast <+: codePoints value := by
      rw [hsplit, Text.likeMatches_literals_anyText, ← hsplit]
    rw [hmatches, ← hcodes]
    constructor
    · intro haccepts
      cases haccepts with
      | beginsWith hbegins => exact hbegins
    · exact .beginsWith
  rw [if_neg hlast, ← Text.wildcardMatches_iff, ← Text.codePoints_wildcard h]
  constructor
  · intro haccepts
    cases haccepts with
    | wildcard hwildcard => exact hwildcard
  · exact .wildcard

/-! ## Pushed and local patterns -/

/-- The regular expression of a pattern. -/
def likeRegex (pattern escape : String) : List Nat :=
  (likeTokens pattern escape).flatMap LikeToken.regexCodes

/-- What is like a pattern, case and all, matches its regular expression. -/
theorem regexMatches_likeRegex_iff (pattern escape value : String) :
    RegexMatches (likeRegex pattern escape) (codePoints value) ↔
      Text.like pattern escape false value = true := by
  rw [likeRegex, Text.regexMatches_iff, Text.like_iff]
  rfl

variable {t t' : Translator} {context field pattern escape : String} {clause : Clause}

/-- The clause of a pattern is that of its tokens, on the target of the field. -/
theorem eq_likeClause_of_translate
    (h : t.translate context (.like field pattern false escape) = (.ok (some clause), t')) :
    ∃ target, t.schema.exactField (Path.under context field) = .ok target ∧
      clause = likeClause target (likeTokens pattern escape) false := by
  obtain ⟨hleaf, -⟩ := Translator.translate_leaf rfl h
  obtain ⟨-, -, hclause⟩ := Schema.leafClause_eq_some.1 hleaf
  rw [Schema.patternClause, bind_eq_ok] at hclause
  obtain ⟨target, htarget, hclause⟩ := hclause
  refine ⟨target, htarget, ?_⟩
  split at hclause
  · simp at hclause
  · exact (Option.some.inj (pure_eq_ok.1 hclause)).symm

/-- A pattern on a field with a target has a clause. -/
theorem exists_translate_like {target : String} (hlevel : t.enter.tooDeep = false)
    (hname : Path.under context field ≠ "") (hid : Path.under context field ≠ idColumn)
    (hresidual : Path.under context field ∉ residualColumns)
    (htarget : t.schema.exactField (Path.under context field) = .ok target) :
    ∃ clause t', t.translate context (.like field pattern false escape) =
      (.ok (some clause), t') := by
  have hleaf : t.schema.translateLeaf context (.like field pattern false escape) =
      .ok (some (likeClause target (likeTokens pattern escape) false)) := by
    rw [Schema.translateLeaf, Schema.leafClause, if_neg (by simp [hname, hresidual]),
      Schema.patternClause, htarget]
    exact if_neg hid
  refine ⟨likeClause target (likeTokens pattern escape) false, t.enter.leave, ?_⟩
  rw [Translator.translate_of_isLeaf rfl, hlevel, hleaf]
  rfl

/-- **A pushed pattern selects what the pattern selects on rows at hand.** A pattern that minds case
has a clause on every field with a target. The clause accepts a text exactly when the regular
expression of the pattern matches it, and both do exactly when the tokens of the pattern match. -/
theorem pattern_pushed_iff_local (t : Translator) (context field pattern escape : String) :
    (∀ target, t.enter.tooDeep = false → Path.under context field ≠ "" →
      Path.under context field ≠ idColumn →
      Path.under context field ∉ residualColumns →
      t.schema.exactField (Path.under context field) = .ok target →
        ∃ clause t', t.translate context (.like field pattern false escape) =
          (.ok (some clause), t')) ∧
    ∀ clause t', t.translate context (.like field pattern false escape) = (.ok (some clause), t') →
      ∃ target, t.schema.exactField (Path.under context field) = .ok target ∧
        ∀ value,
          (clause.Accepts target value ↔
            RegexMatches (likeRegex pattern escape) (codePoints value)) ∧
          (RegexMatches (likeRegex pattern escape) (codePoints value) ↔
            Text.like pattern escape false value = true) ∧
          (clause.Accepts target value ↔
            LikeMatches (· == ·) (likeTokens pattern escape) (codePoints value)) := by
  refine ⟨fun target hlevel hname hid hresidual htarget =>
    exists_translate_like hlevel hname hid hresidual htarget, fun clause t' h => ?_⟩
  obtain ⟨target, htarget, rfl⟩ := eq_likeClause_of_translate h
  refine ⟨target, htarget, fun value => ?_⟩
  have hbound : ∀ c, .literal c ∈ likeTokens pattern escape → c < 0x110000 :=
    fun c hc => Text.lt_of_literal_mem_likeTokens hc
  have haccepts : (likeClause target (likeTokens pattern escape) false).Accepts target value ↔
      LikeMatches (· == ·) (likeTokens pattern escape) (codePoints value) :=
    accepts_likeClause_iff hbound
  refine ⟨?_, regexMatches_likeRegex_iff pattern escape value, haccepts⟩
  rw [haccepts, likeRegex, Text.regexMatches_iff]

/-- The pattern `a\%b%`, with a backslash as escape, is the beginning `a%b` on the companion of an
analyzed field. -/
theorem pattern_pushed_iff_local_companion :
    let schema : Schema :=
      { columns := [], fullTextPaths := ["title"], companions := [("title", "title.raw")] }
    let clause := Clause.beginsWith "title.raw" "a%b" false
    (∃ t', Translator.translate { schema } "" (.like "title" "a\\%b%" false "\\") =
      (.ok (some clause), t')) ∧
    clause.Accepts "title.raw" "a%bc" ∧ Text.like "a\\%b%" "\\" false "a%bc" = true := by
  intro schema clause
  have hlike : Text.like "a\\%b%" "\\" false "a%bc" = true := by decide
  have htranslate : Translator.translate { schema } "" (.like "title" "a\\%b%" false "\\") =
      (.ok (some clause), { schema }) := rfl
  obtain ⟨target, htarget, hvalues⟩ :=
    (pattern_pushed_iff_local { schema } "" "title" "a\\%b%" "\\").2 clause _ htranslate
  obtain rfl : "title.raw" = target := Except.ok.inj htarget
  obtain ⟨hregex, hlocal, -⟩ := hvalues "a%bc"
  exact ⟨⟨_, htranslate⟩, hregex.2 (hlocal.2 hlike), hlike⟩

/-! ## Texts at the beginning, at the end and inside -/

open Text (escapeLike ofCodePoints)

/-- Whether a pattern that minds case selects a text: its regular expression matches the text. -/
def Predicate.SelectsText (v : String) : Predicate → Prop
  | .like _ pattern false escape => RegexMatches (likeRegex pattern escape) (codePoints v)
  | _ => False

/-- The condition on the beginning selects the texts that begin with the given one. -/
theorem Predicate.selectsText_startsWith (field s v : String) :
    (Predicate.startsWith field s).SelectsText v ↔ codePoints s <+: codePoints v :=
  (Text.regexMatches_iff _ _).trans (Text.likeMatches_beginning s v)

/-- The condition on the end selects the texts that end with the given one. -/
theorem Predicate.selectsText_endsWith (field s v : String) :
    (Predicate.endsWith field s).SelectsText v ↔ codePoints s <:+ codePoints v :=
  (Text.regexMatches_iff _ _).trans (Text.likeMatches_ending s v)

/-- The condition on the inside selects the texts that have the given one inside. -/
theorem Predicate.selectsText_contains (field s v : String) :
    (Predicate.contains field s).SelectsText v ↔ codePoints s <:+: codePoints v :=
  (Text.regexMatches_iff _ _).trans (Text.likeMatches_inside s v)

/-! ## Pushed beginnings -/

/-- Literal tokens are written as their characters. -/
theorem literals_map_literal (codes : List Nat) :
    literals (codes.map .literal) = Text.writtenAll codes := by
  rw [literals, List.filterMap_map]
  exact congrArg _ List.filterMap_some

/-- Literals before a `%` make a beginning. -/
theorem likeClause_literals_anyText (target : String) (codes : List Nat) :
    likeClause target (codes.map .literal ++ [.anyText]) false =
      .beginsWith target (ofCodePoints codes) false := by
  rw [likeClause, if_neg (by simp [Text.LikeToken.literal?]), if_pos, List.dropLast_concat,
    literals_map_literal, ofCodePoints]
  rw [List.dropLast_concat]
  exact ⟨List.getLast?_concat, by simp [Text.LikeToken.literal?]⟩

/-- **A beginning is pushed with the text itself.** -/
theorem translate_startsWith {t : Translator} {context field : String} {codes : List Nat}
    (hcodes : ∀ c ∈ codes, c < 0x110000) (hlevel : t.enter.tooDeep = false)
    (hname : Path.under context field ≠ "") (hvirtual : Path.under context field ∉ virtualColumns)
    (hplain : t.schema.isFullText (Path.under context field) = false) :
    t.translate context (.startsWith field (ofCodePoints codes)) =
      (.ok (some (.beginsWith (Path.under context field) (ofCodePoints codes) false)), t) := by
  have hid : Path.under context field ≠ idColumn :=
    fun h => hvirtual (h ▸ List.mem_cons_self ..)
  have hresidual : Path.under context field ∉ residualColumns :=
    fun h => hvirtual (List.mem_cons_of_mem _ h)
  have htarget : t.schema.exactField (Path.under context field) = .ok (Path.under context field) :=
    if_neg (by rw [hplain]; exact Bool.false_ne_true)
  obtain ⟨clause, t', h⟩ : ∃ clause t', t.translate context
      (.like field (escapeLike (ofCodePoints codes) Text.defaultEscape ++ "%") false
        Text.defaultEscape) = (.ok (some clause), t') :=
    exists_translate_like hlevel hname hid hresidual htarget
  obtain ⟨-, ht'⟩ := Translator.translate_leaf rfl h
  obtain ⟨target, htarget', hclause⟩ := eq_likeClause_of_translate h
  obtain rfl := Except.ok.inj (htarget.symm.trans htarget')
  rw [Text.likeTokens_beginning, Text.codePoints_ofCodePoints hcodes,
    likeClause_literals_anyText] at hclause
  rw [Predicate.startsWith, h, hclause, ht', Option.isSome_some, Translator.after_true]

/-- **Splitting undoes escaping for every escape that is no wildcard, and for no other.** So the
conditions on the beginning, the end and the inside select just the texts that begin with the given
text, end with it or have it inside, and a beginning is pushed, with the text itself for its value,
on every field that is neither analyzed nor one of the columns that every table has. -/
theorem escapedPatterns_exact :
    (∀ escape < 0x110000,
      (∀ codes : List Nat, (∀ c ∈ codes, c < 0x110000) →
        likeTokens (escapeLike (ofCodePoints codes) (ofCodePoints [escape]))
          (ofCodePoints [escape]) = codes.map .literal) ↔ escape ≠ 0x25 ∧ escape ≠ 0x5f) ∧
    (∀ field s v : String,
      ((Predicate.startsWith field s).SelectsText v ↔ codePoints s <+: codePoints v) ∧
      ((Predicate.endsWith field s).SelectsText v ↔ codePoints s <:+ codePoints v) ∧
      ((Predicate.contains field s).SelectsText v ↔ codePoints s <:+: codePoints v)) ∧
    ∀ (t : Translator) (context field : String) (codes : List Nat),
      (∀ c ∈ codes, c < 0x110000) → t.enter.tooDeep = false → Path.under context field ≠ "" →
      Path.under context field ∉ virtualColumns →
      t.schema.isFullText (Path.under context field) = false →
        t.translate context (.startsWith field (ofCodePoints codes)) =
          (.ok (some (.beginsWith (Path.under context field) (ofCodePoints codes) false)), t) :=
  ⟨fun _ hescape => Text.likeTokens_escapeLike_iff hescape,
    fun field s v => ⟨Predicate.selectsText_startsWith field s v,
      Predicate.selectsText_endsWith field s v, Predicate.selectsText_contains field s v⟩,
    fun _ _ _ _ hcodes hlevel hname hvirtual hplain =>
      translate_startsWith hcodes hlevel hname hvirtual hplain⟩

/-- Half of a hundred percent with an escape of two marks, and the beginning `50%` on a keyword. -/
theorem escapedPatterns_exact_percent :
    let half : String := ofCodePoints [0xd800]
    let schema : Schema := { columns := [], pathTypes := [("name", "keyword")] }
    likeTokens (escapeLike (ofCodePoints [0x35, 0x30, 0x25, 0xd800]) half) half =
      [.literal 0x35, .literal 0x30, .literal 0x25, .literal 0xd800] ∧
    (Predicate.startsWith "name" "50%").SelectsText "50% off" ∧
    Translator.translate { schema } "" (.startsWith "name" (ofCodePoints [0x35, 0x30, 0x25])) =
      (.ok (some (.beginsWith "name" (ofCodePoints [0x35, 0x30, 0x25]) false)), { schema }) := by
  intro half schema
  obtain ⟨hundone, hselects, hpushed⟩ := escapedPatterns_exact
  exact ⟨(hundone 0xd800 (by decide)).2 (by decide) _ (by decide),
    (hselects "name" "50%" "50% off").1.2 (by decide),
    hpushed { schema } "" "name" [0x35, 0x30, 0x25] (by decide) rfl (by decide) (by decide) rfl⟩

/-- A keyword field that goes by the name of the unmapped column is not asked for beginnings. -/
theorem startsWith_unmapped_left :
    ∃ m, mergeMappings [⟨"docs", [.declare "_unmapped_" "_unmapped_" "keyword" [] []]⟩] = .ok m ∧
      (m.schema [] false).indexType? "_unmapped_" = some "keyword" ∧
      (m.schema [] false).isFullText "_unmapped_" = false ∧ ∃ t',
        Translator.translate { schema := m.schema [] false } "" (.startsWith "_unmapped_" "a") =
          (.ok none, t') ∧ t'.fullyPushed = false :=
  ⟨_, rfl, rfl, rfl, _, rfl, rfl⟩

end SearchTables
