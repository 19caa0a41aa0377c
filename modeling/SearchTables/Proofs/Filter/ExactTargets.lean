import SearchTables.Proofs.Filter.Translation
import SearchTables.Proofs.Mapping.Declarations

/-! # Exact targets — exact matching stays away from analyzed text

Terms, ranges, beginnings and wildcard patterns match a field exactly. Wherever such a clause stands
in a translated query, its target is a path that no index analyzes, or the companion of a path that
every index analyzes and indexes unanalyzed at that companion. -/

namespace SearchTables

namespace Clause

mutual

/-- A clause and every clause inside it. -/
def subclauses : Clause → List Clause
  | .mustNot c => .mustNot c :: subclauses c
  | .must cs => .must cs :: subclausesOfAll cs
  | .should cs => .should cs :: subclausesOfAll cs
  | c => [c]

/-- `subclauses` on several clauses. -/
def subclausesOfAll : List Clause → List Clause
  | [] => []
  | c :: rest => subclauses c ++ subclausesOfAll rest

end

/-- `subclausesOfAll` collects the subclauses of each clause. -/
theorem subclausesOfAll_eq_flatMap (cs : List Clause) :
    subclausesOfAll cs = cs.flatMap subclauses := by
  induction cs with
  | nil => rfl
  | cons c rest ih => rw [subclausesOfAll, ih, List.flatMap_cons]

/-- The path on which a clause matches exactly, if it does. -/
def exactTarget? : Clause → Option String
  | .term field _ _ | .terms field _ | .range field _ _ | .beginsWith field _ _
  | .wildcard field _ _ => some field
  | _ => none

/-- Whether a clause is in the words of the index itself. -/
def isNative : Clause → Bool
  | .native _ => true
  | _ => false

end Clause

/-! ## Clauses of a translation -/

namespace Schema

variable {s : Schema} {c d : Clause}

/-- What stands in a translated query: the clause of a leaf, or a junction. -/
def Translates (s : Schema) (c : Clause) : Prop :=
  s.LeafClause c ∨ (∃ cs, c = .must cs) ∨ ∃ cs, c = .should cs

/-- Inside the clause of a leaf stand clauses of leaves. -/
theorem LeafClause.of_mem_subclauses (h : s.LeafClause c) (hd : d ∈ c.subclauses) :
    s.LeafClause d := by
  cases h with
  | notTerm value hx =>
      rcases List.mem_cons.1 hd with rfl | hd
      · exact .notTerm value hx
      · exact List.mem_singleton.1 hd ▸ .term value false hx
  | absent field =>
      rcases List.mem_cons.1 hd with rfl | hd
      · exact .absent field
      · exact List.mem_singleton.1 hd ▸ .present field
  | term value ignoreCase hx => exact List.mem_singleton.1 hd ▸ .term value ignoreCase hx
  | range bound value hx => exact List.mem_singleton.1 hd ▸ .range bound value hx
  | terms values hx => exact List.mem_singleton.1 hd ▸ .terms values hx
  | beginsWith value ignoreCase hx =>
      exact List.mem_singleton.1 hd ▸ .beginsWith value ignoreCase hx
  | wildcard pattern ignoreCase hx =>
      exact List.mem_singleton.1 hd ▸ .wildcard pattern ignoreCase hx
  | present field => exact List.mem_singleton.1 hd ▸ .present field
  | geoShape field shape relation => exact List.mem_singleton.1 hd ▸ .geoShape field shape relation
  | geoBox field minX minY maxX maxY =>
      exact List.mem_singleton.1 hd ▸ .geoBox field minX minY maxX maxY

/-- In joined clauses stands nothing but a junction and what stands in them. -/
theorem translates_joinClauses {junction : Junction} {cs : List Clause}
    (h : joinClauses junction cs = some c) (hcs : ∀ e ∈ cs, ∀ d ∈ e.subclauses, s.Translates d) :
    ∀ d ∈ c.subclauses, s.Translates d := by
  have hinside : ∀ d ∈ Clause.subclausesOfAll cs, s.Translates d := by
    intro d hd
    rw [Clause.subclausesOfAll_eq_flatMap] at hd
    obtain ⟨e, he, hd⟩ := List.mem_flatMap.1 hd
    exact hcs e he d hd
  rcases joinClauses_eq_some h with rfl | ⟨-, -, rfl⟩ | ⟨-, -, rfl⟩
  · exact hcs c (List.mem_singleton_self c)
  · rw [Clause.subclauses, List.forall_mem_cons]
    exact ⟨.inr (.inl ⟨cs, rfl⟩), hinside⟩
  · rw [Clause.subclauses, List.forall_mem_cons]
    exact ⟨.inr (.inr ⟨cs, rfl⟩), hinside⟩

/-- The rules of translation put nothing into a query but junctions and clauses of leaves. -/
theorem translates_rules (s : Schema) : Translator.Rules s fun _ _ found _ =>
    ∀ c ∈ found, ∀ d ∈ c.subclauses, s.Translates d where
  leaf _ h c hc d hd := by
    obtain rfl := Option.mem_def.1 hc
    exact .inl ((leafClause_of_translateLeaf h).of_mem_subclauses hd)
  member h := h
  joined {context junction parts answers} h c hc := by
    have hparts : ∀ answer ∈ answers, ∀ c ∈ answer.1, ∀ d ∈ c.subclauses, s.Translates d := by
      clear hc
      induction h with
      | nil => simp
      | cons hp _ ih => exact List.forall_mem_cons.2 ⟨hp, ih⟩
    rw [joinParts] at hc
    split at hc
    · simp at hc
    · refine translates_joinClauses hc fun e he => ?_
      obtain ⟨found, hfound, he⟩ := List.mem_filterMap.1 he
      obtain ⟨answer, hanswer, rfl⟩ := List.mem_map.1 hfound
      exact hparts answer hanswer e he

/-- An exact match in a translated query is on the target of some field. -/
theorem Translates.exactField (h : s.Translates c) {target : String}
    (ht : c.exactTarget? = some target) :
    ∃ field, s.exactField field = .ok target := by
  obtain h | ⟨cs, rfl⟩ | ⟨cs, rfl⟩ := h
  · cases h with
    | term value ignoreCase hx => exact ⟨_, Option.some.inj ht ▸ hx⟩
    | range bound value hx => exact ⟨_, Option.some.inj ht ▸ hx⟩
    | terms values hx => exact ⟨_, Option.some.inj ht ▸ hx⟩
    | beginsWith value ignoreCase hx => exact ⟨_, Option.some.inj ht ▸ hx⟩
    | wildcard pattern ignoreCase hx => exact ⟨_, Option.some.inj ht ▸ hx⟩
    | notTerm | present | absent | geoShape | geoBox => simp [Clause.exactTarget?] at ht
  · simp [Clause.exactTarget?] at ht
  · simp [Clause.exactTarget?] at ht

/-- Nothing in a translated query is in the words of the index itself. -/
theorem Translates.not_native (h : s.Translates c) : c.isNative = false := by
  obtain h | ⟨cs, rfl⟩ | ⟨cs, rfl⟩ := h
  · cases h <;> rfl
  · rfl
  · rfl

/-- The target of a field is the field itself, or the companion of a full-text field. -/
theorem exactField_eq_ok {field target : String} :
    s.exactField field = .ok target ↔
      (s.isFullText field = false ∧ target = field) ∨
        (s.isFullText field = true ∧ s.companion? field = some target) := by
  rw [exactField]
  cases s.isFullText field with
  | false => simp [eq_comm]
  | true => cases s.companion? field <;> simp

end Schema

/-! ## Targets and declarations -/

namespace Field

/-- Whether a declaration asks for analysis. -/
def IsAnalyzed (f : Field) : Prop := f.indexType = "text" ∨ f.indexType = "match_only_text"

/-- The full-text declarations are those that ask for analysis. -/
theorem isFullText_iff (f : Field) : f.isFullText = true ↔ f.IsAnalyzed := by
  simp [isFullText, fullTextTypes, IsAnalyzed]

/-- A companion is the path of a multi-field that holds keywords. -/
theorem mem_multiFields_of_companion? {f : Field} {target : String}
    (h : f.companion? = some target) :
    ∃ name, (name, "keyword") ∈ f.multiFields ∧ target = f.path ++ "." ++ name := by
  rw [companion?] at h
  split at h
  · simp at h
  · rename_i first rest hnames
    have hmem : ∀ name, name ∈ first :: rest → (name, "keyword") ∈ f.multiFields := by
      intro name hname
      rw [← hnames] at hname
      obtain ⟨⟨n, type⟩, hin, rfl⟩ := List.mem_map.1 hname
      obtain ⟨hin, htype⟩ := List.mem_filter.1 hin
      obtain rfl : type = "keyword" := by simpa using htype
      exact hin
    obtain rfl := Option.some.inj h
    by_cases hk : (first :: rest).contains "keyword" = true
    · exact ⟨"keyword", hmem _ (by simpa using hk), by rw [if_pos hk]⟩
    · exact ⟨first, hmem _ (List.mem_cons_self ..), by rw [if_neg hk]⟩

end Field

/-- **Exact matching never reaches analyzed text.** In a query translated for merged mappings
nothing is in the words of the index itself, and every exact match is on a path that no index
declares analyzed, or on the companion of a declared path that every index which declares it
declares analyzed, with a multi-field of keywords at the companion. -/
theorem exactTarget_not_analyzed {mappings : List IndexMapping} {m : MergedMapping}
    (hm : mergeMappings mappings = .ok m) {arrays : List String} {hasUnmapped : Bool}
    {t t' : Translator}
    (ht : t.schema = m.schema arrays hasUnmapped) {context : String} {p : Predicate}
    {query : Clause}
    (h : t.translate context p = (.ok (some query), t')) :
    ∀ c ∈ query.subclauses, c.isNative = false ∧ ∀ target, c.exactTarget? = some target →
      (∀ index ∈ mappings, ∀ f ∈ Field.walkAll index.fields, f.path = target → ¬ f.IsAnalyzed) ∨
        ∃ path, t.schema.companion? path = some target ∧
          (∃ index ∈ mappings, ∃ f ∈ Field.walkAll index.fields, f.path = path) ∧
          ∀ index ∈ mappings, ∀ f ∈ Field.walkAll index.fields, f.path = path →
            f.IsAnalyzed ∧ ∃ name, (name, "keyword") ∈ f.multiFields ∧
              target = path ++ "." ++ name := by
  obtain ⟨-, -, hquery⟩ := Translator.translate_induct (Schema.translates_rules t.schema) rfl h
  intro c hc
  have hc := hquery query rfl c hc
  refine ⟨hc.not_native, fun target htarget => ?_⟩
  obtain ⟨field, hfield⟩ := hc.exactField htarget
  -- the target is the field itself when it is not full-text, and its companion when it is
  rcases Schema.exactField_eq_ok.1 hfield with ⟨hplain, rfl⟩ | ⟨-, hcompanion⟩
  · left
    intro index hindex f hf hpath hanalyzed
    have hfull : target ∈ m.fullTextPaths :=
      (mem_fullTextPaths_iff hm).2
        ⟨f, List.mem_flatMap.2 ⟨index, hindex, hf⟩, hpath, f.isFullText_iff.2 hanalyzed⟩
    rw [ht] at hplain
    simp [Schema.isFullText, MergedMapping.schema, hfull] at hplain
  · right
    have hlookup : m.companions.lookup field = some target := by
      rw [ht] at hcompanion
      exact hcompanion
    obtain ⟨⟨g, hg, hgpath⟩, hall⟩ := (companion_iff hm).1 hlookup
    obtain ⟨index, hindex, hg⟩ := List.mem_flatMap.1 hg
    refine ⟨field, hcompanion, ⟨index, hindex, g, hg, hgpath⟩, fun index hindex f hf hpath => ?_⟩
    obtain ⟨hfull, hf⟩ := hall f (List.mem_flatMap.2 ⟨index, hindex, hf⟩) hpath
    exact ⟨f.isFullText_iff.1 hfull, hpath ▸ Field.mem_multiFields_of_companion? hf⟩

/-- A range on a title that two indices analyze: it is on the companion that both name. -/
theorem exactTarget_not_analyzed_title :
    let title (others : List (String × String)) : Field :=
      .declare "title" "title" "text" [] (others ++ [("keyword", "keyword")])
    let mappings : List IndexMapping := [⟨"a", [title []]⟩, ⟨"b", [title [("raw", "keyword")]]⟩]
    ∃ m, mergeMappings mappings = .ok m ∧ ∃ t',
      Translator.translate { schema := m.schema [] false } "" (.compare .lt "title" (.str "x")) =
        (.ok (some (.range "title.keyword" .lt (.str "x"))), t') ∧
      ((∀ index ∈ mappings, ∀ f ∈ Field.walkAll index.fields,
        f.path = "title.keyword" → ¬ f.IsAnalyzed) ∨
        ∃ path, (m.schema [] false).companion? path = some "title.keyword") := by
  intro title mappings
  obtain ⟨m, hm⟩ : ∃ m, mergeMappings mappings = .ok m := ⟨_, rfl⟩
  obtain ⟨t', ht⟩ : ∃ t',
      Translator.translate { schema := m.schema [] false } "" (.compare .lt "title" (.str "x")) =
        (.ok (some (.range "title.keyword" .lt (.str "x"))), t') := by
    obtain rfl := Except.ok.inj hm
    exact ⟨_, rfl⟩
  refine ⟨m, hm, t', ht, ?_⟩
  have h := (exactTarget_not_analyzed hm rfl ht _ (List.mem_singleton.2 rfl)).2 "title.keyword" rfl
  exact h.imp id fun ⟨path, hpath, _⟩ => ⟨path, hpath⟩

end SearchTables
