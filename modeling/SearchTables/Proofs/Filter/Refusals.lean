import SearchTables.Proofs.Filter.Qualification

/-! # Refusals — which predicates a translator does not take

A translator refuses what nests past its limit, and exact matching on analyzed text that has no
companion. The **places** of a predicate are its nodes in the order in which they are visited, each
with the level it stands at; the refusal is that of the first place that has one
(`Translator.failure?_translate`). Neither the constant that is matched, nor a sibling without a clause,
nor a disjunction around it keeps a place from being refused, and nothing else is ever refused. -/

namespace SearchTables

/-! ## Places -/

namespace Predicate

mutual

/-- A predicate and everything inside it in the order of visits, each with its level and its
context. -/
def places (level : Nat) (context : String) : Predicate → List (Nat × String × Predicate)
  | .joined junction parts =>
      (level, context, .joined junction parts) :: placesOfParts (level + 1) context parts
  | .member field inner =>
      (level, context, .member field inner) :: places (level + 1) (Path.under context field) inner
  | p => [(level, context, p)]

/-- `places` on several predicates of one level. -/
def placesOfParts (level : Nat) (context : String) : List Predicate → List (Nat × String × Predicate)
  | [] => []
  | p :: rest => places level context p ++ placesOfParts level context rest

end

variable {level : Nat} {context : String}

/-- A leaf is its only place. -/
theorem places_of_isLeaf {p : Predicate} (h : p.isLeaf = true) :
    p.places level context = [(level, context, p)] := by
  cases p <;> simp_all [isLeaf, places]

mutual

/-- **The places of a predicate are its nodes**, with their levels. -/
theorem map_places : ∀ (level : Nat) {context : String} {p : Predicate},
    (p.places level context).map (·.2) = p.nodes context
  | level, context, .joined junction parts => by
      rw [places, nodes, List.map_cons, map_placesOfParts]
  | level, context, .member field inner => by
      rw [places, nodes, List.map_cons, map_places]
  | _, _, .compare .. | _, _, .among .. | _, _, .isNull _ | _, _, .notNull _ | _, _, .like ..
  | _, _, .spatial .. | _, _, .unknown _ => rfl

/-- The places of several predicates are the nodes of them. -/
theorem map_placesOfParts : ∀ (level : Nat) {context : String} {parts : List Predicate},
    (placesOfParts level context parts).map (·.2) = nodesOfParts context parts
  | _, _, [] => rfl
  | level, context, p :: rest => by
      rw [placesOfParts, nodesOfParts, List.map_append, map_places, map_placesOfParts]

end

mutual

/-- **No place is past a limit exactly when the predicate nests within it.** -/
theorem places_le_iff (limit : Int) : ∀ (level : Nat) (context : String) (p : Predicate),
    (∀ place ∈ p.places (level + 1) context, place.1 ≤ limit) ↔ level + p.depth ≤ limit
  | level, context, .joined junction parts => by
      have hparts := placesOfParts_le_iff limit (level + 1) context parts
      rw [places, List.forall_mem_cons, depth]
      constructor
      · rintro ⟨htop, hbelow⟩
        have := (hparts htop).1 hbelow
        omega
      · intro h
        exact ⟨by omega, (hparts (by omega)).2 (by omega)⟩
  | level, context, .member field inner => by
      have hinner := places_le_iff limit (level + 1) (Path.under context field) inner
      rw [places, List.forall_mem_cons, hinner, depth]
      omega
  | _, _, .compare .. | _, _, .among .. | _, _, .isNull _ | _, _, .notNull _ | _, _, .like ..
  | _, _, .spatial .. | _, _, .unknown _ => by simp [places, depth]

/-- No place of several predicates is past a limit exactly when all of them nest within it. -/
theorem placesOfParts_le_iff (limit : Int) :
    ∀ (level : Nat) (context : String) (parts : List Predicate), level ≤ limit →
      ((∀ place ∈ placesOfParts (level + 1) context parts, place.1 ≤ limit) ↔
        level + depthOfParts parts ≤ limit)
  | _, _, [], h => by simpa [placesOfParts, depthOfParts] using h
  | level, context, p :: rest, h => by
      rw [placesOfParts, List.forall_mem_append, places_le_iff,
        placesOfParts_le_iff limit level context rest h, depthOfParts]
      omega

end

end Predicate

/-! ## Failures -/

/-- The failure that an outcome is, if it is one. -/
def failure? {α : Type} : Except Error α → Option Error
  | .error e => some e
  | .ok _ => none

section

variable {α β : Type}

/-- An outcome is a failure exactly when it has that failure. -/
@[simp] theorem failure?_eq_some {x : Except Error α} {e : Error} :
    failure? x = some e ↔ x = .error e := by
  cases x <;> simp [failure?]

/-- An outcome without a failure has a value. -/
@[simp] theorem failure?_eq_none {x : Except Error α} : failure? x = none ↔ ∃ a, x = .ok a := by
  cases x <;> simp [failure?]

/-- A changed outcome has the failure of the outcome. -/
theorem failure?_map (x : Except Error α) (f : α → β) : failure? (x.map f) = failure? x := by
  cases x <;> rfl

/-- A step that cannot fail adds no failure. -/
theorem failure?_bind {x : Except Error α} {f : α → Except Error β}
    (hf : ∀ a, x = .ok a → failure? (f a) = none) : failure? (x >>= f) = failure? x := by
  cases x with
  | error e => rfl
  | ok a => exact hf a rfl

end

/-- Why a place fails, if it does: for its level first, then as a leaf. What is no leaf does not fail by
itself. -/
def Schema.placeFailure? (s : Schema) (limit : Int) : Nat × String × Predicate → Option Error
  | (level, context, p) =>
      if limit < level then some (.predicateTooDeep limit) else failure? (s.translateLeaf context p)

namespace Translator

variable {t t' : Translator} {level : Nat} {context : String} {p : Predicate}

/-- A translator that succeeded is where it was, but for its flag. -/
theorem after_of_translate {found : Option Clause} (h : t.translate context p = (.ok found, t')) :
    ∃ pushed, t' = t.after pushed := by
  have rules : Rules t.schema fun _ _ _ _ => True := ⟨fun _ _ => trivial, fun _ => trivial, fun _ => trivial⟩
  obtain ⟨pushed, ht', -⟩ := translate_induct rules rfl h
  exact ⟨pushed, ht'⟩

/-- One level down a translator is too deep exactly when that level is past its limit. -/
theorem tooDeep_enter (hlevel : t.depth + 1 = level) :
    t.enter.tooDeep = true ↔ t.maxDepth < level := by
  rw [tooDeep, decide_eq_true_iff, ← hlevel]
  rfl

/-- What is no leaf fails for its level, and else what comes after it decides. -/
theorem findSome?_placeFailure?_cons {s : Schema} {limit : Int} (hp : p.isLeaf = false)
    (rest : List (Nat × String × Predicate)) :
    ((level, context, p) :: rest).findSome? (s.placeFailure? limit) =
      if limit < level then some (.predicateTooDeep limit)
      else rest.findSome? (s.placeFailure? limit) := by
  have hown : failure? (s.translateLeaf context p) = none := by
    cases p <;> first | rfl | cases hp
  rw [List.findSome?_cons, Schema.placeFailure?, hown]
  by_cases hdeep : limit < level
  · rw [if_pos hdeep, if_pos hdeep]
  · rw [if_neg hdeep, if_neg hdeep]

/-- The translation of a leaf fails for its level or as the leaf does. -/
theorem failure?_translate_of_isLeaf (hp : p.isLeaf = true) (hlevel : t.depth + 1 = level) :
    failure? (t.translate context p).1 =
      (p.places level context).findSome? (t.schema.placeFailure? t.maxDepth) := by
  rw [Predicate.places_of_isLeaf hp, List.findSome?_singleton, translate_of_isLeaf hp,
    Schema.placeFailure?]
  by_cases hdeep : t.maxDepth < level
  · rw [if_pos ((tooDeep_enter hlevel).2 hdeep), if_pos hdeep]
    rfl
  · rw [if_neg (mt (tooDeep_enter hlevel).1 hdeep), if_neg hdeep]

mutual

/-- **A translation fails with the first failure among the places of its predicate.** -/
theorem failure?_translate : ∀ {t : Translator} {level : Nat} {context : String} {p : Predicate},
    t.depth + 1 = level →
    failure? (t.translate context p).1 =
      (p.places level context).findSome? (t.schema.placeFailure? t.maxDepth)
  | t, level, context, .joined junction parts, hlevel => by
      have hbelow : t.enter.depth + 1 = (level + 1 : Nat) := by simp only [enter]; omega
      have hparts : failure? (t.enter.translateParts context parts).1 = _ :=
        failure?_translateParts hbelow
      rw [Predicate.places, findSome?_placeFailure?_cons rfl, translate]
      by_cases hdeep : t.maxDepth < level
      · rw [if_pos ((tooDeep_enter hlevel).2 hdeep), if_pos hdeep]
        rfl
      · rw [if_neg (mt (tooDeep_enter hlevel).1 hdeep), if_neg hdeep]
        exact (failure?_map _ _).trans hparts
  | t, level, context, .member field inner, hlevel => by
      have hbelow : t.enter.depth + 1 = (level + 1 : Nat) := by simp only [enter]; omega
      have hinner : failure? (t.enter.translate (Path.under context field) inner).1 = _ :=
        failure?_translate hbelow
      rw [Predicate.places, findSome?_placeFailure?_cons rfl, translate]
      by_cases hdeep : t.maxDepth < level
      · rw [if_pos ((tooDeep_enter hlevel).2 hdeep), if_pos hdeep]
        rfl
      · rw [if_neg (mt (tooDeep_enter hlevel).1 hdeep), if_neg hdeep]
        exact hinner
  | _, _, _, .compare .., hlevel | _, _, _, .among .., hlevel | _, _, _, .isNull _, hlevel
  | _, _, _, .notNull _, hlevel | _, _, _, .like .., hlevel | _, _, _, .spatial .., hlevel
  | _, _, _, .unknown _, hlevel => failure?_translate_of_isLeaf rfl hlevel

/-- Several predicates fail with the first failure among the places of all of them. -/
theorem failure?_translateParts :
    ∀ {t : Translator} {level : Nat} {context : String} {parts : List Predicate},
      t.depth + 1 = level →
      failure? (t.translateParts context parts).1 =
        (Predicate.placesOfParts level context parts).findSome? (t.schema.placeFailure? t.maxDepth)
  | _, _, _, [], _ => rfl
  | t, level, context, p :: rest, hlevel => by
      have hp : failure? (t.translate context p).1 = _ := failure?_translate hlevel
      rw [Predicate.placesOfParts, List.findSome?_append, ← hp, translateParts]
      rcases htranslate : t.translate context p with ⟨e | c, u⟩
      · rfl
      · obtain ⟨pushed, rfl⟩ := after_of_translate htranslate
        have hrest : failure? ((t.after pushed).translateParts context rest).1 = _ :=
          failure?_translateParts hlevel
        -- the first part has no failure, so that of the others is the failure of all
        refine Eq.trans ?_ hrest
        rcases hothers : (t.after pushed).translateParts context rest with ⟨e | cs, w⟩ <;>
          simp only [hothers, failure?]

end

end Translator

/-! ## Refusals -/

namespace Predicate

/-- The field that a predicate matches exactly: that of a comparison, a membership or a pattern. -/
def matchedField? : Predicate → Option String
  | .compare _ field _ => some field
  | .among field _ => some field
  | .like field _ _ _ => some field
  | _ => none

/-- Whether nothing but the field of a node can be refused: it relates no geometries, and none of
its constants is a signaling decimal. -/
def isPlain : Predicate → Bool
  | .compare _ _ constant => !Box.isSignaling constant
  | .among _ constants => constants.all (!Box.isSignaling ·)
  | .spatial .. => false
  | _ => true

end Predicate

namespace Schema

variable (s : Schema)

/-- Whether a full path can be asked of the index but not matched exactly: it holds analyzed text
and has no companion. -/
def Unmatchable (field : String) : Prop :=
  field ≠ "" ∧ field ∉ residualColumns ∧ s.isFullText field = true ∧ s.companion? field = none

instance (field : String) : Decidable (s.Unmatchable field) := by
  unfold Unmatchable
  infer_instance

/-- Why a node is refused for its field, if it is. -/
def fieldRefusal? (context : String) (p : Predicate) : Option Error := do
  let field ← p.matchedField?
  if s.Unmatchable (Path.under context field) then
    some (.textWithoutCompanion (Path.under context field))
  else none

/-- Why a place is refused, if it is: for its level first, then for its field. -/
def refusal? (limit : Int) : Nat × String × Predicate → Option Error
  | (level, context, p) =>
      if limit < level then some (.predicateTooDeep limit) else s.fieldRefusal? context p

end Schema

/-! ## Failures of leaves -/

/-- A constant that is no signaling decimal has a form in a query or is left behind. -/
theorem exists_queryConstant {v : Value} (h : Box.isSignaling v = false) :
    ∃ found, queryConstant v = .ok found := by
  cases v with
  | decimal d =>
      obtain ⟨x, hx⟩ := Option.ne_none_iff_exists'.1 fun hnone =>
        Bool.false_ne_true (h.symm.trans ((DecimalConstant.toFloat?_eq_none_iff d).1 hnone))
      exact ⟨_, by rw [queryConstant, hx]⟩
  | _ => exact ⟨_, rfl⟩

/-- So do several such constants. -/
theorem exists_queryConstants {constants : List Value} (h : constants.all (!Box.isSignaling ·) = true) :
    ∃ found, queryConstants constants = .ok found := by
  fun_induction queryConstants constants with
  | case1 => exact ⟨_, rfl⟩
  | case2 rest ih => exact ih (by simpa [Box.isSignaling] using h)
  | case3 v rest hv j hj ih =>
      obtain ⟨found, hfound⟩ := ih (by simp_all)
      exact ⟨found.map (j :: ·), by rw [hfound]; rfl⟩
  | case4 v rest hv hnone => exact ⟨_, rfl⟩
  | case5 v rest hv e he =>
      obtain ⟨found, hfound⟩ := exists_queryConstant (v := v) (by simp_all)
      exact absurd (hfound.symm.trans he) (by simp)

namespace Schema

variable {s : Schema} {level : Nat} {limit : Int} {context field : String} {p : Predicate}

/-- A field to match on is missing exactly for analyzed text without a companion. -/
theorem failure?_exactField :
    failure? (s.exactField field) =
      if s.isFullText field = true ∧ s.companion? field = none then some (.textWithoutCompanion field)
      else none := by
  rw [exactField]
  cases s.isFullText field <;> cases s.companion? field <;> simp [failure?]

/-- A comparison with a constant that does not signal fails for its field only. -/
theorem failure?_compareClause {op : CompareOp} {constant : Value} (h : Box.isSignaling constant = false) :
    failure? (s.compareClause op field constant) = failure? (s.exactField field) := by
  obtain ⟨found, hfound⟩ := exists_queryConstant h
  refine failure?_bind fun target _ => ?_
  rw [hfound]
  cases found with
  | none => rfl
  | some value =>
      cases op
      case eq | ne => rfl
      -- a bound on the id is left behind, another one is not
      all_goals
        change failure? (if field = idColumn then _ else _) = none
        split <;> rfl

/-- A membership among constants that do not signal fails for its field only. -/
theorem failure?_amongClause {constants : List Value} (h : constants.all (!Box.isSignaling ·) = true) :
    failure? (s.amongClause field constants) = failure? (s.exactField field) := by
  obtain ⟨found, hfound⟩ := exists_queryConstants h
  refine failure?_bind fun target _ => ?_
  rw [hfound]
  rcases found with - | - | ⟨v, vs⟩ <;> rfl

/-- A pattern fails for its field only. -/
theorem failure?_patternClause {pattern escape : String} {ignoreCase : Bool} :
    failure? (s.patternClause field pattern ignoreCase escape) = failure? (s.exactField field) := by
  refine failure?_bind fun target _ => ?_
  split <;> rfl

/-- An exact match is refused when its field can be asked of the index but not matched. -/
theorem failure?_leafClause {clause : Except Error (Option Clause)}
    (h : failure? clause = failure? (s.exactField field)) :
    failure? (leafClause field clause) =
      if s.Unmatchable field then some (.textWithoutCompanion field) else none := by
  rw [leafClause]
  split
  case isTrue hskip =>
    have hmatch : ¬ s.Unmatchable field := by
      rintro ⟨hempty, hresidual, -⟩
      rcases hskip with hskip | hskip
      · exact hempty hskip
      · exact hresidual (List.contains_iff_mem.1 hskip)
    rw [if_neg hmatch]
    rfl
  case isFalse hask =>
    have hiff : s.Unmatchable field ↔ s.isFullText field = true ∧ s.companion? field = none := by
      rw [not_or, List.contains_iff_mem] at hask
      exact ⟨fun h => h.2.2, fun h => ⟨hask.1, hask.2, h⟩⟩
    rw [h, failure?_exactField]
    simp only [hiff]

/-- **A plain node is refused for its field or not at all.** -/
theorem failure?_translateLeaf (hplain : p.isPlain = true) :
    failure? (s.translateLeaf context p) = s.fieldRefusal? context p := by
  cases p with
  | compare op field constant =>
      exact failure?_leafClause (failure?_compareClause (by simpa [Predicate.isPlain] using hplain))
  | among field constants =>
      exact failure?_leafClause (failure?_amongClause hplain)
  | like field pattern ignoreCase escape => exact failure?_leafClause failure?_patternClause
  | isNull field | notNull field =>
      rw [translateLeaf, leafClause]
      split <;> rfl
  | joined | member | unknown => rfl
  | spatial => simp [Predicate.isPlain] at hplain

/-- Places of plain nodes fail when they are refused. -/
theorem findSome?_placeFailure? {places : List (Nat × String × Predicate)}
    (hplain : ∀ place ∈ places, place.2.2.isPlain = true) :
    places.findSome? (s.placeFailure? limit) = places.findSome? (s.refusal? limit) := by
  induction places with
  | nil => rfl
  | cons place places ih =>
      obtain ⟨level, context, p⟩ := place
      obtain ⟨hp, hplaces⟩ := List.forall_mem_cons.1 hplain
      rw [List.findSome?_cons, List.findSome?_cons, ih hplaces, placeFailure?, refusal?,
        failure?_translateLeaf hp]

/-- Whether a predicate nests past a limit, or matches a field exactly anywhere that cannot be matched
so. -/
def Refuses (s : Schema) (limit : Int) (context : String) (p : Predicate) : Prop :=
  limit < p.depth ∨
    ∃ node ∈ p.nodes context, ∃ field ∈ node.2.matchedField?, s.Unmatchable (Path.under node.1 field)

/-- A node is refused for its field when it matches one that cannot be matched. -/
theorem exists_fieldRefusal? :
    (∃ e, s.fieldRefusal? context p = some e) ↔
      ∃ field ∈ p.matchedField?, s.Unmatchable (Path.under context field) := by
  rw [fieldRefusal?]
  cases hfield : p.matchedField? with
  | none => simp
  | some field => by_cases h : s.Unmatchable (Path.under context field) <;> simp [h]

/-- A place is refused when it is past the limit or matches a field that cannot be matched. -/
theorem exists_refusal? :
    (∃ e, s.refusal? limit (level, context, p) = some e) ↔
      limit < level ∨ ∃ field ∈ p.matchedField?, s.Unmatchable (Path.under context field) := by
  rw [refusal?, ← exists_fieldRefusal?]
  by_cases h : limit < level <;> simp [h]

/-- Refusals are about depth or about fields. -/
theorem family_of_refusal? {place : Nat × String × Predicate} {e : Error}
    (h : s.refusal? limit place = some e) : e.family = .depth ∨ e.family = .unsafePushdown := by
  obtain ⟨level, context, p⟩ := place
  rw [refusal?, fieldRefusal?] at h
  split at h
  · obtain rfl := Option.some.inj h
    exact .inl rfl
  · obtain ⟨field, -, hfield⟩ := Option.bind_eq_some_iff.1 h
    split at hfield
    · obtain rfl := Option.some.inj hfield
      exact .inr rfl
    · simp at hfield

/-- **Some place of a predicate is refused exactly when the predicate is.** -/
theorem exists_findSome?_refusal? :
    (∃ e, (p.places 1 context).findSome? (s.refusal? limit) = some e) ↔ s.Refuses limit context p := by
  have hdepth : (∃ place ∈ p.places 1 context, limit < place.1) ↔ limit < p.depth := by
    have h := not_congr (Predicate.places_le_iff limit 0 context p)
    push Not at h
    simpa using h
  rw [Refuses, ← hdepth, ← Predicate.map_places 1]
  constructor
  · rintro ⟨e, he⟩
    obtain ⟨place, hplace, hrefusal⟩ := List.exists_of_findSome?_eq_some he
    rcases exists_refusal?.1 ⟨e, hrefusal⟩ with hdeep | hfield
    · exact .inl ⟨place, hplace, hdeep⟩
    · exact .inr ⟨place.2, List.mem_map_of_mem hplace, hfield⟩
  · intro h
    obtain ⟨place, hplace, hrefusal⟩ :
        ∃ place ∈ p.places 1 context, ∃ e, s.refusal? limit place = some e := by
      rcases h with ⟨place, hplace, hdeep⟩ | ⟨node, hnode, hfield⟩
      · exact ⟨place, hplace, exists_refusal?.2 (.inl hdeep)⟩
      · obtain ⟨place, hplace, rfl⟩ := List.mem_map.1 hnode
        exact ⟨place, hplace, exists_refusal?.2 (.inr hfield)⟩
    refine Option.isSome_iff_exists.1 (List.findSome?_isSome_iff.2 ⟨place, hplace, ?_⟩)
    exact Option.isSome_iff_exists.2 hrefusal

end Schema

/-- **What a translator refuses.** A fresh translator fails on a predicate without geometries and
signaling decimals exactly when the predicate nests past the limit or matches analyzed text without
a companion anywhere, whatever stands around that place and whatever it is matched with. The failure
is that of the first place, in the order of visits, that is refused; and what is not refused comes to
a clause or is left behind. -/
theorem translation_refusals (s : Schema) (limit : Int) (context : String) (p : Predicate)
    (hplain : ∀ node ∈ p.nodes context, node.2.isPlain = true) :
    let outcome := (Translator.translate { schema := s, maxDepth := limit } context p).1
    ((∃ e, outcome = .error e ∧ (e.family = .depth ∨ e.family = .unsafePushdown)) ↔
        s.Refuses limit context p) ∧
      (∀ e, outcome = .error e ↔ (p.places 1 context).findSome? (s.refusal? limit) = some e) ∧
      (¬ s.Refuses limit context p → ∃ found, outcome = .ok found) := by
  intro outcome
  have hplaces : ∀ place ∈ p.places 1 context, place.2.2.isPlain = true := by
    rw [← Predicate.map_places 1, List.forall_mem_map] at hplain
    exact hplain
  -- a leaf without geometries and signaling decimals fails only as a refusal
  have hfirst : failure? outcome = (p.places 1 context).findSome? (s.refusal? limit) := by
    rw [← Schema.findSome?_placeFailure? hplaces]
    exact Translator.failure?_translate (t := { schema := s, maxDepth := limit }) rfl
  have herror : ∀ e, outcome = .error e ↔
      (p.places 1 context).findSome? (s.refusal? limit) = some e := fun e => by
    rw [← failure?_eq_some, hfirst]
  refine ⟨?_, herror, fun hrefuses => ?_⟩
  · rw [← Schema.exists_findSome?_refusal?]
    constructor
    · rintro ⟨e, he, -⟩
      exact ⟨e, (herror e).1 he⟩
    · rintro ⟨e, he⟩
      obtain ⟨place, -, hrefusal⟩ := List.exists_of_findSome?_eq_some he
      exact ⟨e, (herror e).2 he, Schema.family_of_refusal? hrefusal⟩
  · rw [← failure?_eq_none, hfirst, Option.eq_none_iff_forall_ne_some]
    exact fun e he => hrefuses (Schema.exists_findSome?_refusal?.1 ⟨e, he⟩)

/-- Analyzed text under a disjunction, after a sibling without a clause and before a place that is
too deep. -/
theorem translation_refusals_under_disjunction :
    let s : Schema := { columns := [], fullTextPaths := ["note.body"] }
    let p : Predicate := .joined .any [.unknown "x", .member "note" (.compare .eq "body" (.bytes [])),
      .member "a" (.member "b" (.isNull "c"))]
    (∀ node ∈ p.nodes "", node.2.isPlain = true) ∧ s.Refuses 3 "" p ∧
      (Translator.translate { schema := s, maxDepth := 3 } "" p).1 =
        .error (.textWithoutCompanion "note.body") := by
  intro s p
  have hplain : ∀ node ∈ p.nodes "", node.2.isPlain = true := by decide
  obtain ⟨-, herror, -⟩ := translation_refusals s 3 "" p hplain
  refine ⟨hplain, .inl (by decide), (herror _).2 ?_⟩
  rfl

end SearchTables
