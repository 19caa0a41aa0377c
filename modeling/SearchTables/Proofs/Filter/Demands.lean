import SearchTables.Proofs.Filter.Pushdown

/-! # Demands — the form of a translated query, and the leaves it accounts for

A query in its JSON form **demands** something of one field after the other. `QueryForm` is the
grammar of such queries, together with what they demand from left to right. Every translated query
is of this form, and its demands are **served** by leaves of the predicate: by different ones, in
their order, each demand on the full path of its leaf or on the companion of that path. -/

namespace SearchTables

/-! ## The form of queries -/

/-- What a query demands of a field: the kind of the clause, the field, and what the clause says of
it. -/
structure Demand where
  kind : String
  field : String
  detail : Value

/-- A demand for equality, with one term or with one of several. -/
def Demand.IsEquality (d : Demand) : Prop := d.kind = "term" ∨ d.kind = "terms"

/-- The kinds of clauses that say something of one field. -/
def fieldKinds : List String :=
  ["term", "terms", "range", "prefix", "wildcard", "geo_shape", "geo_bounding_box"]

/-- A list of terms: there are some, and `null` is none of them. -/
def IsTermList (detail : Value) : Prop :=
  ∃ values, detail = .list values ∧ values ≠ [] ∧ ∀ v ∈ values, v.isNull = false

/-- **The form of a query** and its demands: a clause on a field, the negation of one query, or
several queries under one junction. -/
inductive QueryForm : Value → List Demand → Prop where
  | onField {kind field : String} {detail : Value} (known : kind ∈ fieldKinds)
      (listed : kind = "terms" → IsTermList detail) :
      QueryForm (.object [(kind, .object [(field, detail)])]) [⟨kind, field, detail⟩]
  | present (field : String) :
      QueryForm (.object [("exists", .object [("field", .str field)])]) [⟨"exists", field, .null⟩]
  | mustNot {query : Value} {demands : List Demand} (part : QueryForm query demands) :
      QueryForm (.object [("bool", .object [("must_not", .list [query])])]) demands
  | must {parts : List (Value × List Demand)} (several : 2 ≤ parts.length)
      (each : ∀ part ∈ parts, QueryForm part.1 part.2) :
      QueryForm (.object [("bool", .object [("must", .list (parts.map (·.1)))])])
        (parts.flatMap (·.2))
  | should {parts : List (Value × List Demand)} (several : 2 ≤ parts.length)
      (each : ∀ part ∈ parts, QueryForm part.1 part.2) :
      QueryForm
        (.object [("bool", .object
          [("should", .list (parts.map (·.1))), ("minimum_should_match", .int 1)])])
        (parts.flatMap (·.2))

namespace Clause

mutual

/-- What a clause demands, from left to right. -/
def demands : Clause → List Demand
  | .matchAll => []
  | .native _ => []
  | .term field value ignoreCase =>
      [⟨"term", field, if ignoreCase then caseOption (.ofJson value) true else .ofJson value⟩]
  | .terms field values => [⟨"terms", field, .list (values.map .ofJson)⟩]
  | .range field bound value => [⟨"range", field, single bound.name (.ofJson value)⟩]
  | .present field => [⟨"exists", field, .null⟩]
  | .beginsWith field value ignoreCase => [⟨"prefix", field, caseOption (.str value) ignoreCase⟩]
  | .wildcard field pattern ignoreCase =>
      [⟨"wildcard", field, caseOption (.str pattern) ignoreCase⟩]
  | .geoShape field shape relation =>
      [⟨"geo_shape", field, .object [("shape", shape), ("relation", .str relation.name)]⟩]
  | .geoBox field minX minY maxX maxY =>
      [⟨"geo_bounding_box", field,
        .object [("top_left", corner maxY minX), ("bottom_right", corner minY maxX)]⟩]
  | .mustNot clause => demands clause
  | .must clauses => demandsOfAll clauses
  | .should clauses => demandsOfAll clauses

/-- `demands` of several clauses. -/
def demandsOfAll : List Clause → List Demand
  | [] => []
  | c :: rest => demands c ++ demandsOfAll rest

end

/-- `demandsOfAll` collects the demands of each clause. -/
theorem demandsOfAll_eq_flatMap (cs : List Clause) : demandsOfAll cs = cs.flatMap demands := by
  induction cs with
  | nil => rfl
  | cons c rest ih => rw [demandsOfAll, ih, List.flatMap_cons]

/-- A clause is **in form** when what is sent is a query with the demands of the clause. -/
def InForm (c : Clause) : Prop := QueryForm c.toValue c.demands

/-- The clause of a LIKE pattern is in form. -/
theorem inForm_likeClause (target : String) (tokens : List Text.LikeToken) (ignoreCase : Bool) :
    (likeClause target tokens ignoreCase).InForm := by
  rw [likeClause]
  split
  · exact .onField (by decide) (by simp)
  · split
    · exact .onField (by decide) (by simp)
    · exact .onField (by decide) (by simp)

/-- Joined clauses demand what the clauses demand, one after the other. -/
theorem demands_joinClauses {junction : Junction} {cs : List Clause} {c : Clause}
    (h : joinClauses junction cs = some c) : c.demands = cs.flatMap demands := by
  rcases joinClauses_eq_some h with rfl | ⟨-, -, rfl⟩ | ⟨-, -, rfl⟩
  · simp
  · exact demandsOfAll_eq_flatMap cs
  · exact demandsOfAll_eq_flatMap cs

/-- Clauses in form are joined to one in form. -/
theorem inForm_joinClauses {junction : Junction} {cs : List Clause} {c : Clause}
    (h : joinClauses junction cs = some c) (hcs : ∀ d ∈ cs, d.InForm) : c.InForm := by
  have heach : ∀ part ∈ cs.map (fun d => (d.toValue, d.demands)), QueryForm part.1 part.2 :=
    List.forall_mem_map.2 hcs
  have hdemands := demands_joinClauses h
  rw [InForm, hdemands]
  rcases joinClauses_eq_some h with rfl | ⟨-, hseveral, rfl⟩ | ⟨-, hseveral, rfl⟩
  · rw [← hdemands]
    exact hcs c (List.mem_singleton_self c)
  · have hform := QueryForm.must (by simpa using hseveral) heach
    rw [List.map_map, List.flatMap_map] at hform
    rwa [toValue, toValues_eq_map]
  · have hform := QueryForm.should (by simpa using hseveral) heach
    rw [List.map_map, List.flatMap_map] at hform
    rwa [toValue, toValues_eq_map]

end Clause

/-! ## Constants in a query -/

/-- A constant in the words of a query is never `null`. -/
theorem isNull_of_queryConstant {v : Value} {j : Json} (h : queryConstant v = .ok (some j)) :
    (Value.ofJson j).isNull = false := by
  cases v with
  | decimal d =>
      rw [queryConstant] at h
      split at h
      · obtain rfl := Option.some.inj (Except.ok.inj h)
        rfl
      · cases h
  | null | list | object | keyed | bytes => cases h
  | _ =>
      obtain rfl := Option.some.inj (Except.ok.inj h)
      rfl

/-- A constant and its form in a query. -/
def IsWording (constant sent : Value) : Prop :=
  ∃ j, queryConstant constant = .ok (some j) ∧ sent = .ofJson j

/-- Constants with a wording have the wording of the first one before that of the others. -/
theorem queryConstants_cons_eq_some {v : Value} {rest : List Value} {values : List Json}
    (hv : v.isNull = false) (h : queryConstants (v :: rest) = .ok (some values)) :
    ∃ j js, queryConstant v = .ok (some j) ∧ queryConstants rest = .ok (some js) ∧
      values = j :: js := by
  rw [queryConstants] at h
  · split at h
    · rename_i j hj
      obtain ⟨found, hfound, hvalues⟩ := map_eq_ok.1 h
      obtain ⟨js, rfl, rfl⟩ := Option.map_eq_some_iff.1 hvalues
      exact ⟨j, js, hj, hfound, rfl⟩
    · cases h
    · cases h
  · rintro rfl
    cases hv

/-- **The constants of a membership are sent in their order**, `null` being left out. -/
theorem forall₂_isWording {constants : List Value} {values : List Json}
    (h : queryConstants constants = .ok (some values)) :
    List.Forall₂ IsWording (constants.filter (!·.isNull)) (values.map .ofJson) := by
  induction constants generalizing values with
  | nil =>
      obtain rfl := Option.some.inj (Except.ok.inj h)
      exact .nil
  | cons v rest ih =>
      cases hv : v.isNull with
      | true =>
          obtain rfl : v = .null := by
            cases v with
            | null => rfl
            | _ => cases hv
          exact ih h
      | false =>
          obtain ⟨j, js, hj, hjs, rfl⟩ := queryConstants_cons_eq_some hv h
          rw [List.filter_cons_of_pos (by simp [hv]), List.map_cons]
          exact .cons ⟨j, hj, rfl⟩ (ih hjs)

/-- What constants are sent as is never `null`. -/
theorem isNull_of_isWording {constants values : List Value}
    (h : List.Forall₂ IsWording constants values) : ∀ v ∈ values, v.isNull = false := by
  induction h with
  | nil => simp
  | cons hwording _ ih =>
      obtain ⟨j, hj, rfl⟩ := hwording
      exact List.forall_mem_cons.2 ⟨isNull_of_queryConstant hj, ih⟩

/-! ## Leaves and demands -/

/-- The leaves of a predicate from left to right, each with its context. -/
def Predicate.leafNodes (context : String) (p : Predicate) : List (String × Predicate) :=
  (p.nodes context).filter (·.2.isLeaf)

namespace Predicate

variable (context : String)

/-- A leaf is its only leaf. -/
theorem leafNodes_of_isLeaf {p : Predicate} (h : p.isLeaf = true) :
    p.leafNodes context = [(context, p)] := by
  simp [leafNodes, nodes_of_isLeaf h, h]

/-- The leaves of a member condition are those of what it asks of the member. -/
theorem leafNodes_member (field : String) (inner : Predicate) :
    (member field inner).leafNodes context = inner.leafNodes (Path.under context field) := by
  rw [leafNodes, nodes, List.filter_cons_of_neg (by simp [isLeaf]), leafNodes]

/-- The leaves of a compound predicate are those of its parts. -/
theorem leafNodes_joined (junction : Junction) (parts : List Predicate) :
    (joined junction parts).leafNodes context = parts.flatMap (leafNodes context) := by
  rw [leafNodes, nodes, List.filter_cons_of_neg (by simp [isLeaf]), nodesOfParts_eq_flatMap,
    List.filter_flatMap]
  rfl

end Predicate

namespace Schema

/-- A demand is **served by** a leaf when it is on the full path of the leaf, or on the companion of
that path. A demand for one of several terms is for the constants of a membership, in their order. -/
def ServedBy (s : Schema) (d : Demand) (node : String × Predicate) : Prop :=
  ∃ field, node.2.subject? = some field ∧
    (d.field = Path.under node.1 field ∨ s.companion? (Path.under node.1 field) = some d.field) ∧
    (d.kind = "terms" → ∃ constants values, node.2 = .among field constants ∧
      d.detail = .list values ∧ List.Forall₂ IsWording (constants.filter (!·.isNull)) values)

variable {s : Schema}

/-- The target of a path is the path itself or its companion. -/
theorem eq_or_companion_of_exactField {path target : String} (h : s.exactField path = .ok target) :
    target = path ∨ s.companion? path = some target := by
  rw [exactField] at h
  split at h
  · split at h
    · rename_i companion hcompanion
      obtain rfl := Except.ok.inj h
      exact .inr hcompanion
    · cases h
  · exact .inl (Except.ok.inj h).symm

/-- **The clause of a test is in form, and its one demand is served by the test.** -/
theorem ClauseOf.inForm {context field : String} {p : Predicate} {c : Clause}
    (hfield : p.subject? = some field) (h : s.ClauseOf (Path.under context field) p c) :
    c.InForm ∧ ∃ d, c.demands = [d] ∧ s.ServedBy d (context, p) := by
  -- all but a list of terms only has to be on the right field
  have hserved : ∀ {d : Demand}, (d.field = Path.under context field ∨
      s.companion? (Path.under context field) = some d.field) → d.kind ≠ "terms" →
      s.ServedBy d (context, p) :=
    fun hd hkind => ⟨field, hfield, hd, fun hterms => absurd hterms hkind⟩
  cases h with
  | equal hx =>
      exact ⟨.onField (by decide) (by simp), _, rfl,
        hserved (eq_or_companion_of_exactField hx) (by simp)⟩
  | unequal hx =>
      exact ⟨.mustNot (.onField (by decide) (by simp)), _, rfl,
        hserved (eq_or_companion_of_exactField hx) (by simp)⟩
  | range hx =>
      exact ⟨.onField (by decide) (by simp), _, rfl,
        hserved (eq_or_companion_of_exactField hx) (by simp)⟩
  | @terms _ target constants value values hx hv =>
      obtain rfl := Option.some.inj hfield
      have hwordings := forall₂_isWording hv
      have hlist : IsTermList (.list ((value :: values).map .ofJson)) :=
        ⟨_, rfl, by simp, isNull_of_isWording hwordings⟩
      exact ⟨.onField (by decide) fun _ => hlist, _, rfl, _, rfl, eq_or_companion_of_exactField hx,
        fun _ => ⟨constants, _, rfl, rfl, hwordings⟩⟩
  | @like _ target pattern ignoreCase escape hx =>
      refine ⟨Clause.inForm_likeClause .., ?_⟩
      have htarget := eq_or_companion_of_exactField hx
      rw [likeClause]
      split
      · exact ⟨_, rfl, hserved htarget (by simp)⟩
      · split
        · exact ⟨_, rfl, hserved htarget (by simp)⟩
        · exact ⟨_, rfl, hserved htarget (by simp)⟩
  | absent => exact ⟨.mustNot (.present _), _, rfl, hserved (.inl rfl) (by simp)⟩
  | present => exact ⟨.present _, _, rfl, hserved (.inl rfl) (by simp)⟩
  | geoShape => exact ⟨.onField (by decide) (by simp), _, rfl, hserved (.inl rfl) (by simp)⟩
  | geoBox => exact ⟨.onField (by decide) (by simp), _, rfl, hserved (.inl rfl) (by simp)⟩

/-- Where the id is neither declared nor a companion, the clause of a test demands nothing of it but
equality. -/
theorem ClauseOf.isEquality (hundeclared : s.indexType? idColumn = none)
    (hcompanion : ∀ path, s.companion? path ≠ some idColumn) {path : String} {p : Predicate}
    {c : Clause} (h : s.ClauseOf path p c) :
    ∀ d ∈ c.demands, d.field = idColumn → d.IsEquality := by
  -- the target is the id only if the path is
  have htarget : ∀ {target}, s.exactField path = .ok target → target = idColumn →
      path = idColumn := by
    rintro target hx rfl
    rcases eq_or_companion_of_exactField hx with h | h
    · exact h.symm
    · exact absurd h (hcompanion path)
  cases h with
  | equal => exact List.forall_mem_singleton.2 fun _ => .inl rfl
  | unequal => exact List.forall_mem_singleton.2 fun _ => .inl rfl
  | terms => exact List.forall_mem_singleton.2 fun _ => .inr rfl
  | range hx _ _ hid => exact List.forall_mem_singleton.2 fun hd => absurd (htarget hx hd) hid
  | like hx hid =>
      rw [likeClause]
      split
      · exact List.forall_mem_singleton.2 fun _ => .inl rfl
      · split
        · exact List.forall_mem_singleton.2 fun hd => absurd (htarget hx hd) hid
        · exact List.forall_mem_singleton.2 fun hd => absurd (htarget hx hd) hid
  | absent hid | present hid => exact List.forall_mem_singleton.2 fun hd => absurd hd hid
  | geoShape hx | geoBox hx =>
      refine List.forall_mem_singleton.2 fun hd => ?_
      obtain rfl : path = idColumn := hd
      rw [hundeclared] at hx
      cases hx

end Schema

/-! ## Translated queries -/

section Distinct

variable {α β : Type} {R R' : α → β → Prop} {as as' : List α} {bs bs' : List β}

/-- What has different partners in two lists, one after the other, has them in both together. -/
theorem sublistForall₂_append (h : List.SublistForall₂ R as bs)
    (h' : List.SublistForall₂ R as' bs') : List.SublistForall₂ R (as ++ as') (bs ++ bs') := by
  rw [List.sublistForall₂_iff] at h h' ⊢
  obtain ⟨used, hused, hsub⟩ := h
  obtain ⟨used', hused', hsub'⟩ := h'
  exact ⟨used ++ used', List.rel_append hused hused', hsub.append hsub'⟩

/-- What has different partners in one relation has them in a wider one. -/
theorem sublistForall₂_imp (hwider : ∀ a b, R a b → R' a b) (h : List.SublistForall₂ R as bs) :
    List.SublistForall₂ R' as bs := by
  rw [List.sublistForall₂_iff] at h ⊢
  obtain ⟨used, hused, hsub⟩ := h
  exact ⟨used, hused.imp hwider, hsub⟩

/-- Each has a partner. -/
theorem exists_partner (h : List.SublistForall₂ R as bs) : ∀ a ∈ as, ∃ b ∈ bs, R a b := by
  induction h with
  | nil => simp
  | cons hab _ ih =>
      refine List.forall_mem_cons.2 ⟨⟨_, List.mem_cons_self .., hab⟩, fun a ha => ?_⟩
      obtain ⟨b, hb, hab⟩ := ih a ha
      exact ⟨b, List.mem_cons_of_mem _ hb, hab⟩
  | cons_right _ ih =>
      intro a ha
      obtain ⟨b, hb, hab⟩ := ih a ha
      exact ⟨b, List.mem_cons_of_mem _ hb, hab⟩

end Distinct

/-- Parts that are joined to a clause have clauses that are. -/
theorem joinClauses_of_joinParts {junction : Junction} {found : List (Option Clause)} {c : Clause}
    (h : joinParts junction found = some c) : joinClauses junction (found.filterMap id) = some c := by
  rw [joinParts] at h
  split at h
  · cases h
  · exact h

section Accounting

variable {s : Schema} {R : Demand → String × Predicate → Prop}

/-- A clause is **accounted for** by leaves when it is in form and its demands find different
leaves, in their order. -/
structure AccountedFor (R : Demand → String × Predicate → Prop) (leaves : List (String × Predicate))
    (c : Clause) : Prop where
  form : c.InForm
  served : List.SublistForall₂ R c.demands leaves

/-- The clauses of several predicates are in form, and their demands find different leaves among
those of all the predicates. -/
theorem accountedFor_parts {context : String} {parts : List Predicate}
    {answers : List (Option Clause × Bool)}
    (h : List.Forall₂ (fun p answer => ∀ c ∈ answer.1, AccountedFor R (p.leafNodes context) c) parts
      answers) :
    let found := (answers.map (·.1)).filterMap id
    (∀ c ∈ found, c.InForm) ∧
      List.SublistForall₂ R (found.flatMap Clause.demands)
        (parts.flatMap (Predicate.leafNodes context)) := by
  induction h with
  | nil => exact ⟨by simp, .nil⟩
  | @cons p answer parts answers hp _ ih =>
      obtain ⟨found, pushed⟩ := answer
      rw [List.flatMap_cons]
      cases found with
      | none => exact ⟨ih.1, sublistForall₂_append .nil ih.2⟩
      | some c =>
          have hc := hp c rfl
          exact ⟨List.forall_mem_cons.2 ⟨hc.form, ih.1⟩, sublistForall₂_append hc.served ih.2⟩

/-- **What every leaf does for its one demand, the leaves of a predicate do for the demands of its
query.** -/
theorem accountedFor_rules (R : Demand → String × Predicate → Prop)
    (hleaf : ∀ {context field p c}, p.subject? = some field → Path.under context field ∉ residualColumns →
      s.ClauseOf (Path.under context field) p c → ∃ d, c.demands = [d] ∧ R d (context, p)) :
    Translator.Rules s fun context p found _ =>
      ∀ c ∈ found, AccountedFor R (p.leafNodes context) c where
  leaf {context p found} hp h c hc := by
    obtain rfl := Option.mem_def.1 hc
    obtain ⟨field, hfield, -, hresidual, hclause⟩ := Schema.clauseOf_translateLeaf h
    obtain ⟨d, hd, hserved⟩ := hleaf hfield hresidual hclause
    refine ⟨(hclause.inForm hfield).1, ?_⟩
    rw [hd, Predicate.leafNodes_of_isLeaf context hp]
    exact .cons hserved .nil
  member {context field inner found pushed} h := by
    rwa [Predicate.leafNodes_member]
  joined {context junction parts answers} h c hc := by
    obtain ⟨hform, hserved⟩ := accountedFor_parts h
    have hjoin := joinClauses_of_joinParts hc
    rw [Predicate.leafNodes_joined]
    exact ⟨Clause.inForm_joinClauses hjoin hform, Clause.demands_joinClauses hjoin ▸ hserved⟩

end Accounting

/-- **A translated query is in form and accounts for its leaves.** Its junctions have two parts or
more, each negation has one, and each list of terms is a list of some constants, in their order and
without `null`. Its demands are served by different leaves, from left to right, each on the full
path of the leaf or on the companion of that path. Where the id is neither declared nor a companion
nothing is demanded of it but equality. -/
theorem translated_query_inForm {t t' : Translator} {context : String} {p : Predicate}
    {query : Clause} (hundeclared : t.schema.indexType? idColumn = none)
    (hcompanion : ∀ path, t.schema.companion? path ≠ some idColumn)
    (h : t.translate context p = (.ok (some query), t')) :
    QueryForm query.toValue query.demands ∧
      List.SublistForall₂ t.schema.ServedBy query.demands (p.leafNodes context) ∧
      ∀ d ∈ query.demands, d.field = idColumn → d.kind = "term" ∨ d.kind = "terms" := by
  -- both properties of a demand are those of the clause of its leaf
  let Served (d : Demand) (node : String × Predicate) : Prop :=
    t.schema.ServedBy d node ∧ (d.field = idColumn → d.IsEquality)
  have hleaf : ∀ {context field p c}, p.subject? = some field →
      Path.under context field ∉ residualColumns →
      t.schema.ClauseOf (Path.under context field) p c →
      ∃ d, c.demands = [d] ∧ Served d (context, p) := by
    intro context field p c hfield _ hclause
    obtain ⟨-, d, hd, hserved⟩ := hclause.inForm hfield
    refine ⟨d, hd, hserved, hclause.isEquality hundeclared hcompanion d ?_⟩
    rw [hd]
    exact List.mem_singleton_self d
  obtain ⟨-, -, hquery⟩ := Translator.translate_induct (accountedFor_rules Served hleaf) rfl h
  obtain ⟨hform, hserved⟩ := hquery query rfl
  refine ⟨hform, sublistForall₂_imp (fun _ _ h => h.1) hserved, fun d hd => ?_⟩
  obtain ⟨-, -, -, hid⟩ := exists_partner hserved d hd
  exact hid

/-- A conjunction that loses a part, around a disjunction: the title is matched on its companion, and
`null` is not among the terms. -/
theorem translated_query_inForm_nested :
    let s : Schema :=
      { columns := [], fullTextPaths := ["title"], companions := [("title", "title.raw")] }
    let p : Predicate := .joined .all [.compare .eq "_id" (.str "7"), .unknown "x",
      .joined .any [.like "title" "a%" false "\\", .among "n" [.null, .int 2, .int 1]],
      .member "user" (.isNull "name")]
    let query : Clause := .must [.term "_id" (.str "7") false,
      .should [.beginsWith "title.raw" "a" false, .terms "n" [.int 2, .int 1]],
      .mustNot (.present "user.name")]
    (s.indexType? idColumn = none ∧ ∀ path, s.companion? path ≠ some idColumn) ∧
      ∃ t', Translator.translate { schema := s } "" p = (.ok (some query), t') ∧
        QueryForm query.toValue query.demands ∧
        List.SublistForall₂ s.ServedBy query.demands (p.leafNodes "") ∧
        query.demands.map (·.field) = ["_id", "title.raw", "n", "user.name"] := by
  intro s p query
  have hcompanion : ∀ path, s.companion? path ≠ some idColumn := by
    intro path hpath
    obtain ⟨-, htarget⟩ := Prod.mk.inj (List.mem_singleton.1 (mem_of_lookup hpath))
    exact absurd htarget (by decide)
  have htranslate : Translator.translate { schema := s } "" p =
      (.ok (some query), { schema := s, fullyPushed := false }) := rfl
  obtain ⟨hform, hserved, -⟩ := translated_query_inForm rfl hcompanion htranslate
  exact ⟨⟨rfl, hcompanion⟩, _, htranslate, hform, hserved, rfl⟩

end SearchTables
