import SearchTables.Filter.Translator
import Mathlib.Data.List.Forall2

/-! # Translation — what a translator does, without its state

A translator goes down and up a predicate and keeps a level and a flag. When it succeeds the level
is back where it was and the schema is untouched, so a translation comes down to three rules, one
for leaves, one for members and one for junctions. `Translator.translate_induct` is induction over
these rules, and `Schema.ClauseOf` says which clause a leaf comes to. -/

namespace SearchTables

/-- Whether a predicate has no predicates inside it. -/
def Predicate.isLeaf : Predicate → Bool
  | .joined _ _ | .member _ _ => false
  | _ => true

/-! ## Leaves -/

/-- The clauses of leaves. An exact match is on the target of a field. -/
inductive Schema.LeafClause (s : Schema) : Clause → Prop where
  | term {field target} (value ignoreCase) (h : s.exactField field = .ok target) :
      s.LeafClause (.term target value ignoreCase)
  | notTerm {field target} (value) (h : s.exactField field = .ok target) :
      s.LeafClause (.mustNot (.term target value false))
  | range {field target} (bound value) (h : s.exactField field = .ok target) :
      s.LeafClause (.range target bound value)
  | terms {field target} (values) (h : s.exactField field = .ok target) :
      s.LeafClause (.terms target values)
  | beginsWith {field target} (value ignoreCase) (h : s.exactField field = .ok target) :
      s.LeafClause (.beginsWith target value ignoreCase)
  | wildcard {field target} (pattern ignoreCase) (h : s.exactField field = .ok target) :
      s.LeafClause (.wildcard target pattern ignoreCase)
  | present (field) : s.LeafClause (.present field)
  | absent (field) : s.LeafClause (.mustNot (.present field))
  | geoShape (field shape relation) : s.LeafClause (.geoShape field shape relation)
  | geoBox (field minX minY maxX maxY) : s.LeafClause (.geoBox field minX minY maxX maxY)

/-- The field of a test, relative to its context. -/
def Predicate.subject? : Predicate → Option String
  | .compare _ field _ => some field
  | .among field _ => some field
  | .isNull field => some field
  | .notNull field => some field
  | .like field _ _ _ => some field
  | .spatial _ field _ _ => some field
  | .joined _ _ | .member _ _ | .unknown _ => none

/-- The clause of a test, given the full path of its field. Exact matches are on the target of the
path, and the id can only be tested for equality. -/
inductive Schema.ClauseOf (s : Schema) (path : String) : Predicate → Clause → Prop where
  | equal {field target constant value} (hx : s.exactField path = .ok target)
      (hv : queryConstant constant = .ok (some value)) :
      s.ClauseOf path (.compare .eq field constant) (.term target value false)
  | unequal {field target constant value} (hx : s.exactField path = .ok target)
      (hv : queryConstant constant = .ok (some value)) :
      s.ClauseOf path (.compare .ne field constant) (.mustNot (.term target value false))
  | range {op field target constant value bound} (hx : s.exactField path = .ok target)
      (hv : queryConstant constant = .ok (some value)) (hop : op.bound? = some bound)
      (hid : path ≠ idColumn) :
      s.ClauseOf path (.compare op field constant) (.range target bound value)
  | terms {field target constants value values} (hx : s.exactField path = .ok target)
      (hv : queryConstants constants = .ok (some (value :: values))) :
      s.ClauseOf path (.among field constants) (.terms target (value :: values))
  | like {field target pattern ignoreCase escape} (hx : s.exactField path = .ok target)
      (hid : path ≠ idColumn) :
      s.ClauseOf path (.like field pattern ignoreCase escape)
        (likeClause target (Text.likeTokens pattern escape) ignoreCase)
  | absent {field} (hid : path ≠ idColumn) :
      s.ClauseOf path (.isNull field) (.mustNot (.present path))
  | present {field} (hid : path ≠ idColumn) : s.ClauseOf path (.notNull field) (.present path)
  | geoShape {relation field geometry fieldFirst type} (hx : s.indexType? path = some type)
      (shape : Value) (sent : SpatialRelation) :
      s.ClauseOf path (.spatial relation field geometry fieldFirst) (.geoShape path shape sent)
  | geoBox {relation field geometry fieldFirst type} (hx : s.indexType? path = some type)
      (minX minY maxX maxY : Value) :
      s.ClauseOf path (.spatial relation field geometry fieldFirst)
        (.geoBox path minX minY maxX maxY)

namespace Schema

variable {s : Schema} {path : String} {c : Clause}

/-- A comparison comes to a term, its negation or a range. -/
theorem clauseOf_compare {op : CompareOp} {field : String} {constant : Value}
    (h : s.compareClause op path constant = .ok (some c)) :
    s.ClauseOf path (.compare op field constant) c := by
  rw [compareClause] at h
  cases hx : s.exactField path with
  | error e => simp [hx, bind, Except.bind] at h
  | ok target =>
      cases hv : queryConstant constant with
      | error e => simp [hx, hv, bind, Except.bind] at h
      | ok value =>
          cases value with
          | none => simp [hx, hv, bind, Except.bind, pure, Except.pure] at h
          | some value =>
              -- only equality and inequality come to terms; the others are bounds or have no clause
              cases op <;>
                simp only [hx, hv, bind, Except.bind, pure, Except.pure, CompareOp.bound?,
                  Except.ok.injEq, Option.some.injEq] at h
              case eq => exact h ▸ .equal hx hv
              case ne => exact h ▸ .unequal hx hv
              all_goals
                split at h
                · simp at h
                · rename_i hid
                  obtain rfl : _ = c := by simpa using h
                  exact .range hx hv rfl hid

/-- A membership comes to terms. -/
theorem clauseOf_among {field : String} {constants : List Value}
    (h : s.amongClause path constants = .ok (some c)) :
    s.ClauseOf path (.among field constants) c := by
  rw [amongClause] at h
  cases hx : s.exactField path with
  | error e => simp [hx, bind, Except.bind] at h
  | ok target =>
      cases hv : queryConstants constants with
      | error e => simp [hx, hv, bind, Except.bind] at h
      | ok values =>
          simp only [hx, hv, bind, Except.bind, pure, Except.pure] at h
          split at h
          · obtain rfl : Clause.terms target _ = c := by simpa using h
            exact .terms hx hv
          · simp at h

/-- A pattern comes to the clause of its tokens. -/
theorem clauseOf_pattern {field pattern escape : String} {ignoreCase : Bool}
    (h : s.patternClause path pattern ignoreCase escape = .ok (some c)) :
    s.ClauseOf path (.like field pattern ignoreCase escape) c := by
  rw [patternClause] at h
  cases hx : s.exactField path with
  | error e => simp [hx, bind, Except.bind] at h
  | ok target =>
      simp only [hx, bind, Except.bind, pure, Except.pure] at h
      split at h
      · simp at h
      · rename_i hid
        obtain rfl : likeClause target _ ignoreCase = c := by simpa using h
        exact .like hx hid

/-- A spatial relation comes to a shape or a box, on a path with an index type. -/
theorem clauseOf_spatial {relation : SpatialRelation} {field : String} {geometry : Value}
    {fieldFirst : Bool} (h : s.spatialClause relation path geometry fieldFirst = .ok (some c)) :
    s.ClauseOf path (.spatial relation field geometry fieldFirst) c := by
  rw [spatialClause] at h
  split at h
  · simp at h
  · rename_i hgeo
    -- what passes the check has one of the two index types
    obtain ⟨type, htype⟩ : ∃ type, s.indexType? path = some type := by
      cases htype : s.indexType? path with
      | none => simp [htype] at hgeo
      | some type => exact ⟨type, rfl⟩
    split at h
    · simp at h
    · generalize (if fieldFirst = true then relation else relation.swapped) = placed at h
      simp only at h
      split at h
      · split at h
        · simp at h
        · obtain rfl : Clause.geoBox path _ _ _ _ = c := by simpa using h
          exact .geoBox htype ..
        · obtain rfl : Clause.geoShape path _ _ = c := by simpa using h
          exact .geoShape htype ..
      · obtain rfl : Clause.geoShape path _ _ = c := by simpa using h
        exact .geoShape htype ..

/-- A test has a clause when its full path is neither empty nor residual and the test itself comes to
that clause. -/
theorem leafClause_eq_some {clause : Except Error (Option Clause)} :
    leafClause path clause = .ok (some c) ↔
      path ≠ "" ∧ path ∉ residualColumns ∧ clause = .ok (some c) := by
  rw [leafClause]
  by_cases hskip : path = "" ∨ residualColumns.contains path = true
  · rw [if_pos hskip]
    rw [List.contains_iff_mem] at hskip
    simp only [Except.ok.injEq, reduceCtorEq, false_iff]
    tauto
  · rw [if_neg hskip]
    rw [List.contains_iff_mem] at hskip
    tauto

/-- **Every leaf with a clause is a test with the clause of its kind**, on a full path that is neither
empty nor residual. -/
theorem clauseOf_translateLeaf {context : String} {p : Predicate}
    (h : s.translateLeaf context p = .ok (some c)) :
    ∃ field, p.subject? = some field ∧ Path.under context field ≠ "" ∧
      Path.under context field ∉ residualColumns ∧ s.ClauseOf (Path.under context field) p c := by
  cases p with
  | compare op field constant =>
      obtain ⟨hne, hresidual, h⟩ := leafClause_eq_some.1 h
      exact ⟨field, rfl, hne, hresidual, clauseOf_compare h⟩
  | among field constants =>
      obtain ⟨hne, hresidual, h⟩ := leafClause_eq_some.1 h
      exact ⟨field, rfl, hne, hresidual, clauseOf_among h⟩
  | like field pattern ignoreCase escape =>
      obtain ⟨hne, hresidual, h⟩ := leafClause_eq_some.1 h
      exact ⟨field, rfl, hne, hresidual, clauseOf_pattern h⟩
  | spatial relation field geometry fieldFirst =>
      obtain ⟨hne, hresidual, h⟩ := leafClause_eq_some.1 h
      exact ⟨field, rfl, hne, hresidual, clauseOf_spatial h⟩
  | isNull field =>
      obtain ⟨hne, hresidual, h⟩ := leafClause_eq_some.1 h
      refine ⟨field, rfl, hne, hresidual, ?_⟩
      split at h
      · simp at h
      · rename_i hid
        obtain rfl : Clause.mustNot (.present _) = c := by simpa using h
        exact .absent hid
  | notNull field =>
      obtain ⟨hne, hresidual, h⟩ := leafClause_eq_some.1 h
      refine ⟨field, rfl, hne, hresidual, ?_⟩
      split at h
      · simp at h
      · rename_i hid
        obtain rfl : Clause.present _ = c := by simpa using h
        exact .present hid
  | joined | member | unknown => simp [translateLeaf] at h

/-- The clause of a test is one of the leaf clauses. -/
theorem ClauseOf.leafClause {p : Predicate} (h : s.ClauseOf path p c) : s.LeafClause c := by
  cases h with
  | equal hx => exact .term _ false hx
  | unequal hx => exact .notTerm _ hx
  | range hx => exact .range _ _ hx
  | terms hx => exact .terms _ hx
  | like hx =>
      rw [likeClause]
      split
      · exact .term _ _ hx
      · split
        · exact .beginsWith _ _ hx
        · exact .wildcard _ _ hx
  | absent => exact .absent _
  | present => exact .present _
  | geoShape => exact .geoShape ..
  | geoBox => exact .geoBox ..

/-- Every leaf comes to one of the leaf clauses. -/
theorem leafClause_of_translateLeaf {context : String} {p : Predicate}
    (h : s.translateLeaf context p = .ok (some c)) : s.LeafClause c := by
  obtain ⟨field, -, -, -, hclause⟩ := clauseOf_translateLeaf h
  exact hclause.leafClause

end Schema

/-- Clauses that join to one are that clause alone, or stand side by side in it. -/
theorem joinClauses_eq_some {junction : Junction} {cs : List Clause} {c : Clause}
    (h : joinClauses junction cs = some c) :
    cs = [c] ∨ (junction = .all ∧ 2 ≤ cs.length ∧ c = .must cs) ∨
      (junction = .any ∧ 2 ≤ cs.length ∧ c = .should cs) := by
  match cs, junction with
  | [], _ => simp [joinClauses] at h
  | [d], _ =>
      obtain rfl : d = c := by simpa [joinClauses] using h
      exact .inl rfl
  | d :: e :: rest, .all => exact .inr (.inl ⟨rfl, by simp, (Option.some.inj h).symm⟩)
  | d :: e :: rest, .any => exact .inr (.inr ⟨rfl, by simp, (Option.some.inj h).symm⟩)

/-! ## The translator -/

namespace Translator

variable {t t' : Translator} {context : String} {found : Option Clause}

/-- The translator after something was translated, given whether all of that gave a clause. -/
def after (t : Translator) (pushed : Bool) : Translator :=
  { t with fullyPushed := t.fullyPushed && pushed }

@[simp] theorem after_schema (t : Translator) (pushed : Bool) :
    (t.after pushed).schema = t.schema := rfl

@[simp] theorem after_fullyPushed (t : Translator) (pushed : Bool) :
    (t.after pushed).fullyPushed = (t.fullyPushed && pushed) := rfl

@[simp] theorem after_true (t : Translator) : t.after true = t := by
  simp [after]

@[simp] theorem after_after (t : Translator) (a b : Bool) :
    (t.after a).after b = t.after (a && b) := by
  simp [after, Bool.and_assoc]

/-- Coming back up with an answer: the level is as before, and the flag tells whether there was a
clause. -/
theorem leave_note_after_enter (t : Translator) (pushed : Bool) (found : Option Clause) :
    ((t.enter.after pushed).leave.note (.ok found)) = t.after (pushed && found.isSome) := by
  cases found <;> simp [note, leave, after, enter]

/-- A leaf is answered one level down with the clause of its schema. -/
theorem translate_of_isLeaf {p : Predicate} (hp : p.isLeaf = true) :
    t.translate context p =
      if t.enter.tooDeep then (.error (.predicateTooDeep t.enter.maxDepth), t.enter)
      else (t.schema.translateLeaf context p,
        t.enter.leave.note (t.schema.translateLeaf context p)) := by
  cases p <;> simp_all [Predicate.isLeaf, translate, enter]

/-- A leaf that was translated has the clause of its schema. -/
theorem translate_leaf {p : Predicate} (hp : p.isLeaf = true)
    (h : t.translate context p = (.ok found, t')) :
    t.schema.translateLeaf context p = .ok found ∧ t' = t.after found.isSome := by
  rw [translate_of_isLeaf hp] at h
  split at h
  · simp at h
  · obtain ⟨hleaf, rfl⟩ := Prod.mk.inj h
    refine ⟨hleaf, ?_⟩
    have hback := leave_note_after_enter t true found
    rw [after_true, Bool.true_and] at hback
    rw [hleaf, hback]

/-- A member condition that was translated has the clause of what it asks of the member. -/
theorem translate_member {field : String} {inner : Predicate}
    (h : t.translate context (.member field inner) = (.ok found, t')) :
    ∃ u, t.enter.translate (Path.under context field) inner = (.ok found, u) ∧
      t' = u.leave.note (.ok found) := by
  simp only [translate] at h
  split at h
  · simp at h
  · rcases hinner : t.enter.translate (Path.under context field) inner with ⟨answer, u⟩
    rw [hinner] at h
    obtain ⟨rfl, rfl⟩ := Prod.mk.inj h
    exact ⟨u, rfl, rfl⟩

/-- A junction that was translated joins the clauses of its parts. -/
theorem translate_joined {junction : Junction} {parts : List Predicate}
    (h : t.translate context (.joined junction parts) = (.ok found, t')) :
    ∃ answers u, t.enter.translateParts context parts = (.ok answers, u) ∧
      found = joinParts junction answers ∧ t' = u.leave.note (.ok found) := by
  simp only [translate] at h
  split at h
  · simp at h
  · rcases hparts : t.enter.translateParts context parts with ⟨answer, u⟩
    rw [hparts] at h
    cases answer with
    | error e => simp [Except.map] at h
    | ok answers =>
        obtain ⟨hfound, rfl⟩ := Prod.mk.inj h
        obtain rfl : joinParts junction answers = found := by simpa [Except.map] using hfound
        exact ⟨answers, u, rfl, rfl, rfl⟩

/-- Parts that were translated were translated one after the other. -/
theorem translateParts_cons {p : Predicate} {rest : List Predicate} {answers : List (Option Clause)}
    (h : t.translateParts context (p :: rest) = (.ok answers, t')) :
    ∃ c cs u, t.translate context p = (.ok c, u) ∧ u.translateParts context rest = (.ok cs, t') ∧
      answers = c :: cs := by
  rw [translateParts] at h
  split at h
  · simp at h
  · rename_i c u hp
    split at h
    · simp at h
    · rename_i cs w hrest
      obtain ⟨hanswers, rfl⟩ := Prod.mk.inj h
      exact ⟨c, cs, u, hp, hrest, by simpa using hanswers.symm⟩

/-- What must be shown of the three rules of translation: of a predicate in a context, of the clause
that it is translated to, and of whether all of it gave a clause. -/
structure Rules (schema : Schema) (motive : String → Predicate → Option Clause → Bool → Prop) :
    Prop where
  leaf : ∀ {context p found}, p.isLeaf = true → schema.translateLeaf context p = .ok found →
    motive context p found found.isSome
  member : ∀ {context field inner found pushed},
    motive (Path.under context field) inner found pushed →
    motive context (.member field inner) found (pushed && found.isSome)
  joined : ∀ {context junction parts} {answers : List (Option Clause × Bool)},
    List.Forall₂ (fun p answer => motive context p answer.1 answer.2) parts answers →
    motive context (.joined junction parts) (joinParts junction (answers.map (·.1)))
      (answers.all (·.2) && (joinParts junction (answers.map (·.1))).isSome)

mutual

/-- **Induction over a translation.** What is kept by the rules holds of every predicate that is
translated. -/
theorem translate_induct {schema : Schema}
    {motive : String → Predicate → Option Clause → Bool → Prop}
    (rules : Rules schema motive) {t t' : Translator} {context : String} :
    ∀ {p : Predicate} {found : Option Clause}, t.schema = schema →
      t.translate context p = (.ok found, t') →
      ∃ pushed, t' = t.after pushed ∧ motive context p found pushed
  | .joined junction parts, found, hs, h => by
      -- the flag on the way up is that on the way down, with what the parts and the junction add
      obtain ⟨answers, u, hparts, rfl, rfl⟩ := translate_joined h
      obtain ⟨marked, rfl, rfl, hmarked⟩ := translateParts_induct rules (t := t.enter) hs hparts
      exact ⟨_, leave_note_after_enter t _ _, rules.joined hmarked⟩
  | .member field inner, found, hs, h => by
      obtain ⟨u, hinner, rfl⟩ := translate_member h
      obtain ⟨pushed, rfl, hp⟩ := translate_induct rules (t := t.enter) hs hinner
      exact ⟨_, leave_note_after_enter t _ _, rules.member hp⟩
  -- what is neither a junction nor a member condition is a leaf
  | .compare .., _, hs, h | .among .., _, hs, h | .isNull _, _, hs, h | .notNull _, _, hs, h
  | .like .., _, hs, h | .spatial .., _, hs, h | .unknown _, _, hs, h => by
      obtain ⟨hleaf, rfl⟩ := translate_leaf rfl h
      exact ⟨_, rfl, rules.leaf rfl (hs ▸ hleaf)⟩

/-- Induction over the translation of several predicates. -/
theorem translateParts_induct {schema : Schema}
    {motive : String → Predicate → Option Clause → Bool → Prop} (rules : Rules schema motive)
    {t t' : Translator} {context : String} :
    ∀ {parts : List Predicate} {answers : List (Option Clause)}, t.schema = schema →
      t.translateParts context parts = (.ok answers, t') →
      ∃ marked : List (Option Clause × Bool), answers = marked.map (·.1) ∧
        t' = t.after (marked.all (·.2)) ∧
        List.Forall₂ (fun p answer => motive context p answer.1 answer.2) parts marked
  | [], answers, hs, h => by
      obtain ⟨rfl, rfl⟩ : [] = answers ∧ t = t' := by simpa [translateParts] using h
      exact ⟨[], rfl, by simp, .nil⟩
  | p :: rest, answers, hs, h => by
      obtain ⟨c, cs, u, hp, hrest, rfl⟩ := translateParts_cons h
      obtain ⟨pushed, rfl, hc⟩ := translate_induct rules hs hp
      obtain ⟨marked, rfl, rfl, hmarked⟩ :=
        translateParts_induct rules (t := t.after pushed) hs hrest
      exact ⟨(c, pushed) :: marked, rfl, by simp, .cons hc hmarked⟩

end

/-- Conditions by column that were translated were translated one after the other. -/
theorem translateColumns_cons {name : String} {p : Predicate} {rest : List (String × Predicate)}
    {clauses : List Clause} (h : translateColumns t ((name, p) :: rest) = (.ok clauses, t')) :
    ∃ c cs u, t.translate (t.schema.pathOf name) p = (.ok c, u) ∧
      translateColumns u rest = (.ok cs, t') ∧
      clauses = c.toList ++ cs := by
  rw [translateColumns] at h
  split at h
  · simp at h
  · rename_i c u hp
    split at h
    · simp at h
    · rename_i cs w hrest
      obtain ⟨hclauses, rfl⟩ := Prod.mk.inj h
      exact ⟨c, cs, u, hp, hrest, by simpa using hclauses.symm⟩

/-- Induction over the translation of conditions by column, each in the context of its column. -/
theorem translateColumns_induct {schema : Schema}
    {motive : String → Predicate → Option Clause → Bool → Prop} (rules : Rules schema motive)
    {items : List (String × Predicate)} {t t' : Translator} {clauses : List Clause}
    (hs : t.schema = schema)
    (h : translateColumns t items = (.ok clauses, t')) :
    ∃ marked : List (Option Clause × Bool), clauses = (marked.map (·.1)).filterMap id ∧
      t' = t.after (marked.all (·.2)) ∧
      List.Forall₂ (fun item answer => motive (schema.pathOf item.1) item.2 answer.1 answer.2) items
        marked := by
  induction items generalizing t clauses with
  | nil =>
      obtain ⟨rfl, rfl⟩ : [] = clauses ∧ t = t' := by simpa [translateColumns] using h
      exact ⟨[], rfl, by simp, .nil⟩
  | cons item rest ih =>
      obtain ⟨c, cs, u, hp, hrest, rfl⟩ := translateColumns_cons h
      obtain ⟨pushed, rfl, hc⟩ := translate_induct rules hs hp
      obtain ⟨marked, rfl, rfl, hmarked⟩ := ih (t := t.after pushed) hs hrest
      refine ⟨(c, pushed) :: marked, ?_, by simp, .cons (hs ▸ hc) hmarked⟩
      cases c <;> simp

end Translator
end SearchTables
