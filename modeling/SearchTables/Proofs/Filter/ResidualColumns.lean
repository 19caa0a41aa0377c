import SearchTables.Proofs.Filter.Demands
import SearchTables.Proofs.Mapping.Resolution
import SearchTables.Proofs.Path

/-! # Residual columns — what a query may ask of them, and of what lies beneath them

Residual columns are on the side of the table only: the index has no such fields, and none beneath
them either. The translator turns tests **on** a residual column away. A test **beneath** one is not
recognized: it is pushed like a test of any undeclared field, unless its constants have no wording.
-/

namespace SearchTables

/-- Whether a path lies beneath a residual column. -/
def BeneathResidual (path : String) : Prop := ∃ column ∈ residualColumns, Path.Above column path

/-- Whether a test has no wording in a query on an undeclared field: its constants have none, or it
is on geometries. -/
def Predicate.Unworded : Predicate → Prop
  | .compare _ _ constant => queryConstant constant = .ok none
  | .among _ constants => queryConstants constants = .ok none ∨ queryConstants constants = .ok (some [])
  | .spatial .. => True
  | _ => False

/-- What lies beneath a residual column is no name. -/
theorem BeneathResidual.ne_of_dotless {path name : String} (h : BeneathResidual path)
    (hname : '.' ∉ name.toList) : path ≠ name := by
  rintro rfl
  obtain ⟨column, -, habove⟩ := h
  exact Path.not_above_of_dotless hname habove

/-- The residual columns have no dots in their names. -/
theorem dotless_of_mem_residualColumns : ∀ column ∈ residualColumns, '.' ∉ column.toList := by
  decide

/-- Of two paths one above the other, the upper one is on or beneath a residual column if the lower
one is. -/
theorem onResidual_of_above {path other : String} (h : Path.Above path other)
    (hother : other ∈ residualColumns ∨ BeneathResidual other) :
    path ∈ residualColumns ∨ BeneathResidual path := by
  rcases hother with hother | ⟨column, hcolumn, habove⟩
  · exact absurd h (Path.not_above_of_dotless (dotless_of_mem_residualColumns other hother))
  · rcases Path.eq_or_above_of_dotless (dotless_of_mem_residualColumns column hcolumn) habove h with
      rfl | habove
    · exact .inl hcolumn
    · exact .inr ⟨column, hcolumn, habove⟩

namespace Schema

variable {s : Schema} {context : String} {p : Predicate}

/-- A schema **leaves the residual columns alone** when it maps no path on or beneath them. -/
def LeavesResidualAlone (s : Schema) : Prop :=
  ∀ path ∈ s.mappedPaths, ¬ (path ∈ residualColumns ∨ BeneathResidual path)

/-- A comparison on a field other than the id has a clause unless its constant has no wording. -/
theorem compareClause_eq_none_iff {op : CompareOp} {path target : String} {constant : Value}
    (hx : s.exactField path = .ok target) (hid : path ≠ idColumn) :
    s.compareClause op path constant = .ok none ↔ queryConstant constant = .ok none := by
  rw [compareClause, hx]
  cases queryConstant constant with
  | error e => simp [bind, Except.bind]
  | ok found =>
      cases found with
      | none => simp [bind, Except.bind, pure, Except.pure]
      | some value => cases op <;> simp [bind, Except.bind, pure, Except.pure, CompareOp.bound?, hid]

/-- A membership has a clause unless its constants have no wording or there are none. -/
theorem amongClause_eq_none_iff {path target : String} {constants : List Value}
    (hx : s.exactField path = .ok target) :
    s.amongClause path constants = .ok none ↔
      queryConstants constants = .ok none ∨ queryConstants constants = .ok (some []) := by
  rw [amongClause, hx]
  cases queryConstants constants with
  | error e => simp [bind, Except.bind]
  | ok found =>
      rcases found with _ | _ | ⟨value, values⟩ <;> simp [bind, Except.bind, pure, Except.pure]

/-- A test on a residual column has no clause. -/
theorem translateLeaf_of_residual {field : String} (hfield : p.subject? = some field)
    (hresidual : Path.under context field ∈ residualColumns) :
    s.translateLeaf context p = .ok none := by
  have hskip : ∀ clause : Except Error (Option Clause),
      leafClause (Path.under context field) clause = .ok none :=
    fun clause => if_pos (.inr (List.contains_iff_mem.2 hresidual))
  cases p with
  | joined | member | unknown => cases hfield
  | _ =>
      obtain rfl := Option.some.inj hfield
      exact hskip _

/-- **A test beneath a residual column has no clause only if it has no wording.** -/
theorem translateLeaf_of_beneath (hs : s.OnMappedPaths) (hfree : s.LeavesResidualAlone)
    {field : String} (hfield : p.subject? = some field)
    (hbeneath : BeneathResidual (Path.under context field)) :
    s.translateLeaf context p = .ok none ↔ p.Unworded := by
  -- the path passes the guard and stands in no table
  have hasked : ∀ clause : Except Error (Option Clause),
      leafClause (Path.under context field) clause = clause := by
    intro clause
    refine if_neg (not_or.2 ⟨hbeneath.ne_of_dotless (by decide), fun hresidual => ?_⟩)
    exact hbeneath.ne_of_dotless
      (dotless_of_mem_residualColumns _ (List.contains_iff_mem.1 hresidual)) rfl
  have hid : Path.under context field ≠ idColumn := hbeneath.ne_of_dotless (by decide)
  have hunmapped : Path.under context field ∉ s.mappedPaths :=
    fun hmapped => hfree _ hmapped (.inr hbeneath)
  have htarget : s.exactField (Path.under context field) = .ok (Path.under context field) :=
    if_neg fun hfull => hunmapped (hs.fullText _ hfull)
  have htype : s.indexType? (Path.under context field) = none :=
    Option.eq_none_iff_forall_ne_some.2 fun type htype => hunmapped (hs.types _ type htype)
  cases p with
  | joined | member | unknown => cases hfield
  | compare op =>
      obtain rfl := Option.some.inj hfield
      rw [translateLeaf, hasked, compareClause_eq_none_iff htarget hid, Predicate.Unworded]
  | among =>
      obtain rfl := Option.some.inj hfield
      rw [translateLeaf, hasked, amongClause_eq_none_iff htarget, Predicate.Unworded]
  | isNull | notNull =>
      obtain rfl := Option.some.inj hfield
      simp [translateLeaf, hasked, hid, Predicate.Unworded]
  | like =>
      obtain rfl := Option.some.inj hfield
      simp [translateLeaf, hasked, patternClause, htarget, hid, bind, Except.bind, pure,
        Except.pure, Predicate.Unworded]
  | spatial =>
      obtain rfl := Option.some.inj hfield
      simp [translateLeaf, hasked, spatialClause, htype, Predicate.Unworded]

end Schema

/-! ## Translated queries -/

section Translated

variable {s : Schema}

/-- A demand is not on a residual column, and where it or its leaf is beneath one the two are on the
same path. -/
def Demand.PassesGuard (d : Demand) (node : String × Predicate) : Prop :=
  ∃ field, node.2.subject? = some field ∧ d.field ∉ residualColumns ∧
    (d.field = Path.under node.1 field ∨
      ¬ BeneathResidual d.field ∧ ¬ BeneathResidual (Path.under node.1 field))

/-- The demand of a test passes the guard. -/
theorem Schema.ClauseOf.passesGuard (hs : s.OnMappedPaths) (hfree : s.LeavesResidualAlone)
    {context field : String} {p : Predicate} {c : Clause} (hfield : p.subject? = some field)
    (hresidual : Path.under context field ∉ residualColumns)
    (h : s.ClauseOf (Path.under context field) p c) :
    ∃ d, c.demands = [d] ∧ d.PassesGuard (context, p) := by
  obtain ⟨-, d, hd, field, hfield', hserved, -⟩ := h.inForm hfield
  obtain rfl := Option.some.inj (hfield.symm.trans hfield')
  refine ⟨d, hd, field, hfield, ?_⟩
  rcases hserved with hpath | hcompanion
  · exact ⟨hpath ▸ hresidual, .inl hpath⟩
  · -- a companion lies beneath a mapped path, and that is not on or beneath a residual column
    obtain ⟨hmapped, habove⟩ := hs.companions _ _ hcompanion
    have hneither : ¬ (d.field ∈ residualColumns ∨ BeneathResidual d.field) :=
      fun hon => hfree _ hmapped (onResidual_of_above habove hon)
    exact ⟨fun hd => hneither (.inl hd), .inr ⟨fun hd => hneither (.inr hd),
      fun hpath => hfree _ hmapped (.inr hpath)⟩⟩

end Translated

/-- **Tests on residual columns are left behind, those beneath them are not.** In a schema that maps
no path on or beneath a residual column, a translated query demands nothing of the residual columns
themselves, and whatever it demands beneath them is demanded by a test of that very path. A test on a
residual column keeps the predicate from being fully pushed; a test beneath one has no clause only
if its constants have no wording or it is on geometries. -/
theorem pushed_beneath_residual {τ : Type} {service : ClusterService τ} {index : String}
    {baseQuery : Option Json} {settings : ScanSettings} {state last : τ} {t t' : Translator}
    (hschema : resolveSchema service index baseQuery settings state = (.ok t.schema, last))
    (hfree : t.schema.LeavesResidualAlone) {context : String} {p : Predicate}
    {found : Option Clause} (h : t.translate context p = (.ok found, t')) :
    (∀ query ∈ found,
      List.SublistForall₂ Demand.PassesGuard query.demands (p.leafNodes context)) ∧
    ∀ node ∈ p.leafNodes context, ∀ field, node.2.subject? = some field →
      (Path.under node.1 field ∈ residualColumns → t'.fullyPushed = false) ∧
      (BeneathResidual (Path.under node.1 field) →
        (t.schema.translateLeaf node.1 node.2 = .ok none ↔ node.2.Unworded)) := by
  have hs := onMappedPaths_of_resolveSchema hschema
  obtain ⟨-, -, hquery⟩ := Translator.translate_induct
    (accountedFor_rules Demand.PassesGuard fun hfield hresidual hclause =>
      hclause.passesGuard hs hfree hfield hresidual) rfl h
  obtain ⟨pushed, rfl, -, hpushed⟩ := Translator.translate_induct (answers_rules t.schema) rfl h
  refine ⟨fun query hfound => (hquery query hfound).served, fun node hnode field hfield => ?_⟩
  obtain ⟨hnode, hleaf⟩ := List.mem_filter.1 hnode
  refine ⟨fun hresidual => ?_, Schema.translateLeaf_of_beneath hs hfree hfield⟩
  -- one leaf that is left behind is enough for the flag to fall
  have hlost : pushed = false := by
    rw [← Bool.not_eq_true]
    intro hall
    exact hpushed.1 hall node hnode (.inl ⟨hleaf, Schema.translateLeaf_of_residual hfield hresidual⟩)
  rw [Translator.after_fullyPushed, hlost, Bool.and_false]

/-- A cluster with one index, which declares one field and holds no documents. -/
def bareCluster : ClusterService Unit where
  mapping _ := pure (.obj [("docs", .obj [("mappings", .obj [("properties", .obj
    [("x", .obj [("type", .str "keyword")])])])])])
  scrolls :=
    { start := fun _ => pure ⟨none, []⟩
      next := fun _ _ => pure ⟨none, []⟩
      release := fun _ => pure true
      log := fun _ state => state }

/-- A conjunction on an index with one field: the test beneath a residual column is pushed, the one on
a residual column is left behind. -/
theorem pushed_beneath_residual_half :
    let p : Predicate := .joined .all
      [.compare .eq "x" (.str "1"), .member "_unmapped_" (.notNull "y"), .isNull "_source"]
    let query : Clause := .must [.term "x" (.str "1") false, .present "_unmapped_.y"]
    ∃ schema, resolveSchema bareCluster "docs" none {} () = (.ok schema, ()) ∧
      schema.LeavesResidualAlone ∧ ∃ t', Translator.translate { schema } "" p = (.ok (some query), t') ∧
        List.SublistForall₂ Demand.PassesGuard query.demands (p.leafNodes "") ∧
        t'.fullyPushed = false := by
  intro p query
  obtain ⟨schema, hschema, hmapped, t', h⟩ : ∃ schema,
      resolveSchema bareCluster "docs" none {} () = (.ok schema, ()) ∧ schema.mappedPaths = ["x"] ∧
        ∃ t', Translator.translate { schema } "" p = (.ok (some query), t') :=
    ⟨_, rfl, rfl, _, rfl⟩
  have hfree : schema.LeavesResidualAlone := by
    rw [Schema.LeavesResidualAlone, hmapped, List.forall_mem_singleton]
    exact not_or.2 ⟨by decide, fun hbeneath => hbeneath.ne_of_dotless (by decide) rfl⟩
  obtain ⟨hserved, hleaves⟩ := pushed_beneath_residual (t := { schema }) hschema hfree h
  refine ⟨schema, hschema, hfree, t', h, hserved query rfl, ?_⟩
  have hsource : ("", Predicate.isNull "_source") ∈ p.leafNodes "" := by
    simp [p, Predicate.leafNodes, Predicate.nodes, Predicate.nodesOfParts, Predicate.isLeaf]
  exact (hleaves _ hsource "_source" rfl).1 (by decide)

/-- A test of a member of the unmapped column is pushed as it stands, and counts as fully pushed. -/
theorem member_of_unmapped_pushed :
    ∃ schema, resolveSchema bareCluster "docs" none {} () = (.ok schema, ()) ∧
      schema.LeavesResidualAlone ∧ ∃ t',
        Translator.translate { schema } "" (.member "_unmapped_" (.notNull "y")) =
          (.ok (some (.present "_unmapped_.y")), t') ∧
        t'.fullyPushed = true ∧ BeneathResidual "_unmapped_.y" := by
  refine ⟨_, rfl, ?_, _, rfl, rfl, "_unmapped_", by decide, "y", by decide⟩
  change ∀ path ∈ ["x"], _
  rw [List.forall_mem_singleton]
  exact not_or.2 ⟨by decide, fun hbeneath => hbeneath.ne_of_dotless (by decide) rfl⟩

end SearchTables
