import SearchTables.Proofs.Expression.Names
import SearchTables.Proofs.Filter.Agreement
import SearchTables.Proofs.Mapping.Resolution
import SearchTables.Proofs.Row.Typing
import SearchTables.Proofs.Scan.Decoding
import SearchTables.Session

/-! # Local checks — the row on which a condition is checked

A condition that the index cannot answer is checked on every hit, by a row of its own: whichever
columns are asked for, this row has the id and the declared columns. The column of what no mapping
declares is an output column, but it is not one of these. So a scan returns the rows of the hits whose
output row satisfies the condition, as long as the condition does not name that column, and one that
names it is checked without it. -/

namespace SearchTables

/-- What is put has the names of the pairs. -/
theorem map_fst_membersOf_subset {α : Type} (pairs : List (String × α)) :
    (membersOf pairs).map (·.1) ⊆ pairs.map (·.1) := by
  induction pairs using List.reverseRecOn with
  | nil => exact List.Subset.refl _
  | append_singleton pairs m ih =>
      obtain ⟨n, v⟩ := m
      intro name hname
      rw [membersOf_concat, map_fst_insertMember, mem_insertNew] at hname
      rw [List.map_append, List.mem_append]
      rcases hname with rfl | hname
      · exact .inr (List.mem_singleton_self _)
      · exact .inl (ih hname)

/-! ## Rows with and without the residual -/

/-- The columns of the row on which a condition is checked: the id and the declared columns. -/
def Schema.checkedColumns (schema : Schema) : List String := idColumn :: schema.columns.map (·.name)

/-- The row of a hit with some columns. -/
def Schema.rowOf (schema : Schema) (columns : List String) (hit : Json) : Except Error Row := do
  let decoder ← RowDecoder.create columns schema
  decoder.decode hit

/-- Whether a filter keeps a hit by its row with some columns. -/
def RowFilter.keepsHit (f : RowFilter) (schema : Schema) (columns : List String) (hit : Json) :
    Except Error Bool := do
  let row ← schema.rowOf columns hit
  f.keeps row

namespace RowDecoder

variable {schema : Schema} {members : List (String × Json)}

/-- The cell of what no mapping declares. -/
def residualCell (schema : Schema) (members : List (String × Json)) : Value :=
  match (PathSet.ofMapped schema.mappedPaths).residual "" (sourceOfHit members) with
  | [] => .null
  | found => .str (Json.obj found).compact

/-- A decoder of columns of a schema takes the residual cell from a hit. -/
theorem cell_residual {d : RowDecoder} (hpaths : d.paths = .ofMapped schema.mappedPaths)
    (members : List (String × Json)) :
    d.cell .residual members = .ok (residualCell schema members) := by
  rw [residualCell, cell, hpaths]
  cases (PathSet.ofMapped schema.mappedPaths).residual "" (sourceOfHit members) <;> rfl

/-- The residual cell has a datum. -/
theorem exists_ofValue_residualCell (schema : Schema) (members : List (String × Json)) :
    ∃ d, Datum.ofValue (residualCell schema members) = .ok d := by
  rw [residualCell]
  split <;> exact ⟨_, rfl⟩

/-- The residual column takes its cells from the residual. -/
theorem sourceOf_unmappedColumn (schema : Schema) :
    sourceOf schema unmappedColumn = .ok .residual := rfl

/-- The sources of columns with the residual column after them. -/
theorem sourcesOf_concat (schema : Schema) (names : List String) :
    sourcesOf schema (names ++ [unmappedColumn]) =
      (sourcesOf schema names).map (· ++ [(unmappedColumn, .residual)]) := by
  induction names with
  | nil => rfl
  | cons name names ih =>
      rw [List.cons_append, sourcesOf, sourcesOf, ih]
      cases sourceOf schema name with
      | error e => rfl
      | ok origin => cases sourcesOf schema names <;> rfl

/-- The cells of columns with the residual column after them. -/
theorem cells_concat {d : RowDecoder} (hpaths : d.paths = .ofMapped schema.mappedPaths)
    (members : List (String × Json)) (sources : List (String × CellSource)) :
    d.cells members (sources ++ [(unmappedColumn, .residual)]) =
      (d.cells members sources).map (· ++ [(unmappedColumn, residualCell schema members)]) := by
  induction sources with
  | nil =>
      simp only [List.nil_append, cells, cell_residual hpaths]
      rfl
  | cons origin sources ih =>
      obtain ⟨name, origin⟩ := origin
      rw [List.cons_append, cells, cells, ih]
      cases d.cell origin members with
      | error e => rfl
      | ok found => cases d.cells members sources <;> rfl

/-- Cells have the names of their columns, and one in the residual column is the residual cell. -/
theorem cells_of_sourcesOf {d : RowDecoder} (hpaths : d.paths = .ofMapped schema.mappedPaths)
    {names : List String} {sources : List (String × CellSource)}
    {found : List (String × Value)} (hsources : sourcesOf schema names = .ok sources)
    (hcells : d.cells members sources = .ok found) :
    found.map (·.1) = names ∧
      ∀ v, (unmappedColumn, v) ∈ found → v = residualCell schema members := by
  induction names generalizing sources found with
  | nil =>
      obtain rfl := Except.ok.inj hsources
      obtain rfl := Except.ok.inj hcells
      exact ⟨rfl, by simp⟩
  | cons name names ih =>
      obtain ⟨origin, horigin, hsources⟩ := bind_eq_ok.1 hsources
      obtain ⟨rest, hrest, hsources⟩ := bind_eq_ok.1 hsources
      obtain rfl := pure_eq_ok.1 hsources
      obtain ⟨v, hv, hcells⟩ := bind_eq_ok.1 hcells
      obtain ⟨vs, hvs, hcells⟩ := bind_eq_ok.1 hcells
      obtain rfl := pure_eq_ok.1 hcells
      obtain ⟨hnames, hresidual⟩ := ih hrest hvs
      refine ⟨by rw [List.map_cons, hnames], fun w hw => ?_⟩
      rcases List.mem_cons.1 hw with hw | hw
      · obtain ⟨rfl, rfl⟩ := Prod.mk.inj hw
        -- the column of this name always shows the residual
        obtain rfl := Except.ok.inj (horigin.symm.trans (sourceOf_unmappedColumn schema))
        exact Except.ok.inj (hv.symm.trans (cell_residual hpaths members))
      · exact hresidual w hw

/-- Cells do not depend on the other columns of a decoder. -/
theorem cells_columns (d : RowDecoder) (columns : List (String × CellSource))
    (members : List (String × Json)) (sources : List (String × CellSource)) :
    cells { d with columns } members sources = d.cells members sources := by
  induction sources with
  | nil => rfl
  | cons source sources ih =>
      obtain ⟨name, origin⟩ := source
      rw [cells, cells, ih]
      cases origin <;> rfl

end RowDecoder

namespace Schema

variable {schema : Schema} {members : List (String × Json)} {columns : List String} {row : Row}

/-- **The output row of a hit is its row with the residual cell put last.** -/
theorem rowOf_concat (schema : Schema) (columns : List String) (members : List (String × Json)) :
    schema.rowOf (columns ++ [unmappedColumn]) (.obj members) =
      (schema.rowOf columns (.obj members)).map
        (insertMember unmappedColumn (RowDecoder.residualCell schema members)) := by
  rw [rowOf, rowOf, RowDecoder.create, RowDecoder.create, RowDecoder.sourcesOf_concat]
  cases RowDecoder.sourcesOf schema columns with
  | error e => rfl
  | ok sources =>
      let d : RowDecoder := ⟨sources, .ofMapped schema.mappedPaths, schema.pathTypes⟩
      show RowDecoder.decode { d with columns := sources ++ [(unmappedColumn, .residual)] } _ =
        (d.decode _).map _
      rw [RowDecoder.decode_obj, RowDecoder.decode_obj, RowDecoder.cells_columns,
        RowDecoder.cells_concat rfl]
      show _ = ((d.cells members sources).map membersOf).map _
      cases d.cells members sources with
      | error e => rfl
      | ok found => exact congrArg Except.ok (membersOf_concat ..)

/-- What is no object has no row, with the residual column or without it. -/
theorem rowOf_concat_of_not_obj {hit : Json} (hhit : ∀ members, hit ≠ .obj members) (schema : Schema)
    (column : String) (columns : List String) :
    schema.rowOf (column :: columns ++ [unmappedColumn]) hit =
      schema.rowOf (column :: columns) hit := by
  rw [rowOf, rowOf, RowDecoder.create, RowDecoder.create, RowDecoder.sourcesOf_concat]
  cases hsources : RowDecoder.sourcesOf schema (column :: columns) with
  | error e => rfl
  | ok sources =>
      -- only a decoder without columns has a row for what is no object
      have hne : sources ≠ [] := by
        obtain ⟨origin, -, hsources⟩ := bind_eq_ok.1 hsources
        obtain ⟨rest, -, hsources⟩ := bind_eq_ok.1 hsources
        obtain rfl := pure_eq_ok.1 hsources
        exact List.cons_ne_nil _ _
      let d : RowDecoder := ⟨sources, .ofMapped schema.mappedPaths, schema.pathTypes⟩
      show RowDecoder.decode { d with columns := sources ++ [(unmappedColumn, .residual)] } hit =
        d.decode hit
      rw [RowDecoder.decode_of_not_obj (List.append_ne_nil_of_left_ne_nil hne _) hhit,
        RowDecoder.decode_of_not_obj hne hhit]

/-- A row with some columns is made of cells that have the names of the columns. -/
theorem exists_cells_of_rowOf (h : schema.rowOf columns (.obj members) = .ok row) :
    ∃ found : List (String × Value), found.map (·.1) = columns ∧
      (∀ v, (unmappedColumn, v) ∈ found → v = RowDecoder.residualCell schema members) ∧
      row = membersOf found := by
  obtain ⟨d, hd, hrow⟩ := bind_eq_ok.1 h
  obtain ⟨sources, hsources, hd⟩ := bind_eq_ok.1 hd
  obtain rfl := pure_eq_ok.1 hd
  rw [RowDecoder.decode_obj] at hrow
  obtain ⟨found, hfound, rfl⟩ := map_eq_ok.1 hrow
  obtain ⟨hnames, hresidual⟩ := RowDecoder.cells_of_sourcesOf rfl hsources hfound
  exact ⟨found, hnames, hresidual, rfl⟩

end Schema

/-! ## What a filter keeps -/

namespace RowFilter

variable {f : RowFilter} {schema : Schema}

/-- **A filter that does not name the residual column** keeps a hit by its checked row as by its
output row. So does every filter when a declared column has the name of the residual one. -/
theorem keepsHit_outputColumns
    (h : unmappedColumn ∉ f.expression.names ∨ unmappedColumn ∈ schema.columns.map (·.name))
    (hit : Json) :
    f.keepsHit schema schema.outputColumns hit = f.keepsHit schema schema.checkedColumns hit := by
  have hcolumns : schema.outputColumns = schema.checkedColumns ++ [unmappedColumn] := rfl
  rw [keepsHit, keepsHit, hcolumns]
  by_cases hobj : ∃ members, hit = .obj members
  · obtain ⟨members, rfl⟩ := hobj
    rw [Schema.rowOf_concat]
    cases hrow : schema.rowOf schema.checkedColumns (.obj members) with
    | error e => rfl
    | ok row =>
        obtain ⟨found, hnames, hresidual, rfl⟩ := Schema.exists_cells_of_rowOf hrow
        show f.keeps (insertMember _ _ _) = f.keeps _
        by_cases hdeclared : unmappedColumn ∈ found.map (·.1)
        · -- a declared column of this name takes its cells from the residual, too
          rw [insertMember_of_lookup (lookup_membersOf hdeclared hresidual)]
        · -- the cell comes last, under a name that the expression does not use
          have hnew := fun hin => hdeclared (map_fst_membersOf_subset found hin)
          rw [insertMember_of_notMem hnew]
          obtain ⟨d, hd⟩ := RowDecoder.exists_ofValue_residualCell schema members
          refine keeps_concat hd (columnNames?_of_isName rfl) ?_ _
          rintro _ ⟨⟩
          refine h.resolve_right fun hin => hdeclared ?_
          rw [hnames]
          exact List.mem_cons_of_mem _ hin
  · have hhit : ∀ members, hit ≠ .obj members := fun members heq => hobj ⟨members, heq⟩
    rw [Schema.checkedColumns, Schema.rowOf_concat_of_not_obj hhit]

end RowFilter

/-- No scope of a checked row has the name of the residual column, if no declared column begins with
it. -/
theorem lookup_unmappedColumn {schema : Schema}
    (h : ∀ c ∈ schema.columns, ∀ rest, columnNames? c.name ≠ some (unmappedColumn :: rest))
    {members : List (String × Json)} {row : Row} {scope : Scope}
    (hrow : schema.rowOf schema.checkedColumns (.obj members) = .ok row)
    (hscope : rowScope row = .ok scope) : scope.lookup unmappedColumn = none := by
  obtain ⟨found, hnames, -, rfl⟩ := Schema.exists_cells_of_rowOf hrow
  obtain ⟨cells, hcells, hbind⟩ := bind_eq_ok.1 hscope
  obtain ⟨hkeys, -⟩ := lookup_rowData hcells
  refine lookup_bindCells_of_ne (fun column hcolumn => ?_) hbind
  rw [hkeys] at hcolumn
  have hin := map_fst_membersOf_subset found hcolumn
  rw [hnames, Schema.checkedColumns, List.mem_cons, List.mem_map] at hin
  rcases hin with rfl | ⟨c, hc, rfl⟩
  · intro rest hrest
    have hid := Option.some.inj ((columnNames?_of_isName rfl).symm.trans hrest)
    exact absurd (List.cons.inj hid).1 (by decide)
  · exact h c hc

/-! ## Scans -/

/-- A condition that the index cannot answer is checked locally, if it can be. -/
theorem conditionFilters_of_read {text : String} {e : Expression}
    (hread : Expression.read? text = some e) (hne : text ≠ "")
    (hspatial : RowFilter.spatialNames e = []) {p : Predicate}
    (hp : e.toPredicate defaultMaxDepth = .ok p) {schema : Schema} {translation : Translation}
    (ht : translateFilters (.row p) schema = .ok translation)
    (hpushed : translation.fullyPushed = false) (filters : Filters) :
    conditionFilters filters text schema = .ok (filters.with p schema, some ⟨text, e⟩) := by
  rw [conditionFilters, if_neg hne, parseFilter_of_read hread, hp]
  show (do
    let translation ← translateFilters (.row p) schema
    if translation.fullyPushed then pure (filters.with p schema, none)
    else do
      let rowFilter ← RowFilter.create text
      pure (filters.with p schema, some rowFilter)) = _
  rw [ht, RowFilter.create_of_read hread hspatial]
  show (if translation.fullyPushed then _ else _) = _
  rw [hpushed]
  rfl

/-- A condition that is checked locally is checked as it is written. -/
theorem read_of_conditionFilters {filters pushed : Filters} {condition : String} {schema : Schema}
    {f : RowFilter} (h : conditionFilters filters condition schema = .ok (pushed, some f)) :
    f.text = condition ∧ Expression.read? condition = some f.expression := by
  unfold conditionFilters at h
  split at h
  · cases h
  · obtain ⟨predicate, -, h⟩ := bind_eq_ok.1 h
    obtain ⟨translation, -, h⟩ := bind_eq_ok.1 h
    split at h
    · cases h
    · obtain ⟨g, hg, h⟩ := bind_eq_ok.1 h
      obtain rfl := Option.some.inj (Prod.mk.inj (Except.ok.inj h)).2
      unfold RowFilter.create at hg
      split at hg
      · cases hg
      · next e hread =>
          split at hg
          · obtain rfl := Except.ok.inj hg
            exact ⟨rfl, hread⟩
          · cases hg

/-- A request that was worked out with a row filter fetches whole documents. -/
theorem ScanOrder.projection_of_compile {order : ScanOrder} {schema : Schema} {index : String}
    {settings : ScanSettings} {r : ScanRequest} (h : order.compile schema index settings = .ok r)
    (hfilter : order.rowFilter.isSome = true) : r.projection = .whole := by
  simp only [compile, bind_eq_ok, hfilter, if_true] at h
  obtain ⟨_, -, _, -, _, -, _, -, projection, hprojection, hr⟩ := h
  obtain rfl := pure_eq_ok.1 hprojection
  obtain rfl := pure_eq_ok.1 hr
  rfl

namespace Session

variable {τ : Type} {s : Session} {log : LogRecord → τ → τ} {bound : BoundIndex} {wish : ScanWish}
  {filters : Filters} {scan : Scan} {state state' : τ}

/-- What a scan of a session comes to is worked out from its order. -/
theorem scan_fst {rowFilter : Option RowFilter}
    (hcondition : conditionFilters wish.filters wish.condition bound.schema =
      .ok (filters, rowFilter)) (s : Session) (log : LogRecord → τ → τ) (state : τ) :
    (s.scan log bound wish state).1 = (do
      let r ← (order bound wish filters rowFilter).compile bound.schema bound.index s.settings
      Scan.create r bound.schema) := by
  rw [Session.scan, hcondition]
  cases rowFilter with
  | none =>
      show ((do
        let request ← (order bound wish filters none).compile bound.schema bound.index s.settings
        Scan.create request bound.schema : Task τ Scan) state).1 = _
      cases (order bound wish filters none).compile bound.schema bound.index s.settings <;> rfl
  | some f =>
      show ((do
        let request ← (order bound wish filters (some f)).compile bound.schema bound.index s.settings
        Scan.create request bound.schema : Task τ Scan) _).1 = _
      cases (order bound wish filters (some f)).compile bound.schema bound.index s.settings <;> rfl

/-- What a request asks for whose condition is **checked locally**: the columns, the limit and the
offset of the wish, of whole documents, and of these the hits that the condition keeps. -/
structure ChecksLocally (bound : BoundIndex) (wish : ScanWish) (f : RowFilter) (r : ScanRequest) :
    Prop where
  expression : Expression.read? wish.condition = some f.expression
  columns : r.columns =
    (wish.columns.getD bound.columns).filter fun c => !wish.filterOnly.contains c
  limit : ScanOrder.checkLimit wish.limit = .ok r.limit
  offset : ScanOrder.checkOffset wish.offset = .ok r.offset
  projection : r.projection = .whole
  /-- Whichever columns are asked for, a hit is accepted when the condition keeps its row of the id
  and the declared columns. -/
  accepts : ∀ hit, r.accepts bound.schema hit =
    f.keepsHit bound.schema bound.schema.checkedColumns hit
  /-- That is so when it keeps the row of all columns, unless the condition names the residual column
  and no declared one goes by this name. -/
  output : unmappedColumn ∉ f.expression.names ∨
      unmappedColumn ∈ bound.schema.columns.map (·.name) →
    ∀ hit, r.accepts bound.schema hit = f.keepsHit bound.schema bound.columns hit
  /-- A condition that names it is evaluated without it. -/
  unbound : (∀ c ∈ bound.schema.columns, ∀ rest,
      columnNames? c.name ≠ some (unmappedColumn :: rest)) →
    ∀ members row scope,
      bound.schema.rowOf bound.schema.checkedColumns (.obj members) = .ok row →
        rowScope row = .ok scope → scope.lookup unmappedColumn = none

/-- **A condition that is not pushed is checked on every declared column.** The scan returns the rows
of the hits that the condition keeps, after those that the offset leaves out and no more than the limit
says. A hit is kept by its row of the id and the declared columns, whichever columns are asked for; that
row is as good as the row of all columns unless the condition names the residual column. -/
theorem scan_checksLocally {service : ScrollService τ} (hrelease : service.ReleasesQuietly)
    {f : RowFilter}
    (hcondition : conditionFilters wish.filters wish.condition bound.schema =
      .ok (filters, some f))
    (hscan : s.scan log bound wish state = (.ok scan, state')) :
    ∃ r, ChecksLocally bound wish f r ∧
      ∀ state asked,
        scan.Yields service r bound.schema (service.feedFor r asked state) [] state := by
  have hrun := scan_fst hcondition s log state
  rw [hscan] at hrun
  obtain ⟨r, hr, hcreate⟩ := bind_eq_ok.1 hrun.symm
  have hcompiled := ScanOrder.compiled_of_compile hr
  obtain ⟨_, hs, hplan, hsearch, hstate, hskipped, hemitted⟩ := Scan.exists_create hcompiled
  obtain rfl := Except.ok.inj (hs.symm.trans hcreate)
  -- the scan checks a hit by the row of the checked columns
  have haccepts : ∀ hit, r.accepts bound.schema hit =
      f.keepsHit bound.schema bound.schema.checkedColumns hit := by
    intro hit
    have hfilter : r.rowFilter = some f := hcompiled.rowFilter
    rw [ScanRequest.accepts, hfilter, RowFilter.keepsHit, Schema.rowOf, bind_assoc]
    rfl
  refine ⟨r, ?_, hplan.yields hrelease hsearch hstate hskipped hemitted⟩
  exact
    { expression := (read_of_conditionFilters hcondition).2
      columns := hcompiled.columns
      limit := hcompiled.limit
      offset := hcompiled.offset
      projection := ScanOrder.projection_of_compile hr rfl
      accepts := haccepts
      output := fun h hit => (haccepts hit).trans (RowFilter.keepsHit_outputColumns h hit).symm
      unbound := fun h _ _ _ => lookup_unmappedColumn h }

end Session

/-! ## Conditions on one text field -/

namespace Session.OneField

/-- A table with one declared column. -/
def schema : Schema :=
  { columns := [{ name := "x", path := "x", type := .primitive "VARCHAR" }]
    mappedPaths := ["x"]
    pathTypes := [("x", "keyword")] }

/-- The table is bound. -/
def bound : BoundIndex := ⟨"docs", schema, none⟩

/-- A service of one page. -/
def service (hits : List Json) : ScrollService Unit :=
  { start := fun _ => pure ⟨some "a", hits⟩
    next := fun _ _ => pure ⟨none, []⟩
    release := fun _ => pure true
    log := fun _ state => state }

/-- A condition on the length of the field. -/
def ofLength : Expression :=
  .relation .eq (.call "size" [.ident "x"]) (.literal (.int false false [1]))

/-- The text of the condition on the length. -/
theorem read_ofLength : Expression.read? "size(x) == 1" = some ofLength := by cbv

/-- A condition on the residual column. -/
def ofResidual : Expression := .relation .ne (.ident "_unmapped_") (.literal .null)

/-- The text of the condition on the residual column. -/
theorem read_ofResidual : Expression.read? "_unmapped_ != null" = some ofResidual := by cbv

/-- The condition on the length is not pushed. -/
theorem conditionFilters_ofLength : conditionFilters .none "size(x) == 1" schema =
    .ok (.row (.unknown "comparison relation_eq"), some ⟨"size(x) == 1", ofLength⟩) := by
  have hspatial : RowFilter.spatialNames ofLength = [] := by cbv
  obtain ⟨translation, ht, hpushed⟩ : ∃ translation,
      translateFilters (.row (.unknown "comparison relation_eq")) schema = .ok translation ∧
        translation.fullyPushed = false := ⟨_, rfl, rfl⟩
  exact conditionFilters_of_read read_ofLength (by decide) hspatial rfl ht hpushed _

/-- The condition on the residual column is not pushed. -/
theorem conditionFilters_ofResidual : conditionFilters .none "_unmapped_ != null" schema =
    .ok (.row (.notNull "_unmapped_"), some ⟨"_unmapped_ != null", ofResidual⟩) := by
  have hspatial : RowFilter.spatialNames ofResidual = [] := by cbv
  obtain ⟨translation, ht, hpushed⟩ : ∃ translation,
      translateFilters (.row (.notNull "_unmapped_")) schema = .ok translation ∧
        translation.fullyPushed = false := ⟨_, rfl, rfl⟩
  exact conditionFilters_of_read read_ofResidual (by decide) hspatial rfl ht hpushed _

/-- Two documents, one of them with a member that is not declared. -/
def hits : List Json :=
  [.obj [("_id", .str "1"), ("_source", .obj [("x", .str "a"), ("y", .int 1)])],
    .obj [("_id", .str "2"), ("_source", .obj [("x", .str "bb")])]]

/-- The ids of the documents with a short field, although the field is not asked for. -/
theorem scan_checksLocally_length :
    let s : Session := ⟨default, {}⟩
    let wish : ScanWish := { columns := some ["_id"], condition := "size(x) == 1" }
    ∃ scan r,
      (conditionFilters .none wish.condition schema =
          .ok (.row (.unknown "comparison relation_eq"), some ⟨"size(x) == 1", ofLength⟩) ∧
        (service hits).ReleasesQuietly ∧
        s.scan (service hits).log bound wish () = (.ok scan, ())) ∧
      ChecksLocally bound wish ⟨"size(x) == 1", ofLength⟩ r ∧
      scan.Yields (service hits) r schema ((service hits).feedFor r 2 ()) [] () ∧
      (scan.rows (service hits) 9 3 ()).map (·.1) = some (.ok [[("_id", .str "1")]]) := by
  intro s wish
  have hcondition : conditionFilters wish.filters wish.condition bound.schema =
      .ok (.row (.unknown "comparison relation_eq"), some ⟨"size(x) == 1", ofLength⟩) :=
    conditionFilters_ofLength
  obtain ⟨scan, hscan, hrows⟩ : ∃ scan, (s.scan (service hits).log bound wish ()).1 = .ok scan ∧
      (scan.rows (service hits) 9 3 ()).map (·.1) = some (.ok [[("_id", .str "1")]]) := by
    rw [scan_fst hcondition]
    exact ⟨_, rfl, rfl⟩
  have hquiet : (service hits).ReleasesQuietly := fun _ _ => ⟨true, rfl⟩
  have hrun : s.scan (service hits).log bound wish () = (.ok scan, ()) := Prod.ext hscan (Subsingleton.elim _ _)
  obtain ⟨r, hr, hyields⟩ := scan_checksLocally hquiet hcondition hrun
  exact ⟨scan, r, ⟨hcondition, hquiet, hrun⟩, hr, hyields () 2, hrows⟩

/-- **The residual column is not seen**: a condition on it keeps the output row of a document with an
undeclared member, and a scan of the documents returns nothing. -/
theorem scan_misses_residual :
    let s : Session := ⟨default, {}⟩
    let wish : ScanWish := { condition := "_unmapped_ != null" }
    ∃ scan,
      conditionFilters .none wish.condition schema =
          .ok (.row (.notNull "_unmapped_"), some ⟨"_unmapped_ != null", ofResidual⟩) ∧
        s.scan (service hits).log bound wish () = (.ok scan, ()) ∧
        hits.map (RowFilter.keepsHit ⟨"_unmapped_ != null", ofResidual⟩ schema bound.columns) =
          [.ok true, .ok false] ∧
        (scan.rows (service hits) 9 3 ()).map (·.1) = some (.ok []) := by
  intro s wish
  have hcondition : conditionFilters wish.filters wish.condition bound.schema =
      .ok (.row (.notNull "_unmapped_"), some ⟨"_unmapped_ != null", ofResidual⟩) :=
    conditionFilters_ofResidual
  obtain ⟨scan, hscan, hrows⟩ : ∃ scan, (s.scan (service hits).log bound wish ()).1 = .ok scan ∧
      (scan.rows (service hits) 9 3 ()).map (·.1) = some (.ok []) := by
    rw [scan_fst hcondition]
    exact ⟨_, rfl, rfl⟩
  exact ⟨scan, hcondition, Prod.ext hscan (Subsingleton.elim _ _), rfl, hrows⟩

end Session.OneField

end SearchTables
