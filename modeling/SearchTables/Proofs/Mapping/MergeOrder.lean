import SearchTables.Proofs.Mapping.Declarations
import SearchTables.Proofs.Mapping.DeclaredTypes
import Mathlib.Data.List.Nodup

/-! # Merging in any order

A merge takes up the indices one after the other, and their columns one by one. However far it has
come, each column is the union of the types that were declared under its name (`MergeState.Joins`),
and it stops at the first field whose type disagrees with one of these. So neither whether there is
a conflict nor what comes out depends on the order, up to the order of columns and members. -/

namespace SearchTables

/-- The top-level fields that indices declare. -/
def topFields (mappings : List IndexMapping) : List Field := mappings.flatMap IndexMapping.fields

/-- The types declared under a name. -/
def typesOf (fields : List Field) (name : String) : List ColumnType :=
  (fields.filter (·.name = name)).map Field.type

/-- The types under a name are those of the fields of that name. -/
theorem mem_typesOf {fields : List Field} {name : String} {t : ColumnType} :
    t ∈ typesOf fields name ↔ ∃ f ∈ fields, f.name = name ∧ f.type = t := by
  simp [typesOf, and_assoc]

/-- One more field adds its type to those of its name. -/
theorem typesOf_concat_self (fields : List Field) (f : Field) :
    typesOf (fields ++ [f]) f.name = typesOf fields f.name ++ [f.type] := by
  simp [typesOf]

/-- One more field leaves the types of other names alone. -/
theorem typesOf_concat_of_ne (fields : List Field) {f : Field} {name : String} (h : f.name ≠ name) :
    typesOf (fields ++ [f]) name = typesOf fields name := by
  simp [typesOf, h]

/-- Fields among which those of one name agree on its type. -/
def Concordant (fields : List Field) : Prop :=
  ∀ f ∈ fields, ∀ g ∈ fields, f.name = g.name → f.type.Agree g.type

namespace MergeState

/-! ## Columns -/

/-- What the columns of a merge are after the top-level fields seen so far: one for each name, in
the order in which the names are first seen, each the union of the types declared under it. -/
structure Joins (s : MergeState) (seen : List Field) : Prop where
  names : s.columns.map (·.name) = (seen.map Field.name).eraseDups
  distinct : (s.columns.map (·.name)).Nodup
  union : ∀ c ∈ s.columns, c.type.UnionOf (typesOf seen c.name)

/-- Setting the type of a column changes the one column of that name. -/
theorem setType_eq_map {name : String} {type : ColumnType} {columns : List PendingColumn}
    (h : (columns.map (·.name)).Nodup) :
    setType name type columns =
      columns.map fun c => if c.name = name then { c with type } else c := by
  induction columns with
  | nil => rfl
  | cons c rest ih =>
      rw [List.map_cons, List.nodup_cons] at h
      rw [setType, List.map_cons]
      by_cases hc : c.name = name
      · have hrest : ∀ d ∈ rest, d.name ≠ name := by
          rintro d hd rfl
          exact h.1 (hc ▸ List.mem_map_of_mem hd)
        have hkeep : rest.map (fun c => if c.name = name then { c with type } else c) = rest := by
          rw [List.map_congr_left fun d hd => if_neg (hrest d hd), List.map_id']
        rw [if_pos hc, if_pos hc, hkeep]
      · rw [if_neg hc, if_neg hc, ih h.2]

variable {s : MergeState} {seen : List Field} {f : Field}

/-- Every field seen has a column. -/
theorem Joins.exists_column (h : s.Joins seen) (hf : f ∈ seen) :
    ∃ c ∈ s.columns, c.name = f.name := by
  have hname : f.name ∈ s.columns.map (·.name) := by
    rw [h.names, List.mem_eraseDups]
    exact List.mem_map_of_mem hf
  simpa using hname

/-- **The fields seen so far agree.** -/
theorem Joins.concordant (h : s.Joins seen) : Concordant seen := by
  intro f hf g hg hfg
  obtain ⟨c, hc, hcf⟩ := h.exists_column hf
  exact (h.union c hc).agree (mem_typesOf.2 ⟨f, hf, hcf.symm, rfl⟩)
    (mem_typesOf.2 ⟨g, hg, hfg.symm.trans hcf.symm, rfl⟩)

/-- A field whose name is new becomes the last column. -/
theorem Joins.concat (h : s.Joins seen) (hf : f.type.Plain)
    (hnew : ∀ c ∈ s.columns, c.name ≠ f.name)
    {column : PendingColumn} (hname : column.name = f.name) (htype : column.type = f.type) :
    Joins { s with columns := s.columns ++ [column] } (seen ++ [f]) := by
  have hout : f.name ∉ s.columns.map (·.name) := by
    rw [List.mem_map]
    rintro ⟨c, hc, hcf⟩
    exact hnew c hc hcf
  have hunseen : f.name ∉ (seen.map Field.name).eraseDups := h.names ▸ hout
  -- no field seen before goes by the name, so its column starts a union of its own
  have hnone : typesOf seen f.name = [] := by
    rw [typesOf, List.map_eq_nil_iff, List.filter_eq_nil_iff]
    intro g hg hgf
    exact hunseen (List.mem_eraseDups.2 (List.mem_map.2 ⟨g, hg, of_decide_eq_true hgf⟩))
  constructor
  · rw [List.map_append, List.map_append, List.map_singleton, List.map_singleton,
      ColumnType.eraseDups_append_of_nodup _ (List.nodup_singleton _), h.names, hname,
      List.filter_cons_of_pos (by simpa using hunseen), List.filter_nil]
  · rw [List.map_append, List.nodup_append]
    refine ⟨h.distinct, List.nodup_singleton _, ?_⟩
    rintro n hn m hm rfl
    rw [List.map_singleton, List.mem_singleton, hname] at hm
    exact hout (hm ▸ hn)
  · intro c hc
    rcases List.mem_append.1 hc with hc | hc
    · rw [typesOf_concat_of_ne seen (hnew c hc).symm]
      exact h.union c hc
    · obtain rfl := List.mem_singleton.1 hc
      rw [hname, typesOf_concat_self, hnone, htype]
      exact hf.unionOf_self

/-- A field whose name is known is merged into the column of that name. -/
theorem Joins.merge (h : s.Joins seen) (hf : f.type.Plain) {column : PendingColumn}
    (hcolumn : column ∈ s.columns) (hname : column.name = f.name)
    (hagree : column.type.Agree f.type) :
    Joins { s with columns := setType f.name (column.type.merge f.type) s.columns }
      (seen ++ [f]) := by
  rw [setType_eq_map h.distinct]
  -- no name changes, so the names are those of before
  have hnames : (s.columns.map fun c => if c.name = f.name then
      { c with type := column.type.merge f.type } else c).map (·.name) =
        s.columns.map (·.name) := by
    rw [List.map_map]
    refine List.map_congr_left fun c _ => ?_
    rw [Function.comp_apply]
    split <;> rfl
  have hin : f.name ∈ (seen.map Field.name).eraseDups :=
    h.names ▸ List.mem_map.2 ⟨column, hcolumn, hname⟩
  constructor
  · rw [hnames, List.map_append, List.map_singleton,
      ColumnType.eraseDups_append_of_nodup _ (List.nodup_singleton _), h.names,
      List.filter_cons_of_neg (by simpa using hin), List.filter_nil, List.append_nil]
  · rw [hnames]
    exact h.distinct
  · intro c hc
    obtain ⟨d, hd, rfl⟩ := List.mem_map.1 hc
    by_cases hdf : d.name = f.name
    · obtain rfl : d = column :=
        List.inj_on_of_nodup_map h.distinct hd hcolumn (hdf.trans hname.symm)
      rw [if_pos hdf]
      simp only [hdf, typesOf_concat_self]
      exact (hdf ▸ h.union d hd).merge hf hagree
    · rw [if_neg hdf, typesOf_concat_of_ne seen (Ne.symm hdf)]
      exact h.union d hd

/-- **A field is taken up when it agrees with those seen before, and is a conflict otherwise.** -/
theorem Joins.addField (h : s.Joins seen) (index : String) (hf : f.type.Plain) :
    (∃ s', s.addField index f = .ok s' ∧ s'.Joins (seen ++ [f])) ∨
      ∃ e, s.addField index f = .error e ∧ e.family = .schemaConflict ∧
        ∃ g ∈ seen, g.name = f.name ∧ ¬ g.type.Agree f.type := by
  rw [MergeState.addField]
  cases hfind : s.columns.find? (·.name = f.name) with
  | none =>
      have hnew : ∀ c ∈ s.columns, c.name ≠ f.name := by
        intro c hc
        simpa using List.find?_eq_none.1 hfind c hc
      exact .inl ⟨_, rfl, h.concat hf hnew rfl rfl⟩
  | some column =>
      have hcolumn := List.mem_of_find?_eq_some hfind
      have hname : column.name = f.name := by simpa using List.find?_some hfind
      -- the column agrees with the field exactly when all that it is the union of do
      have hunion := h.union column hcolumn
      by_cases hcompatible : column.type.compatible f.type = true
      · refine .inl ⟨_, if_pos hcompatible, ?_⟩
        have hagree := (ColumnType.compatible_iff_agree hunion.plain hf).1 hcompatible
        exact h.merge hf hcolumn hname hagree
      · refine .inr ⟨_, if_neg hcompatible, rfl, ?_⟩
        rw [ColumnType.compatible_iff_agree hunion.plain hf, hunion.agree_iff] at hcompatible
        push Not at hcompatible
        obtain ⟨t, ht, hdisagree⟩ := hcompatible
        obtain ⟨g, hg, hgname, rfl⟩ := mem_typesOf.1 ht
        exact ⟨g, hg, hgname.trans hname, hdisagree⟩

/-- Fields are all taken up, or there is a conflict among them and those seen before. -/
theorem Joins.addFields (h : s.Joins seen) (index : String) {fields : List Field}
    (hfields : ∀ f ∈ fields, f.type.Plain) :
    (∃ s', s.addFields index fields = .ok s' ∧ s'.Joins (seen ++ fields)) ∨
      ∃ e, s.addFields index fields = .error e ∧ e.family = .schemaConflict ∧
        ¬ Concordant (seen ++ fields) := by
  induction fields generalizing s seen with
  | nil => exact .inl ⟨s, rfl, by rwa [List.append_nil]⟩
  | cons f rest ih =>
      rw [List.forall_mem_cons] at hfields
      rw [MergeState.addFields]
      rcases h.addField index hfields.1 with
        ⟨s', hs', hjoins⟩ | ⟨e, he, hfamily, g, hg, hname, hdisagree⟩
      · rw [hs']
        have := ih hjoins hfields.2
        rwa [List.append_assoc, List.singleton_append] at this
      · rw [he]
        refine .inr ⟨e, rfl, hfamily, fun hall => hdisagree ?_⟩
        exact hall g (by simp [hg]) f (by simp) hname

/-- Noting paths leaves the columns alone. -/
theorem columns_foldl_notePath (s : MergeState) (fields : List Field) :
    (fields.foldl notePath s).columns = s.columns := by
  induction fields generalizing s with
  | nil => rfl
  | cons f rest ih => exact ih (s.notePath f)

/-- The paths of an index are noted before its columns are taken up. -/
theorem Joins.noted (h : s.Joins seen) (fields : List Field) :
    Joins (fields.foldl notePath s) seen := by
  constructor
  all_goals rw [columns_foldl_notePath]
  · exact h.names
  · exact h.distinct
  · exact h.union

/-- **All indices are taken up, or there is a conflict among their fields and those seen before.**
-/
theorem Joins.addIndices (h : s.Joins seen) {mappings : List IndexMapping}
    (hmappings : ∀ m ∈ mappings, m.SiblingsDistinct) :
    (∃ s', s.addIndices mappings = .ok s' ∧ s'.Joins (seen ++ topFields mappings)) ∨
      ∃ e, s.addIndices mappings = .error e ∧ e.family = .schemaConflict ∧
        ¬ Concordant (seen ++ topFields mappings) := by
  induction mappings generalizing s seen with
  | nil => exact .inl ⟨s, rfl, by simpa [topFields] using h⟩
  | cons mapping rest ih =>
      rw [List.forall_mem_cons] at hmappings
      rw [MergeState.addIndices, MergeState.addIndex, topFields, List.flatMap_cons,
        ← List.append_assoc]
      rcases (h.noted (Field.walkAll mapping.fields)).addFields mapping.index hmappings.1.plain with
        ⟨s', hs', hjoins⟩ | ⟨e, he, hfamily, hdisagree⟩
      · rw [hs']
        exact ih hjoins hmappings.2
      · rw [he]
        refine .inr ⟨e, rfl, hfamily, fun hall => hdisagree fun f hf g hg hfg => ?_⟩
        exact hall f (List.mem_append_left _ hf) g (List.mem_append_left _ hg) hfg

end MergeState

/-! ## Conflicts -/

/-- Two indices clash when they declare a top-level field with incompatible types. -/
def IndexMapping.Clash (a b : IndexMapping) : Prop :=
  ∃ f ∈ a.fields, ∃ g ∈ b.fields, f.name = g.name ∧ f.type.compatible g.type = false

/-- A merge that ends in a schema conflict. -/
def MergeConflict (mappings : List IndexMapping) : Prop :=
  ∃ e, mergeMappings mappings = .error e ∧ e.family = .schemaConflict

section Merged

variable {mappings : List IndexMapping}

/-- A merge has columns that join the declared ones, or it is a conflict among these. -/
theorem mergeMappings_cases (hdistinct : ∀ m ∈ mappings, m.SiblingsDistinct) :
    (∃ s : MergeState, mergeMappings mappings = .ok s.result ∧ s.Joins (topFields mappings)) ∨
      ∃ e, mergeMappings mappings = .error e ∧ e.family = .schemaConflict ∧
        ¬ Concordant (topFields mappings) := by
  have hempty : MergeState.Joins {} [] := ⟨rfl, List.nodup_nil, by simp⟩
  rw [mergeMappings]
  rcases hempty.addIndices hdistinct with ⟨s, hs, hjoins⟩ | ⟨e, he, hfamily, hall⟩
  · rw [hs]
    exact .inl ⟨s, rfl, hjoins⟩
  · rw [he]
    exact .inr ⟨e, rfl, hfamily, hall⟩

/-- There is a conflict unless the fields of each name agree. -/
theorem mergeConflict_iff_not_concordant (hdistinct : ∀ m ∈ mappings, m.SiblingsDistinct) :
    MergeConflict mappings ↔ ¬ Concordant (topFields mappings) := by
  rcases mergeMappings_cases hdistinct with ⟨s, hs, hjoins⟩ | ⟨e, he, hfamily, hall⟩
  · refine iff_of_false ?_ (not_not.2 hjoins.concordant)
    rintro ⟨e, he, -⟩
    rw [hs] at he
    simp at he
  · exact iff_of_true ⟨e, he, hfamily⟩ hall

/-- The fields of plain types agree unless two different indices clash. -/
theorem not_concordant_iff_clash (hdistinct : ∀ m ∈ mappings, m.SiblingsDistinct) :
    ¬ Concordant (topFields mappings) ↔ ∃ a ∈ mappings, ∃ b ∈ mappings, a ≠ b ∧ a.Clash b := by
  have hcompatible : ∀ a ∈ mappings, ∀ f ∈ a.fields, ∀ b ∈ mappings, ∀ g ∈ b.fields,
      (f.type.compatible g.type = true ↔ f.type.Agree g.type) := fun a ha f hf b hb g hg =>
    ColumnType.compatible_iff_agree ((hdistinct a ha).plain f hf) ((hdistinct b hb).plain g hg)
  constructor
  · intro h
    simp only [Concordant, topFields, List.mem_flatMap] at h
    push Not at h
    obtain ⟨f, ⟨a, ha, hf⟩, g, ⟨b, hb, hg⟩, hname, hdisagree⟩ := h
    refine ⟨a, ha, b, hb, ?_, f, hf, g, hg, hname, ?_⟩
    · -- one index declares each name once, and a type agrees with itself
      rintro rfl
      obtain rfl := List.inj_on_of_nodup_map (hdistinct a ha).1 hf hg hname
      exact hdisagree (ColumnType.agree_self _)
    · rw [← Bool.not_eq_true, hcompatible a ha f hf b hb g hg]
      exact hdisagree
  · rintro ⟨a, ha, b, hb, -, f, hf, g, hg, hname, hclash⟩ hall
    have hagree := hall f (List.mem_flatMap.2 ⟨a, ha, hf⟩) g (List.mem_flatMap.2 ⟨b, hb, hg⟩) hname
    rw [← hcompatible a ha f hf b hb g hg, hclash] at hagree
    simp at hagree

/-! ## What comes out -/

/-- Merged mappings that say the same, up to the order of columns and of the members in their types.
The index type of a column is not among it: that is the index type which was declared first. -/
structure MergedMapping.Reordered (m m' : MergedMapping) : Prop where
  mapped : ∀ path, path ∈ m.mappedPaths ↔ path ∈ m'.mappedPaths
  fullText : ∀ path, path ∈ m.fullTextPaths ↔ path ∈ m'.fullTextPaths
  companions : ∀ path, m.companions.lookup path = m'.companions.lookup path
  names : (m.columns.map (·.name)).Perm (m'.columns.map (·.name))
  columns : ∀ c ∈ m.columns, ∀ c' ∈ m'.columns, c.name = c'.name →
    c.path = c'.path ∧ c.fullText = c'.fullText ∧ c.companion = c'.companion ∧
      c.type.Reordered c'.type

/-- Columns that hold what indices declare: every declared path with its type and no other, the
columns and the members at every path in the order in which they are first seen. -/
structure MergedMapping.Holds (m : MergedMapping) (mappings : List IndexMapping) : Prop where
  paths : ∀ path id, (path, id) ∈ m.columns.flatMap (fun c => c.type.paths c.path) ↔
    ∃ f ∈ declaredFields mappings, f.path = path ∧ f.type.typeId = id
  columns : m.columns.map (·.name) = ((topFields mappings).map Field.name).eraseDups
  members : ∀ c ∈ m.columns, ∀ path, c.type.namesAt path =
    ((typesOf (topFields mappings) c.name).flatMap (·.namesAt path)).eraseDups

/-- The fields that are declared lie inside the top-level fields. -/
theorem mem_declaredFields {g : Field} :
    g ∈ declaredFields mappings ↔ ∃ f ∈ topFields mappings, g ∈ f.walk := by
  simp only [declaredFields, topFields, List.mem_flatMap, Field.mem_walkAll]
  constructor
  · rintro ⟨m, hm, f, hf, hg⟩
    exact ⟨f, ⟨m, hm, hf⟩, hg⟩
  · rintro ⟨f, ⟨m, hm, hf⟩, hg⟩
    exact ⟨m, hm, f, hf, hg⟩

/-- The columns of a result come from the columns of the merge. -/
theorem MergeState.mem_columns_result {s : MergeState} {c : Column} (hc : c ∈ s.result.columns) :
    c.path = c.name ∧ c.fullText = decide (c.name ∈ s.result.fullTextPaths) ∧
      c.companion = (s.result.companions.lookup c.name).getD "" ∧
      ∃ column ∈ s.columns, column.name = c.name ∧ column.type = c.type := by
  obtain ⟨column, hcolumn, rfl⟩ := List.mem_map.1 hc
  exact ⟨rfl, List.contains_eq_mem .., rfl, column, hcolumn, rfl, rfl⟩

/-- The columns of a result have the names of those of the merge. -/
theorem MergeState.map_name_columns_result (s : MergeState) :
    s.result.columns.map (·.name) = s.columns.map (·.name) := by
  simp [MergeState.result]

variable {s : MergeState}

/-- The columns of a result are unions. -/
theorem MergeState.Joins.union_result {seen : List Field} (h : s.Joins seen) {c : Column}
    (hc : c ∈ s.result.columns) : c.type.UnionOf (typesOf seen c.name) := by
  obtain ⟨-, -, -, column, hcolumn, hname, htype⟩ := MergeState.mem_columns_result hc
  rw [← hname, ← htype]
  exact h.union column hcolumn

/-- Every field seen has a column in the result. -/
theorem MergeState.Joins.exists_column_result {seen : List Field} (h : s.Joins seen) {f : Field}
    (hf : f ∈ seen) : ∃ c ∈ s.result.columns, c.name = f.name := by
  obtain ⟨column, hcolumn, hname⟩ := h.exists_column hf
  exact ⟨_, List.mem_map_of_mem hcolumn, hname⟩

/-- **A result holds what the indices declare.** -/
theorem MergeState.Joins.holds (h : s.Joins (topFields mappings))
    (hparsed : ∀ m ∈ mappings, m.Parsed) (hdistinct : ∀ m ∈ mappings, m.SiblingsDistinct) :
    s.result.Holds mappings where
  paths path id := by
    have hplaced : ∀ f ∈ topFields mappings, f.Placed "" := by
      intro f hf
      obtain ⟨m, hm, hf⟩ := List.mem_flatMap.1 hf
      exact (hparsed m hm).placed f hf
    have hplain : ∀ f ∈ topFields mappings, f.type.Plain := by
      intro f hf
      obtain ⟨m, hm, hf⟩ := List.mem_flatMap.1 hf
      exact (hdistinct m hm).plain f hf
    -- column by column, and then over all columns
    have hpaths : ∀ c ∈ s.result.columns, ((path, id) ∈ c.type.paths c.path ↔
        ∃ f ∈ topFields mappings, f.name = c.name ∧ (path, id) ∈ f.type.paths f.name) := by
      intro c hc
      have hparts : ∀ t ∈ typesOf (topFields mappings) c.name, t.Plain := by
        intro t ht
        obtain ⟨f, hf, -, rfl⟩ := mem_typesOf.1 ht
        exact hplain f hf
      rw [(MergeState.mem_columns_result hc).1, (h.union_result hc).mem_paths_iff hparts]
      constructor
      · rintro ⟨t, ht, hp⟩
        obtain ⟨f, hf, hname, rfl⟩ := mem_typesOf.1 ht
        exact ⟨f, hf, hname, hname ▸ hp⟩
      · rintro ⟨f, hf, hname, hp⟩
        exact ⟨f.type, mem_typesOf.2 ⟨f, hf, hname, rfl⟩, hname ▸ hp⟩
    rw [List.mem_flatMap]
    constructor
    · rintro ⟨c, hc, hp⟩
      obtain ⟨f, hf, -, hp⟩ := (hpaths c hc).1 hp
      obtain ⟨g, hg, hgpath⟩ := (hplaced f hf).mem_paths_iff.1 hp
      exact ⟨g, mem_declaredFields.2 ⟨f, hf, hg⟩, hgpath⟩
    · rintro ⟨g, hg, hgpath⟩
      obtain ⟨f, hf, hg⟩ := mem_declaredFields.1 hg
      obtain ⟨c, hc, hname⟩ := h.exists_column_result hf
      exact ⟨c, hc,
        (hpaths c hc).2 ⟨f, hf, hname.symm, (hplaced f hf).mem_paths_iff.2 ⟨g, hg, hgpath⟩⟩⟩
  columns := by rw [MergeState.map_name_columns_result, h.names]
  members c hc path := (h.union_result hc).names path

end Merged

section Permutation

variable {mappings mappings' : List IndexMapping} {s s' : MergeState}

/-- Permuted indices have the same top-level fields. -/
theorem mem_topFields_of_perm (h : mappings.Perm mappings') (f : Field) :
    f ∈ topFields mappings ↔ f ∈ topFields mappings' := by
  simp only [topFields, List.mem_flatMap, h.mem_iff]

/-- Permuted indices declare the same fields. -/
theorem mem_declaredFields_of_perm (h : mappings.Perm mappings') (f : Field) :
    f ∈ declaredFields mappings ↔ f ∈ declaredFields mappings' := by
  simp only [declaredFields, List.mem_flatMap, h.mem_iff]

/-- **Results for permuted indices say the same.** -/
theorem MergeState.Joins.reordered (h : mappings.Perm mappings')
    (hs : mergeMappings mappings = .ok s.result) (hs' : mergeMappings mappings' = .ok s'.result)
    (hjoins : s.Joins (topFields mappings)) (hjoins' : s'.Joins (topFields mappings')) :
    s.result.Reordered s'.result := by
  have hfullText : ∀ path, path ∈ s.result.fullTextPaths ↔ path ∈ s'.result.fullTextPaths := by
    intro path
    rw [mem_fullTextPaths_iff hs, mem_fullTextPaths_iff hs']
    simp only [mem_declaredFields_of_perm h]
  have hcompanions : ∀ path,
      s.result.companions.lookup path = s'.result.companions.lookup path := by
    intro path
    ext target
    rw [companion_iff hs, companion_iff hs']
    simp only [mem_declaredFields_of_perm h]
  constructor
  · intro path
    rw [mem_mappedPaths_iff hs, mem_mappedPaths_iff hs']
    simp only [mem_declaredFields_of_perm h]
  · exact hfullText
  · exact hcompanions
  · rw [MergeState.map_name_columns_result, MergeState.map_name_columns_result,
      List.perm_ext_iff_of_nodup hjoins.distinct hjoins'.distinct]
    intro name
    rw [hjoins.names, hjoins'.names, List.mem_eraseDups, List.mem_eraseDups, List.mem_map,
      List.mem_map]
    simp only [mem_topFields_of_perm h]
  · intro c hc c' hc' hname
    obtain ⟨hpath, hfull, hcompanion, -⟩ := MergeState.mem_columns_result hc
    obtain ⟨hpath', hfull', hcompanion', -⟩ := MergeState.mem_columns_result hc'
    refine ⟨?_, ?_, ?_, ?_⟩
    · -- a name tells the path, and the rest is the same for both orders
      rw [hpath, hpath', hname]
    · rw [hfull, hfull', hname, decide_eq_decide, hfullText]
    · rw [hcompanion, hcompanion', hname, hcompanions]
    · refine (hjoins.union_result hc).reordered (hjoins'.union_result hc') fun t => ?_
      simp only [mem_typesOf, mem_topFields_of_perm h, hname]

/-- **The merge does not depend on the order of the indices.** For indices with distinct siblings it
is a conflict in every order, namely when two of them clash, or in none. Without conflict every
order gives the same mapping, up to the order of columns and members, and that order is that in
which the indices declare them. -/
theorem mergeMappings_perm (h : mappings.Perm mappings') (hparsed : ∀ m ∈ mappings, m.Parsed)
    (hdistinct : ∀ m ∈ mappings, m.SiblingsDistinct) :
    (MergeConflict mappings ↔ MergeConflict mappings') ∧
      (MergeConflict mappings ↔ ∃ a ∈ mappings, ∃ b ∈ mappings, a ≠ b ∧ a.Clash b) ∧
      (¬ MergeConflict mappings →
        ∃ m m', mergeMappings mappings = .ok m ∧ mergeMappings mappings' = .ok m' ∧
        m.Reordered m' ∧ m.Holds mappings ∧ m'.Holds mappings') := by
  have hparsed' : ∀ m ∈ mappings', m.Parsed := fun m hm => hparsed m (h.mem_iff.2 hm)
  have hdistinct' : ∀ m ∈ mappings', m.SiblingsDistinct := fun m hm => hdistinct m (h.mem_iff.2 hm)
  have hclash :=
    (mergeConflict_iff_not_concordant hdistinct).trans (not_concordant_iff_clash hdistinct)
  have hclash' :=
    (mergeConflict_iff_not_concordant hdistinct').trans (not_concordant_iff_clash hdistinct')
  have hperm : MergeConflict mappings ↔ MergeConflict mappings' := by
    rw [hclash, hclash']
    simp only [h.mem_iff]
  -- without conflict in one order there is none in the other, so both merges have a result
  refine ⟨hperm, hclash, fun hnone => ?_⟩
  rcases mergeMappings_cases hdistinct with ⟨s, hs, hjoins⟩ | ⟨e, he, hfamily, -⟩
  · rcases mergeMappings_cases hdistinct' with ⟨s', hs', hjoins'⟩ | ⟨e, he, hfamily, -⟩
    · exact ⟨_, _, hs, hs', hjoins.reordered h hs hs' hjoins', hjoins.holds hparsed hdistinct,
        hjoins'.holds hparsed' hdistinct'⟩
    · exact absurd (hperm.2 ⟨e, he, hfamily⟩) hnone
  · exact absurd ⟨e, he, hfamily⟩ hnone

/-- Two indices with a common object, in either order. -/
theorem mergeMappings_perm_common_object :
    let leaf (type : String) : Json := .obj [("type", .str type)]
    let object (fields : List (String × Json)) : Json := .obj [("properties", .obj fields)]
    let a := object [("user", object [("id", leaf "long")]), ("title", leaf "text")]
    let b := object [("title", leaf "keyword"),
      ("user", object [("name", leaf "ip"), ("id", leaf "long")])]
    let response : Json := .obj [("a", .obj [("mappings", a)]), ("b", .obj [("mappings", b)])]
    ∃ mappings m m', IndexMapping.ofResponse response = .ok mappings ∧
      mergeMappings mappings = .ok m ∧ mergeMappings mappings.reverse = .ok m' ∧ m.Reordered m' ∧
      m.columns.map (·.type) = [.struct [("id", .bigint), ("name", .varchar)], .varchar] ∧
      m'.columns.map (·.type) = [.varchar, .struct [("name", .varchar), ("id", .bigint)]] := by
  intro leaf object a b response
  obtain ⟨mappings, hmappings, hdistinct, m, hm, m', hm', htypes, htypes'⟩ : ∃ mappings,
      IndexMapping.ofResponse response = .ok mappings ∧
      (∀ m ∈ mappings, m.SiblingsDistinct) ∧
      ∃ m, mergeMappings mappings = .ok m ∧ ∃ m', mergeMappings mappings.reverse = .ok m' ∧
        m.columns.map (·.type) = [.struct [("id", .bigint), ("name", .varchar)], .varchar] ∧
        m'.columns.map (·.type) = [.varchar, .struct [("name", .varchar), ("id", .bigint)]] :=
    ⟨_, rfl, by decide, _, rfl, _, rfl, rfl, rfl⟩
  have hparsed : ∀ m ∈ mappings, m.Parsed := fun m hm => ⟨_, mappings, hmappings, hm⟩
  have hnone : ¬ MergeConflict mappings := by
    rintro ⟨e, he, -⟩
    simp [hm] at he
  obtain ⟨-, -, hsame⟩ := mergeMappings_perm (List.reverse_perm mappings).symm hparsed hdistinct
  obtain ⟨n, n', hn, hn', hreordered, -⟩ := hsame hnone
  obtain rfl := Except.ok.inj (hn.symm.trans hm)
  obtain rfl := Except.ok.inj (hn'.symm.trans hm')
  exact ⟨mappings, n, n', hmappings, hm, hm', hreordered, htypes, htypes'⟩

end Permutation

end SearchTables
