import SearchTables.Proofs.Mapping.MergeOrder
import SearchTables.Proofs.Mapping.Resolution

/-! # Blame — which indices a schema conflict names

A conflict is found between an index and a column, and the column has taken in the fields of all
indices before. The error names the path at which the two disagree, the index at hand with its own
type, and, for the column, the index that declared it **first** with the type that the column has
come to. So the path and the second index are right, and some index before the second one does
declare the path with another type id, but it need not be the one that is named. -/

namespace SearchTables

/-! ## Where two types disagree -/

namespace ColumnType

/-- The conflict in members is that of one which both types have. -/
theorem conflictInMembers_eq {xs : List (String × ColumnType)} {second : ColumnType} (path : String)
    (h : compatibleMembers xs second = false) :
    ∃ m ∈ xs, ∃ u, second.child? m.1 = some u ∧ m.2.compatible u = false ∧
      conflictInMembers xs second path = m.2.conflictPath u (path ++ "." ++ m.1) := by
  induction xs with
  | nil => cases h
  | cons m rest ih =>
      obtain ⟨name, t⟩ := m
      rw [compatibleMembers, Bool.and_eq_false_iff] at h
      cases hu : second.child? name with
      | none =>
          rw [hu] at h
          obtain ⟨m, hm, u, hu', hconflict, hpath⟩ := ih (h.resolve_left (by simp))
          refine ⟨m, List.mem_cons_of_mem _ hm, u, hu', hconflict, ?_⟩
          simp only [conflictInMembers, hu, hpath]
      | some u =>
          rw [hu] at h
          by_cases hcompatible : t.compatible u = true
          · obtain ⟨m, hm, v, hv, hconflict, hpath⟩ := ih (h.resolve_left (by simp [hcompatible]))
            refine ⟨m, List.mem_cons_of_mem _ hm, v, hv, hconflict, ?_⟩
            simp only [conflictInMembers, hu, hcompatible, if_true, hpath]
          · refine ⟨_, List.mem_cons_self .., u, hu, Bool.eq_false_iff.2 hcompatible, ?_⟩
            simp only [conflictInMembers, hu, if_neg hcompatible]

/-- **The path of a conflict leads to where both types have an id, and not the same.** -/
theorem exists_conflict {a b : ColumnType} (ha : a.Plain) (hb : b.Plain)
    (h : a.compatible b = false) (path : String) :
    ∃ names i j, a.conflictPath b path = Path.ofSegments (path :: names) ∧
      a.idAt names = some i ∧ b.idAt names = some j ∧ i ≠ j := by
  induction ha generalizing b path with
  | @primitive name hname =>
      refine ⟨[], name, b.typeId, (Path.ofSegments_singleton path).symm, rfl, rfl, ?_⟩
      rintro rfl
      cases hb with
      | primitive => simp [compatible, same, typeId] at h
      | struct => exact hname rfl
  | @struct xs distinct plain ih =>
      by_cases hid : b.typeId = "STRUCT"
      · -- both are structs, so the conflict is in a member
        have hmembers : compatibleMembers xs b = false := by
          rw [compatible, Bool.or_eq_false_iff, hid] at h
          simpa using h.2
        obtain ⟨m, hm, u, hu, hconflict, hpath⟩ := conflictInMembers_eq path hmembers
        obtain ⟨names, i, j, hdeeper, hi, hj, hij⟩ := ih m hm (hb.child hu) hconflict
          (path ++ "." ++ m.1)
        have hm' : (struct xs).child? m.1 = some m.2 := (lookup_eq_some_iff_mem distinct).2 hm
        refine ⟨m.1 :: names, i, j, ?_, ?_, ?_, hij⟩
        · rw [conflictPath, if_pos hid, hpath, hdeeper, Path.ofSegments_cons_cons]
        · rw [idAt_cons, hm', Option.bind_some, hi]
        · rw [idAt_cons, hu, Option.bind_some, hj]
      · refine ⟨[], "STRUCT", b.typeId, ?_, rfl, rfl, Ne.symm hid⟩
        rw [conflictPath, if_neg hid, Path.ofSegments_singleton]

end ColumnType

/-! ## Fields along names -/

namespace Field

/-- A field **declares** another one at the names that lead down to it. -/
inductive Declares : Field → List String → Field → Prop where
  | here (f : Field) : Declares f [] f
  | inside {f c g : Field} {names : List String} (hc : c ∈ f.children)
      (h : Declares c names g) : Declares f (c.name :: names) g

/-- The members that fields declare are the fields with their types. -/
theorem memberTypes_eq_map (fields : List Field) :
    memberTypes fields = fields.map fun c => (c.name, c.type) := by
  induction fields with
  | nil => rfl
  | cons f rest ih => rw [memberTypes, ih, List.map_cons]

/-- What the type of a field has under a name is the type of the field inside of that name. -/
theorem child?_type {f : Field} (hdistinct : (f.children.map name).Nodup) {n : String}
    {t : ColumnType} : f.type.child? n = some t ↔ ∃ c ∈ f.children, c.name = n ∧ c.type = t := by
  obtain ⟨fieldName, path, indexType, children, multiFields⟩ := f
  change (children.map name).Nodup at hdistinct
  change _ ↔ ∃ c ∈ children, c.name = n ∧ c.type = t
  cases children with
  | nil =>
      obtain ⟨primitive, -, hprimitive⟩ := exists_primitive indexType
      simp [type, hprimitive, ColumnType.child?, ColumnType.members]
  | cons first rest =>
      have hnames : ((memberTypes (first :: rest)).map (·.1)).Nodup := by
        rwa [map_fst_memberTypes]
      change (memberTypes (first :: rest)).lookup n = some t ↔ _
      rw [lookup_eq_some_iff_mem hnames, memberTypes_eq_map, List.mem_map]
      simp only [Prod.mk.injEq]

/-- **A type has an id where its field declares a field of that id.** -/
theorem idAt_type_iff {f : Field} (hdistinct : ∀ g ∈ f.walk, (g.children.map name).Nodup)
    {names : List String} {i : String} :
    f.type.idAt names = some i ↔ ∃ g, f.Declares names g ∧ g.type.typeId = i := by
  induction names generalizing f with
  | nil =>
      rw [ColumnType.idAt_nil, Option.some.injEq]
      constructor
      · exact fun h => ⟨f, .here f, h⟩
      · rintro ⟨g, hg, h⟩
        cases hg
        exact h
  | cons n names ih =>
      -- the names of siblings differ further inside, too
      have hinside : ∀ c ∈ f.children, ∀ g ∈ c.walk, (g.children.map name).Nodup := by
        intro c hc g hg
        refine hdistinct g ?_
        obtain ⟨fieldName, path, indexType, children, multiFields⟩ := f
        rw [walk]
        exact List.mem_cons_of_mem _ (mem_walkAll.2 ⟨c, hc, hg⟩)
      rw [ColumnType.idAt_cons, Option.bind_eq_some_iff]
      simp only [child?_type (hdistinct f (mem_walk_self f))]
      constructor
      · rintro ⟨t, ⟨c, hc, rfl, rfl⟩, hid⟩
        obtain ⟨g, hg, hgid⟩ := (ih (hinside c hc)).1 hid
        exact ⟨g, .inside hc hg, hgid⟩
      · rintro ⟨g, hg, hgid⟩
        cases hg with
        | @inside _ c _ _ hc hg =>
            exact ⟨c.type, ⟨c, hc, rfl, rfl⟩, (ih (hinside c hc)).2 ⟨g, hg, hgid⟩⟩

/-- The path of a declared field goes down through the names. -/
theorem Declares.path_eq {f g : Field} {names : List String} (h : f.Declares names g)
    {parent : String} (hf : f.Placed parent) :
    g.path = names.foldl Path.under (Path.under parent f.name) := by
  induction h generalizing parent with
  | here f => exact hf.path_eq
  | @inside f c g names hc _ ih =>
      cases hf with
      | declare inside => exact ih (inside c hc)

end Field

/-- An index declares a field at the names from a top-level field down to it. -/
def IndexMapping.Declares (mapping : IndexMapping) (names : List String) (g : Field) : Prop :=
  ∃ f ∈ mapping.fields, ∃ rest, names = f.name :: rest ∧ f.Declares rest g

/-- Where no name is empty the path of a declared field is the path through the names. -/
theorem IndexMapping.Declares.path_eq {mapping : IndexMapping} {names : List String} {g : Field}
    (h : mapping.Declares names g) (hparsed : mapping.Parsed) (hnames : ∀ name ∈ names, name ≠ "") :
    g.path = Path.ofSegments names := by
  obtain ⟨f, hf, rest, rfl, hg⟩ := h
  rw [List.forall_mem_cons] at hnames
  rw [hg.path_eq (hparsed.placed f hf), Path.under_empty,
    Path.foldl_under_eq_ofSegments hnames.1 hnames.2]

/-! ## Columns and their indices -/

/-- The top-level fields that indices declare, each with its index. -/
def declarations (mappings : List IndexMapping) : List (String × Field) :=
  mappings.flatMap fun mapping => mapping.fields.map (mapping.index, ·)

/-- The types that are declared under a name, each with its index. -/
def typesUnder (name : String) (seen : List (String × Field)) : List (String × ColumnType) :=
  (seen.filter (·.2.name = name)).map fun d => (d.1, d.2.type)

/-- What a column makes of the types declared for it: the first index, and all types merged. -/
def joined? : List (String × ColumnType) → Option (String × ColumnType)
  | [] => none
  | (index, type) :: later => some (index, (later.map (·.2)).foldl ColumnType.merge type)

/-- One more type is merged into the others, or is the first. -/
theorem joined?_concat (types : List (String × ColumnType)) (index : String) (type : ColumnType) :
    joined? (types ++ [(index, type)]) =
      some (((joined? types).map fun c => (c.1, c.2.merge type)).getD (index, type)) := by
  cases types with
  | nil => rfl
  | cons first later => simp [joined?]

namespace MergeState

/-- Setting the type of a column changes what is found under its name, and nothing else. -/
theorem find?_setType (name other : String) (type : ColumnType) (columns : List PendingColumn) :
    (setType name type columns).find? (·.name = other) =
      (columns.find? (·.name = other)).map fun c => if other = name then { c with type } else c := by
  induction columns with
  | nil => rfl
  | cons c rest ih =>
      rw [setType]
      by_cases hc : c.name = name
      · rw [if_pos hc]
        by_cases hother : c.name = other
        · simp [← hc, hother]
        · have hne : other ≠ name := fun h => hother (hc.trans h.symm)
          simp [hother, hne]
      · rw [if_neg hc]
        by_cases hother : c.name = other
        · have hne : other ≠ name := fun h => hc (hother.trans h)
          simp [hother, hne]
        · simp [hother, ih]

/-- What the columns of a merge say of the declarations seen so far: each has the index of the first
one under its name, and the merge of all their types. -/
def Records (s : MergeState) (seen : List (String × Field)) : Prop :=
  ∀ name, (s.columns.find? (·.name = name)).map (fun c => (c.index, c.type)) =
    joined? (typesUnder name seen)

variable {s s' : MergeState} {seen : List (String × Field)} {index : String}

/-- A field that is taken up makes a new column, or is merged into the column of its name. -/
theorem addField_eq_ok {f : Field} (h : s.addField index f = .ok s') :
    (s.columns.find? (·.name = f.name) = none ∧
      s' = { s with columns := s.columns ++ [⟨f.name, f.type, f.indexType, index⟩] }) ∨
    ∃ column, s.columns.find? (·.name = f.name) = some column ∧
      column.type.compatible f.type = true ∧
      s' = { s with columns := setType f.name (column.type.merge f.type) s.columns } := by
  rw [MergeState.addField] at h
  split at h
  · rename_i hfind
    exact .inl ⟨hfind, (Except.ok.inj h).symm⟩
  · rename_i column hfind
    split at h
    · rename_i hcompatible
      exact .inr ⟨column, hfind, hcompatible, (Except.ok.inj h).symm⟩
    · cases h

/-- A field that is taken up is recorded. -/
theorem Records.addField (h : s.Records seen) {f : Field} (hs : s.addField index f = .ok s') :
    s'.Records (seen ++ [(index, f)]) := by
  intro name
  have hbefore := h name
  by_cases hname : f.name = name
  · subst hname
    have hunder : typesUnder f.name (seen ++ [(index, f)]) =
        typesUnder f.name seen ++ [(index, f.type)] := by
      simp [typesUnder]
    rw [hunder, joined?_concat, ← hbefore]
    rcases addField_eq_ok hs with ⟨hfind, rfl⟩ | ⟨column, hfind, -, rfl⟩
    · rw [List.find?_append, hfind]
      simp
    · simp [find?_setType, hfind]
  · -- what is recorded of another name stays
    have hunder : typesUnder name (seen ++ [(index, f)]) = typesUnder name seen := by
      simp [typesUnder, hname]
    rw [hunder, ← hbefore]
    rcases addField_eq_ok hs with ⟨-, rfl⟩ | ⟨column, -, -, rfl⟩
    · rw [List.find?_append]
      cases s.columns.find? (·.name = name) <;> simp [hname]
    · rw [find?_setType]
      simp [Ne.symm hname]

/-- Fields that are taken up are recorded. -/
theorem Records.addFields (h : s.Records seen) {fields : List Field}
    (hs : s.addFields index fields = .ok s') : s'.Records (seen ++ fields.map (index, ·)) := by
  induction fields generalizing s seen with
  | nil =>
      obtain rfl := Except.ok.inj hs
      simpa using h
  | cons f rest ih =>
      rw [MergeState.addFields] at hs
      split at hs
      · rename_i s₁ hfield
        have := ih (h.addField hfield) hs
        rwa [List.append_assoc] at this
      · cases hs

/-- Noting paths leaves the record alone. -/
theorem Records.noted (h : s.Records seen) (fields : List Field) :
    Records (fields.foldl notePath s) seen := by
  intro name
  rw [columns_foldl_notePath]
  exact h name

/-- Indices that are taken up are recorded. -/
theorem Records.addIndices (h : s.Records seen) {mappings : List IndexMapping}
    (hs : s.addIndices mappings = .ok s') : s'.Records (seen ++ declarations mappings) := by
  induction mappings generalizing s seen with
  | nil =>
      obtain rfl := Except.ok.inj hs
      simpa [declarations] using h
  | cons mapping rest ih =>
      rw [MergeState.addIndices] at hs
      split at hs
      · rename_i s₁ hindex
        have := ih ((h.noted (Field.walkAll mapping.fields)).addFields hindex) hs
        rwa [List.append_assoc] at this
      · cases hs

/-- A recorded column has the index of the first declaration under its name, and the merge of all. -/
theorem Records.of_find? (h : s.Records seen) {name : String} {column : PendingColumn}
    (hfind : s.columns.find? (·.name = name) = some column) :
    ∃ first own later, typesUnder name seen = (first, own) :: later ∧ column.index = first ∧
      column.type = (later.map (·.2)).foldl ColumnType.merge own := by
  have hrecord := h name
  rw [hfind] at hrecord
  cases htypes : typesUnder name seen with
  | nil =>
      rw [htypes] at hrecord
      cases hrecord
  | cons d later =>
      rw [htypes] at hrecord
      obtain ⟨hindex, htype⟩ := Prod.mk.inj (Option.some.inj hrecord)
      exact ⟨d.1, d.2, later, rfl, hindex, htype⟩

/-! ## Where a merge stops -/

variable {e : Error}

/-- A field that cannot be taken up is at odds with the column of its name. -/
theorem addField_eq_error {f : Field} (h : s.addField index f = .error e) :
    ∃ column, s.columns.find? (·.name = f.name) = some column ∧
      column.type.compatible f.type = false ∧
      e = .typeConflict (column.type.conflictPath f.type f.path) column.index column.type.text index
        f.type.text := by
  rw [addField] at h
  split at h
  · cases h
  · rename_i column hfind
    split at h
    · cases h
    · rename_i hcompatible
      exact ⟨column, hfind, Bool.eq_false_iff.2 hcompatible, (Except.error.inj h).symm⟩

/-- Fields that cannot be taken up are so up to one that cannot. -/
theorem addFields_eq_error {fields : List Field} (h : s.addFields index fields = .error e) :
    ∃ front f back s', fields = front ++ f :: back ∧ s.addFields index front = .ok s' ∧
      s'.addField index f = .error e := by
  induction fields generalizing s with
  | nil => cases h
  | cons f rest ih =>
      rw [addFields] at h
      split at h
      · rename_i s₁ hfield
        obtain ⟨front, g, back, s', rfl, hfront, hg⟩ := ih h
        refine ⟨f :: front, g, back, s', rfl, ?_, hg⟩
        rw [addFields, hfield]
        exact hfront
      · rename_i hfield
        exact ⟨[], f, rest, s, rfl, rfl, hfield.trans (congrArg _ (Except.error.inj h))⟩

/-- Indices that cannot be taken up are so up to one that cannot. -/
theorem addIndices_eq_error {mappings : List IndexMapping} (h : s.addIndices mappings = .error e) :
    ∃ before second after s', mappings = before ++ second :: after ∧
      s.addIndices before = .ok s' ∧ s'.addIndex second = .error e := by
  induction mappings generalizing s with
  | nil => cases h
  | cons mapping rest ih =>
      rw [addIndices] at h
      split at h
      · rename_i s₁ hindex
        obtain ⟨before, second, after, s', rfl, hbefore, hsecond⟩ := ih h
        refine ⟨mapping :: before, second, after, s', rfl, ?_, hsecond⟩
        rw [addIndices, hindex]
        exact hbefore
      · rename_i hindex
        exact ⟨[], mapping, rest, s, rfl, rfl, hindex.trans (congrArg _ (Except.error.inj h))⟩

end MergeState

/-- Where a merge stops: at a field of an index, with all fields before it taken up. -/
theorem exists_stop {mappings : List IndexMapping} {e : Error}
    (hdistinct : ∀ m ∈ mappings, m.SiblingsDistinct) (h : mergeMappings mappings = .error e) :
    ∃ before second after front f back, ∃ s : MergeState, mappings = before ++ second :: after ∧
      second.fields = front ++ f :: back ∧ s.Joins (topFields before ++ front) ∧
      s.Records (declarations before ++ front.map (second.index, ·)) ∧
      s.addField second.index f = .error e := by
  rw [mergeMappings, map_eq_error] at h
  obtain ⟨before, second, after, s₀, rfl, hbefore, hsecond⟩ := MergeState.addIndices_eq_error h
  rw [MergeState.addIndex] at hsecond
  obtain ⟨front, f, back, s, hfields, hfront, hf⟩ := MergeState.addFields_eq_error hsecond
  rw [List.forall_mem_append, List.forall_mem_cons] at hdistinct
  have hplain : ∀ g ∈ front, g.type.Plain := fun g hg =>
    hdistinct.2.1.plain g (hfields ▸ List.mem_append_left _ hg)
  -- what was taken up without an error has been joined
  have hempty : MergeState.Joins {} [] := ⟨rfl, List.nodup_nil, by simp⟩
  have hjoins₀ : s₀.Joins (topFields before) := by
    rcases hempty.addIndices hdistinct.1 with ⟨s', hs', hjoins⟩ | ⟨e', he', -⟩
    · rw [hs'] at hbefore
      exact Except.ok.inj hbefore ▸ hjoins
    · cases he'.symm.trans hbefore
  have hjoins : s.Joins (topFields before ++ front) := by
    rcases (hjoins₀.noted (Field.walkAll second.fields)).addFields second.index hplain with
      ⟨s', hs', hjoins⟩ | ⟨e', he', -⟩
    · rw [hs'] at hfront
      exact Except.ok.inj hfront ▸ hjoins
    · cases he'.symm.trans hfront
  have hrecords₀ : MergeState.Records {} [] := fun name => rfl
  have hrecords := ((hrecords₀.addIndices hbefore).noted (Field.walkAll second.fields)).addFields
    hfront
  exact ⟨before, second, after, front, f, back, s, rfl, hfields, hjoins, hrecords, hf⟩

section Siblings

variable {front back : List Field} {f : Field}

/-- The siblings before a field do not have its name. -/
theorem name_ne_of_siblings (h : ((front ++ f :: back).map Field.name).Nodup) :
    ∀ g ∈ front, g.name ≠ f.name := by
  intro g hg
  rw [List.map_append, List.nodup_append] at h
  exact h.2.2 g.name (List.mem_map_of_mem hg) f.name (List.mem_map_of_mem (List.mem_cons_self ..))

/-- The siblings before a field add no types under its name. -/
theorem typesUnder_append_siblings (h : ((front ++ f :: back).map Field.name).Nodup)
    (seen : List (String × Field)) (index : String) :
    typesUnder f.name (seen ++ front.map (index, ·)) = typesUnder f.name seen := by
  have hnone : (front.map ((index, ·) : Field → String × Field)).filter (·.2.name = f.name) = [] := by
    rw [List.filter_eq_nil_iff]
    intro d hd hname
    obtain ⟨g, hg, rfl⟩ := List.mem_map.1 hd
    exact name_ne_of_siblings h g hg (of_decide_eq_true hname)
  rw [typesUnder, typesUnder, List.filter_append, hnone, List.append_nil]

end Siblings

/-- The types under a name are those of the fields that indices declare by that name. -/
theorem mem_typesUnder {mappings : List IndexMapping} {name : String} {d : String × ColumnType} :
    d ∈ typesUnder name (declarations mappings) ↔
      ∃ m ∈ mappings, ∃ f ∈ m.fields, f.name = name ∧ (m.index, f.type) = d := by
  simp only [typesUnder, declarations, List.mem_map, List.mem_filter, List.mem_flatMap,
    decide_eq_true_eq]
  constructor
  · rintro ⟨_, ⟨⟨m, hm, f, hf, rfl⟩, hname⟩, rfl⟩
    exact ⟨m, hm, f, hf, hname, rfl⟩
  · rintro ⟨m, hm, f, hf, hname, rfl⟩
    exact ⟨_, ⟨⟨m, hm, f, hf, rfl⟩, hname⟩, rfl⟩

/-- The ids that an index declares at names are those in the types of its top-level fields. -/
theorem IndexMapping.SiblingsDistinct.exists_declares_iff {mapping : IndexMapping}
    (h : mapping.SiblingsDistinct) {name : String} {names : List String} {i : String} :
    (∃ g, mapping.Declares (name :: names) g ∧ g.type.typeId = i) ↔
      ∃ f ∈ mapping.fields, f.name = name ∧ f.type.idAt names = some i := by
  have hiff : ∀ f ∈ mapping.fields,
      (f.type.idAt names = some i ↔ ∃ g, f.Declares names g ∧ g.type.typeId = i) := fun f hf =>
    Field.idAt_type_iff fun g hg => h.2 g (Field.mem_walkAll.2 ⟨f, hf, hg⟩)
  constructor
  · rintro ⟨g, ⟨f, hf, rest, hnames, hg⟩, hid⟩
    obtain ⟨rfl, rfl⟩ := List.cons.inj hnames
    exact ⟨f, hf, rfl, (hiff f hf).2 ⟨g, hg, hid⟩⟩
  · rintro ⟨f, hf, rfl, hid⟩
    obtain ⟨g, hg, hid⟩ := (hiff f hf).1 hid
    exact ⟨g, ⟨f, hf, names, rfl, hg⟩, hid⟩

/-- The ids in a column are those that the indices before declare there, as long as no field of that
name in the index at hand has been taken up. -/
theorem MergeState.Joins.idAt_iff {s : MergeState} {before : List IndexMapping} {front : List Field}
    (h : s.Joins (topFields before ++ front)) {column : PendingColumn}
    (hcolumn : column ∈ s.columns) (hdistinct : ∀ m ∈ before, m.SiblingsDistinct)
    (hfront : ∀ g ∈ front, g.name ≠ column.name) {names : List String} {i : String} :
    column.type.idAt names = some i ↔
      ∃ m ∈ before, ∃ g, m.Declares (column.name :: names) g ∧ g.type.typeId = i := by
  rw [(h.union column hcolumn).ids]
  constructor
  · rintro ⟨t, ht, hid⟩
    obtain ⟨f, hf, hname, rfl⟩ := mem_typesOf.1 ht
    rcases List.mem_append.1 hf with hf | hf
    · obtain ⟨m, hm, hf⟩ := List.mem_flatMap.1 hf
      exact ⟨m, hm, (hdistinct m hm).exists_declares_iff.2 ⟨f, hf, hname, hid⟩⟩
    · exact absurd hname (hfront f hf)
  · rintro ⟨m, hm, hg⟩
    obtain ⟨f, hf, hname, hid⟩ := (hdistinct m hm).exists_declares_iff.1 hg
    exact ⟨f.type, mem_typesOf.2
      ⟨f, List.mem_append_left _ (List.mem_flatMap.2 ⟨m, hm, hf⟩), hname, rfl⟩, hid⟩

/-- **The column that a merge stops at**: it has the index of the first declaration of the column and
the merge of all of them, with the ids that the indices before declare. -/
theorem exists_conflicting_column {mappings : List IndexMapping} {e : Error}
    (hdistinct : ∀ m ∈ mappings, m.SiblingsDistinct) (h : mergeMappings mappings = .error e) :
    ∃ before second after, mappings = before ++ second :: after ∧
      ∃ f ∈ second.fields, ∃ first own later,
        typesUnder f.name (declarations before) = (first, own) :: later ∧
        let merged := (later.map (·.2)).foldl ColumnType.merge own
        merged.Plain ∧ merged.compatible f.type = false ∧
        e = .typeConflict (merged.conflictPath f.type f.path) first merged.text second.index
          f.type.text ∧
        ∀ names i, merged.idAt names = some i ↔
          ∃ m ∈ before, ∃ g, m.Declares (f.name :: names) g ∧ g.type.typeId = i := by
  obtain ⟨before, second, after, front, f, back, s, rfl, hfields, hjoins, hrecords, hf⟩ :=
    exists_stop hdistinct h
  obtain ⟨column, hfind, hconflict, rfl⟩ := MergeState.addField_eq_error hf
  have hf : f ∈ second.fields := hfields ▸ List.mem_append_right _ (List.mem_cons_self ..)
  rw [List.forall_mem_append, List.forall_mem_cons] at hdistinct
  have hsiblings : ((front ++ f :: back).map Field.name).Nodup := hfields ▸ hdistinct.2.1.1
  have hname : column.name = f.name := by simpa using List.find?_some hfind
  have hcolumn := List.mem_of_find?_eq_some hfind
  -- the siblings of the field are not declared under its name, only what came before is
  obtain ⟨first, own, later, htypes, rfl, htype⟩ := hrecords.of_find? hfind
  rw [typesUnder_append_siblings hsiblings] at htypes
  refine ⟨before, second, after, rfl, f, hf, column.index, own, later, htypes, ?_⟩
  rw [← htype]
  refine ⟨(hjoins.union column hcolumn).plain, hconflict, rfl, fun names i => ?_⟩
  rw [← hname]
  exact hjoins.idAt_iff hcolumn hdistinct.1 (hname ▸ name_ne_of_siblings hsiblings)

/-- **What a schema conflict says, and of whom.** The merge stops at the index that is named second,
with its own type. At the path of the error that index declares a field, some index before it
declares one, and each of those that do gives it another type id than the second one. What is named
first is the index that declared the column first, with the merge of the types that all indices
before the second one declare for the column. If it is the only one of these that declares the
column, it is at odds with the second one itself. -/
theorem mergeMappings_blames {mappings : List IndexMapping} {e : Error}
    (hparsed : ∀ m ∈ mappings, m.Parsed) (hdistinct : ∀ m ∈ mappings, m.SiblingsDistinct)
    (h : mergeMappings mappings = .error e) :
    ∃ before second after, mappings = before ++ second :: after ∧
      ∃ declared ∈ second.fields, ∃ names first own later,
        typesUnder declared.name (declarations before) = (first, own) :: later ∧
        e = .typeConflict (Path.ofSegments (declared.name :: names)) first
          ((later.map (·.2)).foldl ColumnType.merge own).text second.index declared.type.text ∧
        (∃ g, second.Declares (declared.name :: names) g ∧
          ∀ earlier ∈ before, ∀ g', earlier.Declares (declared.name :: names) g' →
            g'.type.typeId ≠ g.type.typeId) ∧
        (∃ earlier ∈ before, (∃ g', earlier.Declares (declared.name :: names) g') ∧
          (later = [] → earlier.index = first)) ∧
        ∀ index ∈ mappings, ∀ g, index.Declares (declared.name :: names) g →
          (∀ name ∈ declared.name :: names, name ≠ "") →
            g.path = Path.ofSegments (declared.name :: names) := by
  obtain ⟨before, second, after, hmappings, f, hf, first, own, later, htypes, hplain, hconflict, rfl,
    hids⟩ := exists_conflicting_column hdistinct h
  have hsecond : second ∈ mappings := hmappings ▸ List.mem_append_right _ (List.mem_cons_self ..)
  have hpath : f.path = f.name :=
    ((hparsed second hsecond).placed f hf).path_eq.trans (Path.under_empty f.name)
  -- where the two types have different ids, both sides declare fields
  obtain ⟨names, i, j, hconflictPath, hi, hj, hij⟩ :=
    ColumnType.exists_conflict hplain ((hdistinct second hsecond).plain f hf) hconflict f.path
  obtain ⟨g, hg, rfl⟩ := (hdistinct second hsecond).exists_declares_iff.2 ⟨f, hf, rfl, hj⟩
  obtain ⟨earlier, hearlier, g', hg', rfl⟩ := (hids names i).1 hi
  refine ⟨before, second, after, hmappings, f, hf, names, first, own, later, htypes,
    by rw [hconflictPath, hpath], ⟨g, hg, ?_⟩, ⟨earlier, hearlier, ⟨g', hg'⟩, ?_⟩,
    fun index hindex g hg hnames => hg.path_eq (hparsed index hindex) hnames⟩
  · intro other hother h' hh' hsame
    have hid := (hids names _).2 ⟨other, hother, h', hh', rfl⟩
    rw [hi, Option.some.injEq] at hid
    exact hij (hid.trans hsame)
  · rintro rfl
    obtain ⟨f', hf', rest, hrest, -⟩ := hg'
    have hmem : (earlier.index, f'.type) ∈ typesUnder f.name (declarations before) :=
      mem_typesUnder.2 ⟨earlier, hearlier, f', hf', (List.cons.inj hrest).1.symm, rfl⟩
    rw [htypes, List.mem_singleton] at hmem
    exact (Prod.mk.inj hmem).1

/-- Two indices that give the zip code of an address different types. -/
theorem mergeMappings_blames_zip :
    let index (type : String) : Json := .obj [("mappings", .obj [("properties", .obj [("address",
      .obj [("properties", .obj [("zip", .obj [("type", .str type)])])])])])]
    let response : Json := .obj [("a", index "integer"), ("b", index "keyword")]
    ∃ mappings, IndexMapping.ofResponse response = .ok mappings ∧
      (∀ m ∈ mappings, m.SiblingsDistinct) ∧
      mergeMappings mappings = .error
        (.typeConflict "address.zip" "a" "STRUCT(zip INTEGER)" "b" "STRUCT(zip VARCHAR)") ∧
      ∃ before second after, mappings = before ++ second :: after ∧ ∃ earlier ∈ before,
        ∃ names g g', earlier.Declares names g' ∧ second.Declares names g ∧
          g'.type.typeId ≠ g.type.typeId := by
  intro index response
  obtain ⟨mappings, hmappings, hdistinct, hmerge⟩ : ∃ mappings,
      IndexMapping.ofResponse response = .ok mappings ∧ (∀ m ∈ mappings, m.SiblingsDistinct) ∧
      mergeMappings mappings = .error
        (.typeConflict "address.zip" "a" "STRUCT(zip INTEGER)" "b" "STRUCT(zip VARCHAR)") :=
    ⟨_, rfl, by decide, rfl⟩
  obtain ⟨before, second, after, hsplit, declared, -, names, first, own, later, -, -,
    ⟨g, hg, hall⟩, ⟨earlier, hearlier, ⟨g', hg'⟩, -⟩, -⟩ :=
    mergeMappings_blames (fun m hm => ⟨response, mappings, hmappings, hm⟩) hdistinct hmerge
  exact ⟨mappings, hmappings, hdistinct, hmerge, before, second, after, hsplit, earlier, hearlier,
    _, g, g', hg', hg, hall earlier hearlier g' hg'⟩

/-- The second of three indices is at odds with the third, and the first, which declares neither the
path nor the type, is named. -/
theorem blamed_index_without_path :
    let index (name type : String) : Json := .obj [("mappings", .obj [("properties", .obj [("u",
      .obj [("properties", .obj [(name, .obj [("type", .str type)])])])])])]
    let response : Json :=
      .obj [("a", index "x" "long"), ("b", index "y" "long"), ("c", index "y" "keyword")]
    ∃ mappings, IndexMapping.ofResponse response = .ok mappings ∧
      mergeMappings mappings = .error
        (.typeConflict "u.y" "a" "STRUCT(x BIGINT, y BIGINT)" "c" "STRUCT(y VARCHAR)") ∧
      ∀ m ∈ mappings, m.index = "a" → (∀ g ∈ Field.walkAll m.fields, g.path ≠ "u.y") ∧
        ∀ f ∈ m.fields, f.type.text = "STRUCT(x BIGINT)" :=
  ⟨_, rfl, rfl, by decide⟩

end SearchTables
