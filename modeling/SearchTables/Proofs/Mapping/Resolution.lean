import SearchTables.Mapping.Resolution
import SearchTables.Proofs.Client.Attempts
import SearchTables.Proofs.Filter.ExactTargets
import SearchTables.Proofs.Json.Place
import SearchTables.Proofs.Mapping.MergeOrder

/-! # Resolved schemas — columns and path data in step

A resolved schema says twice what an index declares: once in the types of its columns, and once in
tables of paths that are kept beside them. Both are found on their own, by merging types and by
noting declarations, and lists are put into the types afterwards. `Schema.Represents` says in what
they agree, and `resolveSchema_represents` that they do in every schema that is resolved. -/

namespace SearchTables

/-! ## The places of a type -/

namespace ColumnType

mutual

/-- The **places** of a type at a path: the path itself, and beneath it, after a dot, those of the
members of structs. A list has the places of its elements. -/
def places (path : String) : ColumnType → List String
  | .primitive _ => [path]
  | .list element => places path element
  | .struct members => path :: memberPlaces path members

/-- The places of the members of a struct at a path. -/
def memberPlaces (path : String) : List (String × ColumnType) → List String
  | [] => []
  | (name, type) :: rest => places (path ++ "." ++ name) type ++ memberPlaces path rest

end

/-- A place of the members is a place of one of them. -/
theorem mem_memberPlaces {path place : String} {members : List (String × ColumnType)} :
    place ∈ memberPlaces path members ↔
      ∃ m ∈ members, place ∈ m.2.places (path ++ "." ++ m.1) := by
  induction members with
  | nil => simp [memberPlaces]
  | cons m rest ih =>
      obtain ⟨name, type⟩ := m
      rw [memberPlaces, List.mem_append, ih, List.exists_mem_cons_iff]

section WrapLists

variable (isArray : String → Bool) (joinPath : String → String → String)

mutual

/-- **Lists leave the places of a type alone**, wherever they are put in. -/
theorem places_wrapLists (path at' : String) : ∀ t : ColumnType,
    (t.wrapLists isArray joinPath at').places path = t.places path
  | .primitive name => by
      rw [wrapLists]
      split <;> rfl
  | .list element => rfl
  | .struct members => by
      have hstruct : (struct (wrapMembers isArray joinPath members at')).places path =
          (struct members).places path := by
        rw [places, places, memberPlaces_wrapMembers path at' members]
      rw [wrapLists]
      split
      · exact hstruct
      · exact hstruct

/-- Lists leave the places of members alone. -/
theorem memberPlaces_wrapMembers (path at' : String) : ∀ members : List (String × ColumnType),
    memberPlaces path (wrapMembers isArray joinPath members at') = memberPlaces path members
  | [] => rfl
  | (name, type) :: rest => by
      rw [wrapMembers, memberPlaces, memberPlaces, places_wrapLists _ _ type,
        memberPlaces_wrapMembers path at' rest]

end

end WrapLists

/-- **The places of a plain type are the paths inside it**, when its members have names. -/
theorem Plain.mem_places_iff {t : ColumnType} (h : t.Plain) {path place : String} (hpath : path ≠ "")
    (hnames : ∀ names, ∀ name ∈ t.namesAt names, name ≠ "") :
    place ∈ t.places path ↔ ∃ id, (place, id) ∈ t.paths path := by
  induction h generalizing path with
  | primitive => simp [places, paths]
  | @struct members distinct plain ih =>
      have hinside : ∀ m ∈ members, (place ∈ m.2.places (path ++ "." ++ m.1) ↔
          ∃ id, (place, id) ∈ m.2.paths (Path.under path m.1)) := by
        intro m hm
        -- between names that are not empty there is a dot in either path
        have hname : m.1 ≠ "" := hnames [] m.1 (List.mem_map_of_mem hm)
        rw [Path.under_of_ne hpath hname]
        refine ih m hm (by simp) fun names name hin => hnames (m.1 :: names) name ?_
        have hchild : (ColumnType.struct members).child? m.1 = some m.2 :=
          (lookup_eq_some_iff_mem distinct).2 hm
        rwa [namesAt_cons, hchild]
      rw [places, List.mem_cons, mem_memberPlaces]
      simp only [paths, List.mem_cons, mem_memberPaths, Prod.mk.injEq]
      constructor
      · rintro (rfl | ⟨m, hm, hplace⟩)
        · exact ⟨_, .inl ⟨rfl, rfl⟩⟩
        · obtain ⟨id, hid⟩ := (hinside m hm).1 hplace
          exact ⟨id, .inr ⟨m, hm, hid⟩⟩
      · rintro ⟨id, ⟨rfl, -⟩ | ⟨m, hm, hid⟩⟩
        · exact .inl rfl
        · exact .inr ⟨m, hm, (hinside m hm).2 ⟨id, hid⟩⟩

end ColumnType

/-! ## Names in declared types -/

namespace Field

/-- A field is the first of those inside it. -/
theorem mem_walk_self (f : Field) : f ∈ f.walk := by
  cases f
  exact List.mem_cons_self ..

mutual

/-- The names in the type of a field are the names of fields inside it. -/
theorem mem_namesAt_type {name : String} : ∀ (f : Field) {names : List String},
    name ∈ f.type.namesAt names → ∃ g ∈ f.walk, g.name = name
  | .declare _ _ indexType [] _, names, h => by
      -- a primitive has no members at any path
      obtain ⟨primitive, -, hprimitive⟩ := exists_primitive indexType
      rw [type, hprimitive] at h
      cases names with
      | nil => cases h
      | cons first names => cases h
  | .declare _ _ _ (child :: children) _, names, h => by
      rw [type] at h
      rw [walk]
      cases names with
      | nil =>
          change name ∈ (memberTypes (child :: children)).map (·.1) at h
          rw [map_fst_memberTypes] at h
          obtain ⟨c, hc, rfl⟩ := List.mem_map.1 h
          exact ⟨c, List.mem_cons_of_mem _ (mem_walkAll.2 ⟨c, hc, mem_walk_self c⟩), rfl⟩
      | cons first names =>
          rw [ColumnType.namesAt_cons] at h
          cases hchild : (ColumnType.struct (memberTypes (child :: children))).child? first with
          | none =>
              rw [hchild] at h
              cases h
          | some t =>
              rw [hchild] at h
              have hmember : (first, t) ∈ memberTypes (child :: children) := mem_of_lookup hchild
              obtain ⟨g, hg, hname⟩ := mem_namesAt_memberTypes (child :: children) hmember h
              exact ⟨g, List.mem_cons_of_mem _ hg, hname⟩

/-- The names in the types of members are the names of fields inside them. -/
theorem mem_namesAt_memberTypes {name : String} : ∀ (fields : List Field)
    {m : String × ColumnType} {names : List String}, m ∈ memberTypes fields →
    name ∈ m.2.namesAt names → ∃ g ∈ walkAll fields, g.name = name
  | [], _, _, hm, _ => by cases hm
  | f :: rest, m, names, hm, h => by
      rw [memberTypes, List.mem_cons] at hm
      rw [walkAll]
      rcases hm with rfl | hm
      · obtain ⟨g, hg, hname⟩ := mem_namesAt_type f h
        exact ⟨g, List.mem_append_left _ hg, hname⟩
      · obtain ⟨g, hg, hname⟩ := mem_namesAt_memberTypes rest hm h
        exact ⟨g, List.mem_append_right _ hg, hname⟩

end

/-! ## Siblings -/

/-- Definitions declare fields of their names. -/
theorem map_name_ofDefinitions (parent : String) (definitions : List (String × Json)) :
    (ofDefinitions parent definitions).map name = definitions.map (·.1) := by
  induction definitions with
  | nil => rfl
  | cons definition rest ih =>
      obtain ⟨key, value⟩ := definition
      rw [ofDefinitions, List.map_cons, List.map_cons, ih]
      cases value <;> rfl

mutual

/-- The fields inside the field of a definition with distinct keys have siblings of other names. -/
theorem nodup_ofDefinition (name parent : String) : ∀ definition : Json, definition.DistinctKeys →
    ∀ f ∈ (ofDefinition name parent definition).walk, (f.children.map Field.name).Nodup
  | .obj members, h => by
      rw [ofDefinition, walk, List.forall_mem_cons]
      exact nodup_childrenOf _ members fun m hm => h.member hm
  | .null, _ | .bool _, _ | .int _, _ | .float _, _ | .str _, _ | .arr _, _ => by
      rw [ofDefinition]
      · simp [walk, walkAll, children]
      · simp

/-- The fields of the member `properties` have siblings of other names. -/
theorem nodup_childrenOf (path : String) : ∀ members : List (String × Json),
    (∀ m ∈ members, m.2.DistinctKeys) → ((childrenOf path members).map Field.name).Nodup ∧
      ∀ f ∈ walkAll (childrenOf path members), (f.children.map Field.name).Nodup
  | [], _ => by simp [childrenOf, walkAll]
  | (key, value) :: rest, h => by
      rw [List.forall_mem_cons] at h
      -- only the first member named `properties` is looked at
      by_cases hkey : key = "properties"
      · cases value with
        | obj definitions =>
            rw [childrenOf, if_pos hkey, map_name_ofDefinitions]
            exact ⟨h.1 [] definitions (.root _),
              nodup_ofDefinitions path definitions fun m hm => h.1.member hm⟩
        | _ => simp [childrenOf, hkey, walkAll]
      · cases value <;> simpa only [childrenOf, if_neg hkey] using nodup_childrenOf path rest h.2

/-- The fields inside the fields of definitions have siblings of other names. -/
theorem nodup_ofDefinitions (parent : String) : ∀ definitions : List (String × Json),
    (∀ m ∈ definitions, m.2.DistinctKeys) →
    ∀ f ∈ walkAll (ofDefinitions parent definitions), (f.children.map Field.name).Nodup
  | [], _ => by simp [ofDefinitions, walkAll]
  | (name, definition) :: rest, h => by
      rw [List.forall_mem_cons] at h
      rw [ofDefinitions, walkAll, List.forall_mem_append]
      exact ⟨nodup_ofDefinition name parent definition h.1, nodup_ofDefinitions parent rest h.2⟩

end

end Field

namespace IndexMapping

/-- What a look-up of a member finds has distinct keys if the object has. -/
theorem distinctKeys_lookup {members : List (String × Json)} (h : (Json.obj members).DistinctKeys)
    {name : String} {found : Json} (hfound : members.lookup name = some found) :
    found.DistinctKeys := by
  exact h.member ((lookup_eq_some_iff_mem (h [] members (.root _))).1 hfound)

/-- The definitions in a mapping with distinct keys have distinct names and keys. -/
theorem distinctKeys_definitionsOf {j : Json} (h : j.DistinctKeys) :
    (Json.obj (definitionsOf j)).DistinctKeys := by
  have hempty : (Json.obj []).DistinctKeys := by simp [Json.distinctKeys_obj_iff]
  unfold definitionsOf
  split
  · rename_i members
    split
    · rename_i definitions hfound
      exact distinctKeys_lookup h hfound
    · split
      · rename_i name inner hnone
        have hinner : inner.DistinctKeys := h.member (List.mem_singleton.2 rfl)
        cases inner with
        | obj members =>
            split
            · rename_i definitions hfound
              exact distinctKeys_lookup hinner hfound
            · exact hempty
        | _ => exact hempty
      · exact hempty
  · exact hempty

/-- **The mappings in a response with distinct keys have distinct siblings.** -/
theorem siblingsDistinct_of_response {response : Json} (h : response.DistinctKeys)
    {mappings : List IndexMapping} (hmappings : ofResponse response = .ok mappings) :
    ∀ mapping ∈ mappings, mapping.SiblingsDistinct := by
  intro mapping hmapping
  cases response with
  | obj entries =>
      obtain ⟨⟨index, value⟩, hentry, hofEntry⟩ := exists_ofEntry hmappings hmapping
      have hvalue : value.DistinctKeys := h.member hentry
      cases value with
      | obj members =>
          obtain rfl := Except.ok.inj hofEntry
          have hdefinitions : (Json.obj (definitionsOf
              ((members.lookup "mappings").getD .null))).DistinctKeys := by
            refine distinctKeys_definitionsOf ?_
            cases hfound : members.lookup "mappings" with
            | none => exact Json.distinctKeys_of_not_isObject (by simp [Json.IsObject])
            | some found => exact distinctKeys_lookup hvalue hfound
          constructor
          · rw [Field.map_name_ofDefinitions]
            exact hdefinitions [] _ (.root _)
          · exact Field.nodup_ofDefinitions "" _ fun m hm => hdefinitions.member hm
      | _ => simp [ofEntry] at hofEntry
  | _ => simp [ofResponse] at hmappings

end IndexMapping

/-! ## Tables of a merged mapping -/

/-- The names under which members stand after one more was put. -/
theorem map_fst_insertMember {α : Type} (name : String) (value : α) (members : List (String × α)) :
    (insertMember name value members).map (·.1) = insertNew name (members.map (·.1)) := by
  induction members with
  | nil => rfl
  | cons m rest ih =>
      obtain ⟨n, v⟩ := m
      rw [insertMember]
      by_cases hn : n = name
      · simp [insertNew, hn]
      · have hne : name ≠ n := Ne.symm hn
        rw [if_neg hn, List.map_cons, ih, insertNew, insertNew, List.map_cons, List.contains_cons,
          beq_false_of_ne hne, Bool.false_or]
        split
        · rfl
        · rfl

namespace MergeState

/-- Tables in which every path stands once, with an index type for every mapped path and no other. -/
structure Tabled (s : MergeState) : Prop where
  types : s.pathTypes.map (·.1) = s.mappedPaths
  mapped : s.mappedPaths.Nodup
  fullText : s.fullText.Nodup

/-- Noting a declaration keeps the tables in step. -/
theorem Tabled.notePath {s : MergeState} (h : s.Tabled) (f : Field) : (s.notePath f).Tabled where
  types := by rw [MergeState.notePath, map_fst_insertMember, h.types]
  mapped := nodup_insertNew h.mapped
  fullText := by
    rw [MergeState.notePath]
    dsimp only
    split
    · exact nodup_insertNew h.fullText
    · exact h.fullText

/-- No path has two companions. -/
theorem Tabled.nodup_companions {s : MergeState} (h : s.Tabled) :
    (s.companions.map (·.1)).Nodup := by
  rw [companions, List.map_filterMap]
  -- a companion is filed under the full-text path that it belongs to
  refine h.fullText.filterMap fun path other found hfound hother => ?_
  simp only [Option.map_map, Option.map_eq_some_iff, Option.mem_def] at hfound hother
  obtain ⟨_, _, hpath⟩ := hfound
  obtain ⟨_, _, hpath'⟩ := hother
  exact hpath.trans hpath'.symm

end MergeState

/-! ## Representation -/

namespace Schema

/-- The places of a schema are those of its columns. -/
def places (s : Schema) : List String := s.columns.flatMap fun c => c.type.places c.path

/-- A schema **represents** what indices declare: its columns have a place for every declared path,
and its tables agree with the columns and with the declarations. -/
structure Represents (s : Schema) (mappings : List IndexMapping) : Prop where
  /-- The mapped paths are the places of the columns. -/
  mapped : ∀ path, path ∈ s.mappedPaths ↔ path ∈ s.places
  /-- The places of the columns have index types, and nothing else does. -/
  types : ∀ path, path ∈ s.pathTypes.map (·.1) ↔ path ∈ s.places
  /-- Every declared path is a place of the columns. -/
  declared : ∀ f ∈ declaredFields mappings, f.path ∈ s.places
  /-- Full-text paths are places of the columns. -/
  fullText_places : ∀ path ∈ s.fullTextPaths, path ∈ s.places
  /-- The full-text paths are those that some index declares analyzed. -/
  fullText : ∀ path, path ∈ s.fullTextPaths ↔
    ∃ f ∈ declaredFields mappings, f.path = path ∧ f.IsAnalyzed
  /-- Only full-text paths have companions, and these are multi-fields of keywords. -/
  companions : ∀ path target, (path, target) ∈ s.companions → path ∈ s.fullTextPaths ∧
    ∃ f ∈ declaredFields mappings, f.path = path ∧
      ∃ name, (name, "keyword") ∈ f.multiFields ∧ target = path ++ "." ++ name
  /-- Every path stands once in a table. -/
  distinct : s.mappedPaths.Nodup ∧ (s.pathTypes.map (·.1)).Nodup ∧ s.fullTextPaths.Nodup ∧
    (s.companions.map (·.1)).Nodup
  /-- Columns have different names. -/
  names : (s.columns.map (·.name)).Nodup
  /-- A column goes by its path, and what it says of full text and companion the tables say too. -/
  columns : ∀ c ∈ s.columns, c.path = c.name ∧ c.fullText = decide (c.path ∈ s.fullTextPaths) ∧
    c.companion = (s.companions.lookup c.path).getD ""

end Schema

section Merged

variable {mappings : List IndexMapping} {m : MergedMapping}

/-- **The tables of a merged mapping are in step.** -/
theorem exists_tabled_of_merge (h : mergeMappings mappings = .ok m) :
    ∃ s : MergeState, m = s.result ∧ s.Tabled := by
  rw [mergeMappings] at h
  cases hs : MergeState.addIndices {} mappings with
  | error e => simp [hs, Except.map] at h
  | ok s =>
      refine ⟨s, by simpa [hs, Except.map] using h.symm, ?_⟩
      have hempty : MergeState.Tabled {} := ⟨rfl, List.nodup_nil, List.nodup_nil⟩
      refine MergeState.addIndices_induct (fun _ f h => h.notePath f) ?_ hempty hs
      exact fun _ _ h => ⟨h.types, h.mapped, h.fullText⟩

/-- A column of a schema is a column of the merged mapping with lists put into its type. -/
theorem MergedMapping.mem_columns_schema {arrays : List String} {hasUnmapped : Bool} {c : Column} :
    c ∈ (m.schema arrays hasUnmapped).columns ↔ ∃ column ∈ m.columns,
      { column with type := column.type.wrapLists arrays.contains Path.under column.path } = c :=
  List.mem_map

/-- Lists leave the places of a schema alone. -/
theorem MergedMapping.places_schema (m : MergedMapping) (arrays : List String)
    (hasUnmapped : Bool) :
    (m.schema arrays hasUnmapped).places = m.columns.flatMap fun c => c.type.places c.path := by
  rw [Schema.places, schema, applyArrays, List.flatMap_map]
  simp only [ColumnType.places_wrapLists]

/-- **The columns of a merge have a place for every declared path**, and for no other. -/
theorem MergeState.Joins.mem_places_iff {s : MergeState} (h : s.Joins (topFields mappings))
    (hparsed : ∀ mapping ∈ mappings, mapping.Parsed)
    (hdistinct : ∀ mapping ∈ mappings, mapping.SiblingsDistinct)
    (hnames : ∀ f ∈ declaredFields mappings, f.name ≠ "") {path : String} :
    path ∈ s.result.columns.flatMap (fun c => c.type.places c.path) ↔
      ∃ f ∈ declaredFields mappings, f.path = path := by
  have hholds := h.holds hparsed hdistinct
  have htop : ∀ f ∈ topFields mappings, ∀ g ∈ f.walk, g.name ≠ "" := fun f hf g hg =>
    hnames g (mem_declaredFields.2 ⟨f, hf, hg⟩)
  -- the names of columns and members are those of declared fields
  have hcolumn : ∀ c ∈ s.result.columns, c.path ≠ "" := by
    intro c hc
    rw [(MergeState.mem_columns_result hc).1]
    have hname : c.name ∈ ((topFields mappings).map Field.name).eraseDups :=
      hholds.columns ▸ List.mem_map_of_mem hc
    obtain ⟨f, hf, hfname⟩ := List.mem_map.1 (List.mem_eraseDups.1 hname)
    exact hfname ▸ htop f hf f (Field.mem_walk_self f)
  have hmember : ∀ c ∈ s.result.columns, ∀ names, ∀ name ∈ c.type.namesAt names, name ≠ "" := by
    intro c hc names name hname
    rw [hholds.members c hc, List.mem_eraseDups, List.mem_flatMap] at hname
    obtain ⟨t, ht, hname⟩ := hname
    obtain ⟨f, hf, -, rfl⟩ := mem_typesOf.1 ht
    obtain ⟨g, hg, rfl⟩ := Field.mem_namesAt_type f hname
    exact htop f hf g hg
  have hplaces : ∀ c ∈ s.result.columns,
      (path ∈ c.type.places c.path ↔ ∃ id, (path, id) ∈ c.type.paths c.path) := fun c hc =>
    (h.union_result hc).plain.mem_places_iff (hcolumn c hc) (hmember c hc)
  constructor
  · intro hpath
    obtain ⟨c, hc, hpath⟩ := List.mem_flatMap.1 hpath
    obtain ⟨id, hid⟩ := (hplaces c hc).1 hpath
    obtain ⟨f, hf, hfpath, -⟩ := (hholds.paths path id).1 (List.mem_flatMap.2 ⟨c, hc, hid⟩)
    exact ⟨f, hf, hfpath⟩
  · rintro ⟨f, hf, rfl⟩
    obtain ⟨c, hc, hid⟩ := List.mem_flatMap.1 ((hholds.paths f.path _).2 ⟨f, hf, rfl, rfl⟩)
    exact List.mem_flatMap.2 ⟨c, hc, (hplaces c hc).2 ⟨_, hid⟩⟩

/-- **The schema of a merged mapping represents the mappings**, wherever arrays were seen. -/
theorem MergeState.Joins.represents {s : MergeState} (h : s.Joins (topFields mappings))
    (hm : mergeMappings mappings = .ok s.result)
    (hparsed : ∀ mapping ∈ mappings, mapping.Parsed)
    (hdistinct : ∀ mapping ∈ mappings, mapping.SiblingsDistinct)
    (hnames : ∀ f ∈ declaredFields mappings, f.name ≠ "") (arrays : List String)
    (hasUnmapped : Bool) : (s.result.schema arrays hasUnmapped).Represents mappings := by
  have hplaces : ∀ path, path ∈ (s.result.schema arrays hasUnmapped).places ↔
      ∃ f ∈ declaredFields mappings, f.path = path := by
    intro path
    rw [MergedMapping.places_schema, h.mem_places_iff hparsed hdistinct hnames]
  have hmapped : ∀ path, path ∈ s.result.mappedPaths ↔
      path ∈ (s.result.schema arrays hasUnmapped).places := by
    intro path
    rw [hplaces, mem_mappedPaths_iff hm]
  have hfullText : ∀ path, path ∈ s.result.fullTextPaths ↔
      ∃ f ∈ declaredFields mappings, f.path = path ∧ f.IsAnalyzed := by
    intro path
    rw [mem_fullTextPaths_iff hm]
    simp only [Field.isFullText_iff]
  obtain ⟨u, hu, htabled⟩ := exists_tabled_of_merge hm
  constructor
  · exact hmapped
  · intro path
    have htypes : s.result.pathTypes.map (·.1) = s.result.mappedPaths := by
      rw [hu]
      exact htabled.types
    rw [← hmapped, ← htypes]
    rfl
  · exact fun f hf => (hplaces _).2 ⟨f, hf, rfl⟩
  · intro path hpath
    obtain ⟨f, hf, hfpath, -⟩ := (hfullText path).1 hpath
    exact (hplaces path).2 ⟨f, hf, hfpath⟩
  · exact hfullText
  · intro path target hmem
    -- a path has one companion, so the one in the table is that which is found
    have hlookup : s.result.companions.lookup path = some target := by
      refine (lookup_eq_some_iff_mem ?_).2 hmem
      rw [hu]
      exact htabled.nodup_companions
    obtain ⟨⟨f, hf, rfl⟩, hall⟩ := (companion_iff hm).1 hlookup
    obtain ⟨hfull, hcompanion⟩ := hall f hf rfl
    exact ⟨(hfullText _).2 ⟨f, hf, rfl, f.isFullText_iff.1 hfull⟩, f, hf, rfl,
      Field.mem_multiFields_of_companion? hcompanion⟩
  · change s.result.mappedPaths.Nodup ∧ (s.result.pathTypes.map (·.1)).Nodup ∧
      s.result.fullTextPaths.Nodup ∧ (s.result.companions.map (·.1)).Nodup
    rw [hu]
    exact ⟨htabled.mapped, htabled.types ▸ htabled.mapped, htabled.fullText,
      htabled.nodup_companions⟩
  · have hcolumns : (s.result.schema arrays hasUnmapped).columns.map (·.name) =
        s.result.columns.map (·.name) := by
      rw [MergedMapping.schema, applyArrays, List.map_map]
      rfl
    rw [hcolumns, MergeState.map_name_columns_result]
    exact h.distinct
  · intro c hc
    obtain ⟨column, hcolumn, rfl⟩ := MergedMapping.mem_columns_schema.1 hc
    obtain ⟨hpath, hfull, hcompanion, -⟩ := MergeState.mem_columns_result hcolumn
    refine ⟨hpath, ?_, ?_⟩
    · rw [hpath]
      exact hfull
    · rw [hpath]
      exact hcompanion

/-- **A resolved schema represents what the indices declare**, whatever the sample of documents shows.
-/
theorem resolveSchema_represents {τ : Type} {service : ClusterService τ} {index : String}
    {baseQuery : Option Json} {settings : ScanSettings} {state later last : τ} {response : Json}
    {schema : Schema} (hresponse : service.mapping index state = (.ok response, later))
    (hkeys : response.DistinctKeys) (hmappings : IndexMapping.ofResponse response = .ok mappings)
    (hdeclared : declaredFields mappings ≠ [])
    (hnames : ∀ f ∈ declaredFields mappings, f.name ≠ "")
    (h : resolveSchema service index baseQuery settings state = (.ok schema, last)) :
    schema.Represents mappings := by
  have hdistinct := IndexMapping.siblingsDistinct_of_response hkeys hmappings
  rw [resolveSchema, Task.bind_of_ok hresponse, Task.bind_lift_of_ok hmappings] at h
  rcases mergeMappings_cases hdistinct with ⟨s, hs, hjoins⟩ | ⟨e, he, -⟩
  · rw [Task.bind_lift_of_ok hs] at h
    -- a declared field lies inside a top-level field, and that has a column
    obtain ⟨g, hg⟩ := List.exists_mem_of_ne_nil _ hdeclared
    obtain ⟨f, hf, -⟩ := mem_declaredFields.1 hg
    obtain ⟨c, hc, -⟩ := hjoins.exists_column_result hf
    have hcolumns : s.result.columns.isEmpty = false := by
      rw [List.isEmpty_eq_false_iff]
      exact List.ne_nil_of_mem hc
    rw [hcolumns, if_neg Bool.false_ne_true] at h
    rcases htake : (s.result.sampleOrder index baseQuery settings).take service.scrolls later with
      ⟨e | sample, mid⟩
    · rw [Task.bind_of_error htake] at h
      cases h
    · rw [Task.bind_of_ok htake] at h
      obtain ⟨hschema, -⟩ := Prod.mk.inj h
      obtain rfl := Except.ok.inj hschema
      refine hjoins.represents hs ?_ hdistinct hnames sample.arrays sample.hasUnmapped
      exact fun mapping hmapping => ⟨response, mappings, hmappings, hmapping⟩
  · rw [Task.bind_lift_of_error he] at h
    cases h

/-- Two indices with a title that one of them analyzes, and a document whose tags are an array. -/
theorem resolveSchema_represents_title :
    let leaf (type : String) : Json := .obj [("type", .str type)]
    let title : Json := .obj [("type", .str "text"), ("fields", .obj [("raw", leaf "keyword")])]
    let object (fields : List (String × Json)) : Json := .obj [("properties", .obj fields)]
    let response : Json := .obj [
      ("a", .obj [("mappings", object [("title", title), ("meta", object [("tags", leaf "ip")])])]),
      ("b", .obj [("mappings", object [("meta", object [("size", leaf "long")])])])]
    let hit : Json := .obj [("_source", .obj [("meta", .obj [("tags", .arr [])])])]
    let scrolls : ScrollService Unit :=
      { start := fun _ => pure ⟨none, [hit]⟩
        next := fun _ _ => pure ⟨none, []⟩
        release := fun _ => pure true
        log := fun _ state => state }
    let service : ClusterService Unit := { mapping := fun _ => pure response, scrolls }
    ∃ mappings schema, IndexMapping.ofResponse response = .ok mappings ∧
      resolveSchema service "a,b" none {} () = (.ok schema, ()) ∧ schema.Represents mappings ∧
      schema.columns.map (·.type) =
        [.varchar, .struct [("tags", .list .varchar), ("size", .bigint)]] := by
  intro leaf title object response hit scrolls service
  obtain ⟨mappings, hmappings, hdeclared, hnames⟩ : ∃ mappings,
      IndexMapping.ofResponse response = .ok mappings ∧ declaredFields mappings ≠ [] ∧
        ∀ f ∈ declaredFields mappings, f.name ≠ "" :=
    ⟨_, rfl, List.cons_ne_nil _ _, by decide⟩
  obtain ⟨schema, hschema, htypes⟩ : ∃ schema,
      resolveSchema service "a,b" none {} () = (.ok schema, ()) ∧
        schema.columns.map (·.type) =
          [.varchar, .struct [("tags", .list .varchar), ("size", .bigint)]] := by
    -- closed terms are evaluated much faster than terms in local definitions
    dsimp only [service, scrolls, hit, response, object, title, leaf]
    exact ⟨_, rfl, by decide +kernel⟩
  refine ⟨mappings, schema, hmappings, hschema, ?_, htypes⟩
  refine resolveSchema_represents rfl ?_ hmappings hdeclared hnames hschema
  simp [response, object, title, leaf, Json.distinctKeys_obj_iff,
    Json.distinctKeys_of_not_isObject, Json.IsObject]

/-- **A resolved schema is that of the merged mappings**, whatever the sample shows; without columns
it is the schema of an index that declares nothing. -/
theorem exists_merged_of_resolveSchema {τ : Type} {service : ClusterService τ} {index : String}
    {baseQuery : Option Json} {settings : ScanSettings} {state last : τ} {schema : Schema}
    (h : resolveSchema service index baseQuery settings state = (.ok schema, last)) :
    ∃ mappings m, mergeMappings mappings = .ok m ∧
      (schema = .undeclared m.mappedPaths ∨
        ∃ arrays hasUnmapped, schema = m.schema arrays hasUnmapped) := by
  rw [resolveSchema] at h
  rcases hresponse : service.mapping index state with ⟨e | response, later⟩
  · rw [Task.bind_of_error hresponse] at h
    cases h
  rw [Task.bind_of_ok hresponse] at h
  cases hmappings : IndexMapping.ofResponse response with
  | error e =>
      rw [Task.bind_lift_of_error hmappings] at h
      cases h
  | ok mappings =>
      rw [Task.bind_lift_of_ok hmappings] at h
      cases hm : mergeMappings mappings with
      | error e =>
          rw [Task.bind_lift_of_error hm] at h
          cases h
      | ok m =>
          refine ⟨mappings, m, hm, ?_⟩
          rw [Task.bind_lift_of_ok hm] at h
          by_cases hcolumns : m.columns.isEmpty
          · rw [if_pos hcolumns] at h
            exact .inl (Except.ok.inj (Prod.mk.inj h).1).symm
          · rw [if_neg hcolumns] at h
            rcases htake : (m.sampleOrder index baseQuery settings).take service.scrolls later with
              ⟨e | sample, mid⟩
            · rw [Task.bind_of_error htake] at h
              cases h
            · rw [Task.bind_of_ok htake] at h
              exact .inr ⟨_, _, (Except.ok.inj (Prod.mk.inj h).1).symm⟩

/-- Every column of a resolved schema stands at the path of its name. -/
theorem path_eq_name_of_resolveSchema {τ : Type} {service : ClusterService τ} {index : String}
    {baseQuery : Option Json} {settings : ScanSettings} {state last : τ} {schema : Schema}
    (h : resolveSchema service index baseQuery settings state = (.ok schema, last)) :
    ∀ c ∈ schema.columns, c.path = c.name := by
  obtain ⟨mappings, m, hm, rfl | ⟨arrays, hasUnmapped, rfl⟩⟩ := exists_merged_of_resolveSchema h
  · simp [Schema.undeclared]
  · intro c hc
    obtain ⟨column, hcolumn, rfl⟩ := MergedMapping.mem_columns_schema.1 hc
    obtain ⟨s, rfl, -⟩ := exists_tabled_of_merge hm
    exact (MergeState.mem_columns_result hcolumn).1

/-! ## Tables of a resolved schema -/

/-- A schema is **on its mapped paths** when only these have index types, analyzed text and
companions, and every companion lies one step or more beneath its path. -/
structure Schema.OnMappedPaths (s : Schema) : Prop where
  types : ∀ path type, s.indexType? path = some type → path ∈ s.mappedPaths
  fullText : ∀ path, s.isFullText path = true → path ∈ s.mappedPaths
  companions : ∀ path target, s.companion? path = some target →
    path ∈ s.mappedPaths ∧ Path.Above path target

/-- The schema of merged mappings is on its mapped paths. -/
theorem MergedMapping.schema_onMappedPaths (hm : mergeMappings mappings = .ok m)
    (arrays : List String) (hasUnmapped : Bool) : (m.schema arrays hasUnmapped).OnMappedPaths where
  types path type htype := by
    obtain ⟨s, rfl, htabled⟩ := exists_tabled_of_merge hm
    have hpath : path ∈ s.pathTypes.map (·.1) := List.mem_map.2 ⟨_, mem_of_lookup htype, rfl⟩
    rwa [htabled.types] at hpath
  fullText path hfull := by
    obtain ⟨f, hf, hpath, -⟩ := (mem_fullTextPaths_iff hm).1 (List.contains_iff_mem.1 hfull)
    exact (mem_mappedPaths_iff hm).2 ⟨f, hf, hpath⟩
  companions path target hcompanion := by
    obtain ⟨⟨f, hf, rfl⟩, hall⟩ := (companion_iff hm).1 hcompanion
    obtain ⟨name, -, htarget⟩ := Field.mem_multiFields_of_companion? (hall f hf rfl).2
    exact ⟨(mem_mappedPaths_iff hm).2 ⟨f, hf, rfl⟩, name, htarget⟩

/-- **A resolved schema is on its mapped paths.** -/
theorem onMappedPaths_of_resolveSchema {τ : Type} {service : ClusterService τ} {index : String}
    {baseQuery : Option Json} {settings : ScanSettings} {state last : τ} {schema : Schema}
    (h : resolveSchema service index baseQuery settings state = (.ok schema, last)) :
    schema.OnMappedPaths := by
  obtain ⟨mappings, m, hm, rfl | ⟨arrays, hasUnmapped, rfl⟩⟩ := exists_merged_of_resolveSchema h
  · constructor <;>
      simp [Schema.undeclared, Schema.indexType?, Schema.isFullText, Schema.companion?]
  · exact m.schema_onMappedPaths hm arrays hasUnmapped

end Merged

end SearchTables
