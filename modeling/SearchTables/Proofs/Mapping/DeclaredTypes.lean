import SearchTables.Mapping.Merge
import SearchTables.Proofs.Outcome
import SearchTables.Proofs.Path
import SearchTables.Proofs.Mapping.TypeMerge

/-! # Declared types — the paths inside a type, and the fields behind them

A mapping declares its fields one beneath the other, and the type of a field repeats that tree: the
paths inside the type are the paths of the fields inside the field (`Field.Placed.map_walk`). The
types that an index with distinct sibling names declares are plain (`Field.plain_type`). -/

namespace SearchTables

/-! ## Paths inside a type -/

namespace ColumnType

mutual

/-- The paths inside a type at a path, the path itself first, each with the type id there. -/
def paths (path : String) : ColumnType → List (String × String)
  | .primitive name => [(path, name)]
  | .list _ => [(path, "LIST")]
  | .struct members => (path, "STRUCT") :: memberPaths path members

/-- The paths inside the members of a struct at a path. -/
def memberPaths (path : String) : List (String × ColumnType) → List (String × String)
  | [] => []
  | (name, type) :: rest => paths (Path.under path name) type ++ memberPaths path rest

end

/-- A path inside the members is inside one of them. -/
theorem mem_memberPaths {path : String} {members : List (String × ColumnType)}
    {p : String × String} :
    p ∈ memberPaths path members ↔ ∃ m ∈ members, p ∈ m.2.paths (Path.under path m.1) := by
  induction members with
  | nil => simp [memberPaths]
  | cons m rest ih =>
      obtain ⟨name, type⟩ := m
      rw [memberPaths, List.mem_append, ih, List.exists_mem_cons_iff]

/-- **The paths inside a plain type are those of member names at which it has an id.** -/
theorem Plain.mem_paths_iff {t : ColumnType} (h : t.Plain) {path p i : String} :
    (p, i) ∈ t.paths path ↔ ∃ names, t.idAt names = some i ∧ names.foldl Path.under path = p := by
  induction h generalizing path with
  | @primitive name _ =>
      rw [paths, List.mem_singleton, Prod.mk.injEq]
      constructor
      · rintro ⟨rfl, rfl⟩
        exact ⟨[], rfl, rfl⟩
      · rintro ⟨names, hid, rfl⟩
        cases names with
        | nil => exact ⟨rfl, (Option.some.inj hid).symm⟩
        | cons n names => simp [idAt_cons, child?, members] at hid
  | @struct xs distinct plain ih =>
      rw [paths, List.mem_cons, mem_memberPaths, Prod.mk.injEq]
      constructor
      · rintro (⟨rfl, rfl⟩ | ⟨m, hm, hp⟩)
        · exact ⟨[], rfl, rfl⟩
        · -- a path inside a member is one name longer
          obtain ⟨names, hid, rfl⟩ := (ih m hm).1 hp
          have hchild : (ColumnType.struct xs).child? m.1 = some m.2 :=
            (lookup_eq_some_iff_mem distinct).2 hm
          exact ⟨m.1 :: names, by rw [idAt_cons, hchild, Option.bind_some, hid], rfl⟩
      · rintro ⟨names, hid, rfl⟩
        cases names with
        | nil => exact .inl ⟨rfl, (Option.some.inj hid).symm⟩
        | cons n names =>
            rw [idAt_cons, Option.bind_eq_some_iff] at hid
            obtain ⟨t, ht, hid⟩ := hid
            have hm := (lookup_eq_some_iff_mem distinct).1 ht
            exact .inr ⟨(n, t), hm, (ih _ hm).2 ⟨names, hid, rfl⟩⟩

/-- The paths inside a union are those inside its parts. -/
theorem UnionOf.mem_paths_iff {t : ColumnType} {parts : List ColumnType} (h : t.UnionOf parts)
    (hparts : ∀ q ∈ parts, q.Plain) {path p i : String} :
    (p, i) ∈ t.paths path ↔ ∃ q ∈ parts, (p, i) ∈ q.paths path := by
  rw [h.plain.mem_paths_iff]
  constructor
  · rintro ⟨names, hid, hp⟩
    obtain ⟨q, hq, hid⟩ := (h.ids names i).1 hid
    exact ⟨q, hq, (hparts q hq).mem_paths_iff.2 ⟨names, hid, hp⟩⟩
  · rintro ⟨q, hq, hp⟩
    obtain ⟨names, hid, hp⟩ := (hparts q hq).mem_paths_iff.1 hp
    exact ⟨names, (h.ids names i).2 ⟨q, hq, hid⟩, hp⟩

end ColumnType

/-! ## Fields in their places -/

namespace Field

/-- A field in its place: its path, and that of every field inside it, ends in its name. -/
inductive Placed : String → Field → Prop where
  | declare {parent name indexType : String} {children : List Field}
      {multiFields : List (String × String)}
      (inside : ∀ c ∈ children, Placed (Path.under parent name) c) :
      Placed parent (.declare name (Path.under parent name) indexType children multiFields)

/-- The path of a field in its place ends in its name. -/
theorem Placed.path_eq {parent : String} {f : Field} (h : f.Placed parent) :
    f.path = Path.under parent f.name := by
  cases h with
  | declare => rfl

mutual

/-- A definition declares a field in its place. -/
theorem placed_ofDefinition (name parent : String) : ∀ definition : Json,
    (ofDefinition name parent definition).Placed parent
  | .obj members => by
      rw [ofDefinition]
      exact .declare (placed_childrenOf _ members)
  | .null | .bool _ | .int _ | .float _ | .str _ | .arr _ => by
      rw [ofDefinition]
      · exact .declare (by simp)
      · simp

/-- The fields inside a definition are in their places. -/
theorem placed_childrenOf (path : String) : ∀ members : List (String × Json),
    ∀ c ∈ childrenOf path members, c.Placed path
  | [] => by simp [childrenOf]
  | (key, value) :: rest => by
      -- only the first member named `properties` is looked at
      by_cases hk : key = "properties"
      · cases value with
        | obj definitions =>
            rw [childrenOf, if_pos hk]
            exact placed_ofDefinitions path definitions
        | _ => simp [childrenOf, hk]
      · cases value <;> simpa only [childrenOf, if_neg hk] using placed_childrenOf path rest

/-- Several definitions declare fields in their places. -/
theorem placed_ofDefinitions (parent : String) : ∀ definitions : List (String × Json),
    ∀ c ∈ ofDefinitions parent definitions, c.Placed parent
  | [] => by simp [ofDefinitions]
  | (name, definition) :: rest => by
      rw [ofDefinitions, List.forall_mem_cons]
      exact ⟨placed_ofDefinition name parent definition, placed_ofDefinitions parent rest⟩

end

/-- What lies inside several fields lies inside one of them. -/
theorem mem_walkAll {fields : List Field} {g : Field} :
    g ∈ walkAll fields ↔ ∃ f ∈ fields, g ∈ f.walk := by
  induction fields with
  | nil => simp [walkAll]
  | cons f rest ih => rw [walkAll, List.mem_append, ih, List.exists_mem_cons_iff]

/-! ## The type of a field -/

/-- The primitive of every field type has a name that no struct goes by. -/
theorem exists_primitive (indexType : String) :
    ∃ name, name ≠ "STRUCT" ∧
      (relationalTypes.lookup indexType).getD .varchar = .primitive name := by
  have hall : ∀ entry ∈ relationalTypes, ∃ name, name ≠ "STRUCT" ∧ entry.2 = .primitive name := by
    simp [relationalTypes]
  cases h : relationalTypes.lookup indexType with
  | none => exact ⟨"VARCHAR", by decide, rfl⟩
  | some type => exact hall (indexType, type) (mem_of_lookup h)

/-- The members that fields declare go by their names. -/
theorem map_fst_memberTypes (fields : List Field) :
    (memberTypes fields).map (·.1) = fields.map name := by
  induction fields with
  | nil => rfl
  | cons f rest ih => rw [memberTypes, List.map_cons, List.map_cons, ih]

mutual

/-- **The paths inside the type of a field are the paths of the fields inside it.** -/
theorem Placed.map_walk {parent : String} : ∀ {f : Field}, f.Placed parent →
    f.walk.map (fun g => (g.path, g.type.typeId)) = f.type.paths f.path
  | .declare _ path indexType [] _, _ => by
      -- a field without fields inside it has a primitive type, any other a struct
      obtain ⟨primitive, -, hprimitive⟩ := exists_primitive indexType
      simp [walk, walkAll, Field.path, type, hprimitive, ColumnType.paths, ColumnType.typeId]
  | .declare _ _ _ (child :: children) _, .declare inside => by
      rw [walk, List.map_cons, type, ColumnType.paths]
      exact congrArg _ (map_walkAll inside)

/-- The paths inside the members that fields declare are the paths of the fields inside them. -/
theorem map_walkAll {parent : String} : ∀ {fields : List Field}, (∀ f ∈ fields, f.Placed parent) →
    (walkAll fields).map (fun g => (g.path, g.type.typeId)) =
      ColumnType.memberPaths parent (memberTypes fields)
  | [], _ => rfl
  | f :: rest, h => by
      rw [List.forall_mem_cons] at h
      rw [walkAll, List.map_append, memberTypes, ColumnType.memberPaths, h.1.map_walk,
        map_walkAll h.2, h.1.path_eq]

end

/-- The paths inside the type of a top-level field, one by one. -/
theorem Placed.mem_paths_iff {f : Field} (h : f.Placed "") {path id : String} :
    (path, id) ∈ f.type.paths f.name ↔ ∃ g ∈ f.walk, g.path = path ∧ g.type.typeId = id := by
  have hpath : f.path = f.name := h.path_eq.trans (Path.under_empty f.name)
  rw [← hpath, ← h.map_walk, List.mem_map]
  simp only [Prod.mk.injEq]

mutual

/-- Distinct sibling names make the type of a field plain. -/
theorem plain_type : ∀ f : Field, (∀ g ∈ f.walk, (g.children.map name).Nodup) → f.type.Plain
  | .declare _ _ indexType [] _, _ => by
      obtain ⟨primitive, hname, hprimitive⟩ := exists_primitive indexType
      rw [type, hprimitive]
      exact .primitive hname
  | .declare _ _ _ (child :: children) _, h => by
      rw [walk, List.forall_mem_cons] at h
      rw [type]
      refine .struct ?_ (plain_memberTypes (child :: children) h.2)
      rw [map_fst_memberTypes]
      exact h.1

/-- Distinct sibling names make the types of members plain. -/
theorem plain_memberTypes : ∀ fields : List Field,
    (∀ g ∈ walkAll fields, (g.children.map name).Nodup) →
    ∀ m ∈ memberTypes fields, m.2.Plain
  | [], _ => by simp [memberTypes]
  | f :: rest, h => by
      rw [walkAll, List.forall_mem_append] at h
      rw [memberTypes, List.forall_mem_cons]
      exact ⟨plain_type f h.1, plain_memberTypes rest h.2⟩

end

end Field

/-! ## Mappings -/

namespace IndexMapping

/-- A mapping that some mapping response declares. -/
def Parsed (mapping : IndexMapping) : Prop :=
  ∃ response mappings, ofResponse response = .ok mappings ∧ mapping ∈ mappings

/-- Siblings in a mapping, at the top and inside every field, have distinct names. -/
def SiblingsDistinct (mapping : IndexMapping) : Prop :=
  (mapping.fields.map Field.name).Nodup ∧
    ∀ f ∈ Field.walkAll mapping.fields, (f.children.map Field.name).Nodup

instance (mapping : IndexMapping) : Decidable mapping.SiblingsDistinct :=
  inferInstanceAs (Decidable (_ ∧ _))

/-- A mapping out of a list of entries is that of one of the entries. -/
theorem exists_ofEntry {entries : List (String × Json)} {mappings : List IndexMapping}
    (h : ofEntries entries = .ok mappings) {mapping : IndexMapping} (hm : mapping ∈ mappings) :
    ∃ entry ∈ entries, ofEntry entry.1 entry.2 = .ok mapping := by
  induction entries generalizing mappings with
  | nil =>
      obtain rfl := Except.ok.inj h
      simp at hm
  | cons entry rest ih =>
      obtain ⟨index, value⟩ := entry
      rw [ofEntries] at h
      obtain ⟨first, hfirst, h⟩ := bind_eq_ok.1 h
      obtain ⟨others, hothers, h⟩ := bind_eq_ok.1 h
      obtain rfl := pure_eq_ok.1 h
      rcases List.mem_cons.1 hm with rfl | hm
      · exact ⟨_, List.mem_cons_self .., hfirst⟩
      · obtain ⟨entry, hentry, h⟩ := ih hothers hm
        exact ⟨entry, List.mem_cons_of_mem _ hentry, h⟩

/-- The fields of a parsed mapping are in their places at the top. -/
theorem Parsed.placed {mapping : IndexMapping} (h : mapping.Parsed) :
    ∀ f ∈ mapping.fields, f.Placed "" := by
  obtain ⟨response, mappings, hresponse, hm⟩ := h
  cases response with
  | obj entries =>
      obtain ⟨⟨index, value⟩, -, hentry⟩ := exists_ofEntry hresponse hm
      cases value with
      | obj members =>
          obtain rfl := Except.ok.inj hentry
          exact Field.placed_ofDefinitions "" _
      | _ => simp [ofEntry] at hentry
  | _ => simp [ofResponse] at hresponse

/-- The top-level fields of a mapping with distinct siblings have plain types. -/
theorem SiblingsDistinct.plain {mapping : IndexMapping} (h : mapping.SiblingsDistinct) :
    ∀ f ∈ mapping.fields, f.type.Plain := by
  intro f hf
  exact Field.plain_type f fun g hg => h.2 g (Field.mem_walkAll.2 ⟨f, hf, hg⟩)

end IndexMapping

end SearchTables
