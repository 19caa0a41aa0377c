import SearchTables.Proofs.Mapping.Blame

/-! # Disagreement — where incompatible types part

Two types part where their type ids differ, seen from the members that both have and from the elements
of lists: they **disagree at** the names of the members on the way, since a list has no name of its own.
Types are incompatible exactly when they disagree somewhere (`compatible_eq_false_iff`), so being
compatible does not depend on the order of the two (`compatible_comm`), and the path of a conflict leads
to such a place (`conflictPath_disagrees`). This holds of **regular** types, such as a schema is put
together from; other than in the view by paths, they may hold lists at every level. -/

namespace SearchTables.ColumnType

/-! ## Regular types -/

/-- A type that a resolved schema may hold: no primitive goes by the id of lists or structs, and the
members of a struct have different names. -/
inductive Regular : ColumnType → Prop where
  | primitive {name : String} (not_list : name ≠ "LIST") (not_struct : name ≠ "STRUCT") :
      Regular (.primitive name)
  | list {element : ColumnType} (regular : Regular element) : Regular (.list element)
  | struct {members : List (String × ColumnType)} (distinct : (members.map (·.1)).Nodup)
      (regular : ∀ m ∈ members, Regular m.2) : Regular (.struct members)

variable {a b t u : ColumnType} {name : String} {names : List String}

/-- The members of a regular type are regular. -/
theorem Regular.child (h : a.Regular) (ht : a.child? name = some t) : t.Regular := by
  cases h with
  | primitive => simp [child?, members] at ht
  | list => simp [child?, members] at ht
  | struct distinct regular => exact regular _ ((lookup_eq_some_iff_mem distinct).1 ht)

/-- The primitives of resolved schemas are regular. -/
theorem regular_of_mem_primitives : ∀ t ∈ [varchar, bigint, integer, smallint, tinyint, double, single,
    boolean, timestamp, json], t.Regular := by
  intro t ht
  simp only [List.mem_cons, List.not_mem_nil, or_false] at ht
  rcases ht with rfl | rfl | rfl | rfl | rfl | rfl | rfl | rfl | rfl | rfl <;>
    exact .primitive (by decide) (by decide)

/-! ## Disagreement -/

/-- Two types **disagree at** names when following these leads to two types with different ids. Every
two types on the way are both lists or both structs, so their ids are equal. -/
inductive DisagreesAt : ColumnType → ColumnType → List String → Prop where
  /-- The ids of the two differ. -/
  | here {a b : ColumnType} (h : a.typeId ≠ b.typeId) : DisagreesAt a b []
  /-- The elements of two lists disagree; the way to them has no name. -/
  | element {a b : ColumnType} {names : List String} (h : DisagreesAt a b names) :
      DisagreesAt (.list a) (.list b) names
  /-- The members of one name disagree that two structs have. -/
  | member {xs ys : List (String × ColumnType)} {name : String} {t u : ColumnType} {names : List String}
      (ht : (struct xs).child? name = some t) (hu : (struct ys).child? name = some u)
      (h : DisagreesAt t u names) : DisagreesAt (.struct xs) (.struct ys) (name :: names)

/-- Types disagree in either order. -/
theorem DisagreesAt.symm (h : DisagreesAt a b names) : DisagreesAt b a names := by
  induction h with
  | here h => exact .here (Ne.symm h)
  | element _ ih => exact .element ih
  | member ht hu _ ih => exact .member hu ht ih

/-- Every type is compatible with itself. -/
@[simp] theorem compatible_self (a : ColumnType) : a.compatible a = true := by
  cases a <;> simp [compatible, same_self]

/-- Compatible types have equal ids. -/
theorem typeId_eq_of_compatible (h : a.compatible b = true) : a.typeId = b.typeId := by
  cases a with
  | primitive => rw [eq_of_same h]
  | list element =>
      cases b with
      | list => rfl
      | primitive | struct => cases h
  | struct xs =>
      rw [compatible, Bool.or_eq_true, Bool.and_eq_true, beq_iff_eq] at h
      rcases h with hsame | ⟨hid, -⟩
      · rw [eq_of_same hsame]
      · exact hid.symm

/-- Types that disagree somewhere are not compatible. -/
theorem DisagreesAt.not_compatible (h : DisagreesAt a b names) : a.compatible b = false := by
  induction h with
  | here h => exact Bool.eq_false_iff.2 (mt typeId_eq_of_compatible h)
  | @element a b _ _ ih =>
      -- equal elements would be compatible
      have hsame : same a b = false := Bool.eq_false_iff.2 fun hsame => by
        rw [eq_of_same hsame, compatible_self] at ih
        cases ih
      rw [compatible, hsame, ih, Bool.false_or]
  | @member xs ys name t u _ ht hu _ ih =>
      refine Bool.eq_false_iff.2 fun hcompatible => ?_
      rw [compatible, Bool.or_eq_true, Bool.and_eq_true, compatibleMembers_iff] at hcompatible
      rcases hcompatible with hsame | ⟨-, hmembers⟩
      · -- equal structs would have equal members
        rw [eq_of_same hsame, hu] at ht
        rw [Option.some.inj ht, compatible_self] at ih
        cases ih
      · rw [hmembers (name, t) (mem_of_lookup ht) u hu] at ih
        cases ih

/-! ## The path of a conflict -/

/-- Types with different ids are at odds as a whole. -/
theorem conflictPath_of_typeId_ne (h : a.typeId ≠ b.typeId) (path : String) : a.conflictPath b path = path := by
  cases a with
  | primitive => rfl
  | list =>
      cases b with
      | list => exact absurd rfl h
      | primitive | struct => rfl
  | struct => exact if_neg (Ne.symm h)

/-- **The path of a conflict leads to where the types disagree.** The induction is on the first type: a
list goes on with the elements, a struct with the first of its members that is not compatible with the
member of its name. -/
theorem exists_disagreesAt (ha : a.Regular) (hb : b.Regular) (h : a.compatible b = false) (path : String) :
    ∃ names, a.conflictPath b path = Path.ofSegments (path :: names) ∧ DisagreesAt a b names := by
  induction ha generalizing b path with
  | @primitive name not_list not_struct =>
      have hid : (primitive name).typeId ≠ b.typeId := by
        intro hid
        cases hb with
        | @primitive other =>
            obtain rfl : name = other := hid
            rw [compatible_self] at h
            cases h
        | list => exact not_list hid
        | struct => exact not_struct hid
      exact ⟨[], rfl, .here hid⟩
  | @list element _ ih =>
      by_cases hid : (list element).typeId = b.typeId
      · cases hb with
        | primitive not_list => exact absurd hid.symm not_list
        | list regular =>
            rw [compatible, Bool.or_eq_false_iff] at h
            obtain ⟨names, hpath, hdisagree⟩ := ih regular h.2 path
            exact ⟨names, hpath, .element hdisagree⟩
        | struct => simp [typeId] at hid
      · exact ⟨[], conflictPath_of_typeId_ne hid path, .here hid⟩
  | @struct xs distinct _ ih =>
      by_cases hid : (struct xs).typeId = b.typeId
      · cases hb with
        | primitive _ not_struct => exact absurd hid.symm not_struct
        | list => simp [typeId] at hid
        | @struct ys distinct' regular' =>
            -- equal ids, so a member is at odds that both have
            have hmembers : compatibleMembers xs (.struct ys) = false := by
              rw [compatible, Bool.or_eq_false_iff] at h
              simpa [typeId] using h.2
            obtain ⟨m, hm, u, hu, hconflict, hpath⟩ := conflictInMembers_eq path hmembers
            have hregular : u.Regular := (Regular.struct distinct' regular').child hu
            obtain ⟨names, hdeeper, hdisagree⟩ := ih m hm hregular hconflict (path ++ "." ++ m.1)
            have ht : (struct xs).child? m.1 = some m.2 := (lookup_eq_some_iff_mem distinct).2 hm
            refine ⟨m.1 :: names, ?_, .member ht hu hdisagree⟩
            have hinside : (struct xs).conflictPath (.struct ys) path =
                conflictInMembers xs (.struct ys) path := if_pos rfl
            rw [hinside, hpath, hdeeper, Path.ofSegments_cons_cons]
      · exact ⟨[], conflictPath_of_typeId_ne hid path, .here hid⟩

/-- **Regular types are incompatible exactly when they disagree somewhere.** -/
theorem compatible_eq_false_iff (ha : a.Regular) (hb : b.Regular) :
    a.compatible b = false ↔ ∃ names, DisagreesAt a b names := by
  constructor
  · intro h
    obtain ⟨names, -, hdisagree⟩ := exists_disagreesAt ha hb h ""
    exact ⟨names, hdisagree⟩
  · rintro ⟨names, hdisagree⟩
    exact hdisagree.not_compatible

/-- Two regular types are compatible in either order. -/
theorem compatible_comm (ha : a.Regular) (hb : b.Regular) : a.compatible b = b.compatible a := by
  have hflip : ∀ {a b : ColumnType}, a.Regular → b.Regular → a.compatible b = false →
      b.compatible a = false := by
    intro a b ha hb h
    obtain ⟨names, hdisagree⟩ := (compatible_eq_false_iff ha hb).1 h
    exact hdisagree.symm.not_compatible
  rw [Bool.eq_iff_iff, ← not_iff_not, Bool.not_eq_true, Bool.not_eq_true]
  exact ⟨hflip ha hb, hflip hb ha⟩

/-- **The path of a conflict is where two types disagree.** Being compatible is reflexive and symmetric
on regular types, and of two that are not compatible, in either order, the path of the conflict goes on
from the given one through the names of members that both have, down to types with different ids. -/
theorem conflictPath_disagrees (ha : a.Regular) (hb : b.Regular) (path : String) :
    a.compatible a = true ∧ a.compatible b = b.compatible a ∧
      (a.compatible b = false →
        (∃ names, a.conflictPath b path = Path.ofSegments (path :: names) ∧ DisagreesAt a b names) ∧
        ∃ names, b.conflictPath a path = Path.ofSegments (path :: names) ∧ DisagreesAt b a names) := by
  have hcomm := compatible_comm ha hb
  exact ⟨compatible_self a, hcomm, fun h =>
    ⟨exists_disagreesAt ha hb h path, exists_disagreesAt hb ha (hcomm ▸ h) path⟩⟩

/-- Lists of structs: the members that both have are in another order, and one more is on each side. -/
theorem conflictPath_disagrees_lists :
    let first : ColumnType := .struct [("id", bigint), ("tags", .list (.struct [("x", json), ("y", varchar)]))]
    let second : ColumnType := .struct [("tags", .list (.struct [("y", .list varchar), ("z", double)]))]
    first.compatible second = false ∧ first.conflictPath second "f" = "f.tags.y" ∧
      second.conflictPath first "f" = "f.tags.y" ∧
      (∃ names, "f.tags.y" = Path.ofSegments ("f" :: names) ∧ DisagreesAt first second names) := by
  intro first second
  have hfirst : first.Regular := by
    refine .struct (by decide) (List.forall_mem_cons.2 ⟨?_, List.forall_mem_singleton.2 (.list ?_)⟩)
    · exact regular_of_mem_primitives _ (by simp)
    · refine .struct (by decide) (List.forall_mem_cons.2 ⟨?_, List.forall_mem_singleton.2 ?_⟩) <;>
        exact regular_of_mem_primitives _ (by simp)
  have hsecond : second.Regular := by
    refine .struct (by decide) (List.forall_mem_singleton.2 (.list (.struct (by decide) ?_)))
    refine List.forall_mem_cons.2 ⟨.list ?_, List.forall_mem_singleton.2 ?_⟩ <;>
      exact regular_of_mem_primitives _ (by simp)
  have hincompatible : first.compatible second = false := by decide
  have hpath : first.conflictPath second "f" = "f.tags.y" := by decide
  obtain ⟨hdisagree, -⟩ := (conflictPath_disagrees hfirst hsecond "f").2.2 hincompatible
  exact ⟨hincompatible, hpath, by decide, hpath ▸ hdisagree⟩

end SearchTables.ColumnType
