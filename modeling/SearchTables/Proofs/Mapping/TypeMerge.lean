import SearchTables.Schema.ColumnType
import SearchTables.Json.Basic
import Mathlib.Data.List.Perm.Basic

/-! # Type merging — compatibility and union, path by path

Seen from outside a type is a tree: it has a type id at every path of member names that it goes
down. In this view two types are compatible when they have the same id wherever both have one
(`compatible_iff_agree`), and the merge of two compatible types has the ids of both (`idAt_merge`).
Types of the same view differ in the order of members alone (`Reordered.of_idAt`). This holds of
**plain** types, such as mappings declare: no list, distinct member names, and no primitive that
goes by the id of structs. -/

namespace SearchTables.ColumnType

/-! ## Plain types -/

/-- A type as mappings declare it. -/
inductive Plain : ColumnType → Prop where
  | primitive {name : String} (not_struct : name ≠ "STRUCT") : Plain (.primitive name)
  | struct {members : List (String × ColumnType)} (distinct : (members.map (·.1)).Nodup)
      (plain : ∀ m ∈ members, Plain m.2) : Plain (.struct members)

/-- A look-up finds something when the name is there. -/
theorem lookup_isSome_iff_mem {members : List (String × ColumnType)} {name : String} :
    (members.lookup name).isSome = true ↔ name ∈ members.map (·.1) := by
  rw [List.lookup_isSome_iff, List.mem_map]
  simp only [beq_iff_eq]
  constructor
  · rintro ⟨p, hp, e⟩
    exact ⟨p, hp, e.symm⟩
  · rintro ⟨p, hp, e⟩
    exact ⟨p, hp, e.symm⟩

/-- The members of a plain type are plain. -/
theorem Plain.child {a t : ColumnType} (h : a.Plain) {name : String} (ht : a.child? name = some t) :
    t.Plain := by
  cases h with
  | primitive => simp [child?, members] at ht
  | struct distinct plain => exact plain _ ((lookup_eq_some_iff_mem distinct).1 ht)

/-! ## The view by paths -/

/-- The type at a path of member names. -/
def at? (t : ColumnType) : List String → Option ColumnType
  | [] => some t
  | name :: path =>
      match t.child? name with
      | some u => u.at? path
      | none => none

/-- The type id at a path. -/
def idAt (t : ColumnType) (path : List String) : Option String := (t.at? path).map typeId

/-- The names of the members at a path, in order. -/
def namesAt (t : ColumnType) (path : List String) : List String :=
  match t.at? path with
  | some u => u.members.map (·.1)
  | none => []

theorem at?_cons (t : ColumnType) (name : String) (path : List String) :
    t.at? (name :: path) = (t.child? name).bind (·.at? path) := by
  rw [at?]
  cases t.child? name <;> rfl

@[simp] theorem idAt_nil (t : ColumnType) : t.idAt [] = some t.typeId := rfl

theorem idAt_cons (t : ColumnType) (name : String) (path : List String) :
    t.idAt (name :: path) = (t.child? name).bind (·.idAt path) := by
  rw [idAt, at?_cons]
  cases t.child? name <;> rfl

theorem namesAt_cons (t : ColumnType) (name : String) (path : List String) :
    t.namesAt (name :: path) = ((t.child? name).map (·.namesAt path)).getD [] := by
  rw [namesAt, at?_cons]
  cases t.child? name <;> rfl

/-- Types **agree** when they have the same id wherever both have one. -/
def Agree (a b : ColumnType) : Prop :=
  ∀ path i j, a.idAt path = some i → b.idAt path = some j → i = j

/-- Agreement goes both ways. -/
theorem Agree.symm {a b : ColumnType} (h : a.Agree b) : b.Agree a :=
  fun path i j hi hj => (h path j i hj hi).symm

/-- Every type agrees with itself. -/
theorem agree_self (a : ColumnType) : a.Agree a := by
  intro path i j hi hj
  rw [hi] at hj
  exact Option.some.inj hj

/-- Members of the same name agree if their structs do. -/
theorem Agree.child {a b t u : ColumnType} (h : a.Agree b) {name : String}
    (ht : a.child? name = some t)
    (hu : b.child? name = some u) : t.Agree u := by
  intro path i j hi hj
  refine h (name :: path) i j ?_ ?_
  · rw [idAt_cons, ht, Option.bind_some, hi]
  · rw [idAt_cons, hu, Option.bind_some, hj]

/-- A type that agrees with a plain primitive is that primitive. -/
theorem Agree.eq_primitive {name : String} {b : ColumnType} (hname : name ≠ "STRUCT") (hb : b.Plain)
    (h : (primitive name).Agree b) : b = .primitive name := by
  have hid : name = b.typeId := h [] _ _ rfl rfl
  cases hb with
  | primitive => rw [hid]; rfl
  | struct => exact absurd hid hname

/-- A plain type that agrees with a struct is a struct. -/
theorem Agree.eq_struct {xs : List (String × ColumnType)} {b : ColumnType} (hb : b.Plain)
    (h : (struct xs).Agree b) : ∃ ys, b = .struct ys := by
  have hid : "STRUCT" = b.typeId := h [] _ _ rfl rfl
  cases hb with
  | primitive hname => exact absurd hid.symm hname
  | struct => exact ⟨_, rfl⟩

/-! ## Compatibility -/

/-- Members are compatible with a type when each is with the member of its name, where there is one.
-/
theorem compatibleMembers_iff {xs : List (String × ColumnType)} {second : ColumnType} :
    compatibleMembers xs second = true ↔
      ∀ m ∈ xs, ∀ u, second.child? m.1 = some u → compatible m.2 u = true := by
  induction xs with
  | nil => simp [compatibleMembers]
  | cons m rest ih =>
      obtain ⟨n, t⟩ := m
      rw [compatibleMembers, Bool.and_eq_true, ih, List.forall_mem_cons]
      refine and_congr_left fun _ => ?_
      cases second.child? n <;> simp

/-- **Plain types are compatible when they agree.** -/
theorem compatible_iff_agree {a b : ColumnType} (ha : a.Plain) (hb : b.Plain) :
    a.compatible b = true ↔ a.Agree b := by
  induction ha generalizing b with
  | @primitive name hname =>
      rw [compatible, same_iff]
      constructor
      · rintro rfl
        exact agree_self _
      · intro h
        exact (h.eq_primitive hname hb).symm
  | @struct xs distinct plain ih =>
      rw [compatible, Bool.or_eq_true, same_iff, Bool.and_eq_true, compatibleMembers_iff]
      constructor
      -- the empty path compares the ids, every other path goes on in a member of both
      · rintro (rfl | ⟨hid, h⟩)
        · exact agree_self _
        · intro path i j hi hj
          cases path with
          | nil =>
              obtain rfl := Option.some.inj hi
              obtain rfl := Option.some.inj hj
              exact (beq_iff_eq.1 hid).symm
          | cons name path =>
              rw [idAt_cons, Option.bind_eq_some_iff] at hi hj
              obtain ⟨t, ht, hi⟩ := hi
              obtain ⟨u, hu, hj⟩ := hj
              have hmem := (lookup_eq_some_iff_mem distinct).1 ht
              exact (ih _ hmem (hb.child hu)).1 (h _ hmem u hu) path i j hi hj
      · intro h
        refine .inr ⟨beq_iff_eq.2 (h [] _ _ rfl rfl).symm, fun m hm u hu => ?_⟩
        have hm' : (struct xs).child? m.1 = some m.2 := (lookup_eq_some_iff_mem distinct).2 hm
        exact (ih m hm (hb.child hu)).2 (h.child hm' hu)

/-! ## Merging -/

/-- Merging leaves the type id alone. -/
theorem typeId_merge (a b : ColumnType) : (a.merge b).typeId = a.typeId := by
  cases a with
  | primitive => rfl
  | list => cases b <;> rfl
  | struct xs =>
      rw [merge]
      split <;> rfl

/-- A plain type merged with itself is itself. -/
theorem Plain.merge_self {a : ColumnType} (h : a.Plain) : a.merge a = a := by
  cases h with
  | primitive => rfl
  | struct => rw [merge, if_pos (same_self _)]

/-- What two structs have under one name comes to this in their merge. -/
def mergeAt : Option ColumnType → Option ColumnType → Option ColumnType
  | some t, some u => some (merge t u)
  | some t, none => some t
  | none, found => found

@[simp] theorem mergeAt_none (found : Option ColumnType) : mergeAt found none = found := by
  cases found <;> rfl

/-- The id of what is merged: that of the first, or else of the second. -/
theorem map_typeId_mergeAt (x y : Option ColumnType) :
    (mergeAt x y).map typeId = (x.map typeId).or (y.map typeId) := by
  cases x with
  | none => rfl
  | some t =>
      cases y with
      | none => rfl
      | some u => simp [mergeAt, typeId_merge]

/-- Merging keeps the names of members. -/
theorem map_fst_mergeMembers (xs : List (String × ColumnType)) (second : ColumnType) :
    (mergeMembers xs second).map (·.1) = xs.map (·.1) := by
  induction xs with
  | nil => rfl
  | cons m rest ih =>
      obtain ⟨n, t⟩ := m
      rw [mergeMembers, List.map_cons, List.map_cons, ih]

/-- A merged member is the member merged with that of its name. -/
theorem lookup_mergeMembers (xs : List (String × ColumnType)) (second : ColumnType)
    (name : String) :
    (mergeMembers xs second).lookup name =
      (xs.lookup name).bind fun t => mergeAt (some t) (second.child? name) := by
  induction xs with
  | nil => rfl
  | cons m rest ih =>
      obtain ⟨n, t⟩ := m
      rw [mergeMembers, List.lookup_cons, List.lookup_cons]
      by_cases hn : name = n
      · subst hn
        cases h : second.child? name <;> simp [mergeAt]
      · have hne : (name == n) = false := by simpa using hn
        simp [hne, ih]

/-- Whether a struct has no member of a name. -/
def lacks (xs : List (String × ColumnType)) (m : String × ColumnType) : Bool :=
  !xs.any fun (n, _) => n == m.1

/-- A struct lacks a name that is none of its names. -/
theorem lacks_iff {xs : List (String × ColumnType)} {m : String × ColumnType} :
    lacks xs m = true ↔ m.1 ∉ xs.map (·.1) := by
  rw [lacks, Bool.not_eq_true', ← Bool.not_eq_true, List.any_eq_true, List.mem_map]
  simp only [beq_iff_eq]

/-- The members that a struct lacks are looked up as they are. -/
theorem lookup_filter_lacks (xs ys : List (String × ColumnType)) (name : String) :
    (ys.filter (lacks xs)).lookup name = if name ∈ xs.map (·.1) then none else ys.lookup name := by
  induction ys with
  | nil => simp
  | cons m rest ih =>
      obtain ⟨n, t⟩ := m
      by_cases hl : lacks xs (n, t) = true
      · rw [List.filter_cons_of_pos hl, List.lookup_cons, List.lookup_cons, ih]
        by_cases hn : name = n
        · subst hn
          have hout : name ∉ xs.map (·.1) := lacks_iff.1 hl
          rw [if_neg hout, if_neg hout]
        · have hne : (name == n) = false := by simpa using hn
          rw [hne]
      · rw [List.filter_cons_of_neg hl, ih, List.lookup_cons]
        have hin : n ∈ xs.map (·.1) := by
          by_contra hc
          exact hl (lacks_iff.2 hc)
        by_cases hn : name = n
        · subst hn
          rw [if_pos hin, if_pos hin]
        · have hne : (name == n) = false := by simpa using hn
          rw [hne]

/-- Two different structs merge member by member. -/
theorem merge_struct_of_ne {xs ys : List (String × ColumnType)} (h : xs ≠ ys) :
    (struct xs).merge (.struct ys) =
      .struct (mergeMembers xs (.struct ys) ++ ys.filter (lacks xs)) := by
  have hsame : ¬ same (.struct xs) (.struct ys) = true := by
    rw [same_iff]
    simpa using h
  rw [merge, if_neg hsame]
  rfl

section Merge

variable {a b : ColumnType}

/-- Under every name the merge has what both types have there. -/
theorem child?_merge (ha : a.Plain) (hb : b.Plain) (h : a.Agree b) (name : String) :
    (a.merge b).child? name = mergeAt (a.child? name) (b.child? name) := by
  cases ha with
  | primitive hname =>
      obtain rfl := h.eq_primitive hname hb
      rfl
  | @struct xs distinct plain =>
      obtain ⟨ys, rfl⟩ := h.eq_struct hb
      -- equal structs are not merged member by member, so they are a case of their own
      by_cases hne : xs = ys
      · subst hne
        rw [(Plain.struct distinct plain).merge_self]
        cases ht : (struct xs).child? name with
        | none => rfl
        | some t => rw [mergeAt, ((Plain.struct distinct plain).child ht).merge_self]
      · rw [merge_struct_of_ne hne]
        simp only [child?, members]
        rw [List.lookup_append, lookup_mergeMembers, lookup_filter_lacks]
        cases ht : xs.lookup name with
        | none =>
            have hin : name ∉ xs.map (·.1) := by simp [← lookup_isSome_iff_mem, ht]
            rw [if_neg hin]
            rfl
        | some t =>
            have hin : name ∈ xs.map (·.1) := by simp [← lookup_isSome_iff_mem, ht]
            rw [if_pos hin, Option.bind_some, Option.or_none]
            rfl

/-- At every path the merge has what both types have there. -/
theorem at?_merge (ha : a.Plain) (hb : b.Plain) (h : a.Agree b) (path : List String) :
    (a.merge b).at? path = mergeAt (a.at? path) (b.at? path) := by
  induction path generalizing a b with
  | nil => rfl
  | cons name path ih =>
      rw [at?_cons, at?_cons, at?_cons, child?_merge ha hb h]
      cases ht : a.child? name with
      | none => rfl
      | some t =>
          cases hu : b.child? name with
          | none => exact (mergeAt_none _).symm
          | some u => exact ih (ha.child ht) (hb.child hu) (h.child ht hu)

/-- **The merge has the ids of both types.** -/
theorem idAt_merge (ha : a.Plain) (hb : b.Plain) (h : a.Agree b) (path : List String) :
    (a.merge b).idAt path = (a.idAt path).or (b.idAt path) := by
  rw [idAt, at?_merge ha hb h, map_typeId_mergeAt]
  rfl

/-- The merge has the members of the first type, then those that only the second one has. -/
theorem map_fst_members_merge (ha : a.Plain) (hb : b.Plain) (h : a.Agree b) :
    (a.merge b).members.map (·.1) =
      a.members.map (·.1) ++ (b.members.map (·.1)).filter fun n => n ∉ a.members.map (·.1) := by
  cases ha with
  | primitive hname =>
      obtain rfl := h.eq_primitive hname hb
      rfl
  | @struct xs distinct plain =>
      obtain ⟨ys, rfl⟩ := h.eq_struct hb
      by_cases hne : xs = ys
      · subst hne
        rw [(Plain.struct distinct plain).merge_self, List.filter_eq_nil_iff.2 (by simp),
          List.append_nil]
      · rw [merge_struct_of_ne hne]
        simp only [members, List.map_append, map_fst_mergeMembers, List.filter_map]
        congr 2
        refine List.filter_congr fun m _ => ?_
        rw [Bool.eq_iff_iff, lacks_iff]
        exact decide_eq_true_iff.symm

/-- At every path the members of the first type come first, then those that only the second one has.
-/
theorem namesAt_merge (ha : a.Plain) (hb : b.Plain) (h : a.Agree b) (path : List String) :
    (a.merge b).namesAt path =
      a.namesAt path ++ (b.namesAt path).filter fun n => n ∉ a.namesAt path := by
  induction path generalizing a b with
  | nil => exact map_fst_members_merge ha hb h
  | cons name path ih =>
      rw [namesAt_cons, namesAt_cons, namesAt_cons, child?_merge ha hb h]
      cases ht : a.child? name with
      | none => simp [mergeAt]
      | some t =>
          cases hu : b.child? name with
          | none => simp [mergeAt]
          | some u => exact ih (ha.child ht) (hb.child hu) (h.child ht hu)

/-- The members of a plain type have distinct names, at every path. -/
theorem Plain.nodup_namesAt (ha : a.Plain) (path : List String) : (a.namesAt path).Nodup := by
  induction path generalizing a with
  | nil =>
      cases ha with
      | primitive => exact List.nodup_nil
      | struct distinct => exact distinct
  | cons name path ih =>
      rw [namesAt_cons]
      cases ht : a.child? name with
      | none => exact List.nodup_nil
      | some t => exact ih (ha.child ht)

/-- The merge of plain types that agree is plain. -/
theorem Plain.merge (ha : a.Plain) (hb : b.Plain) (h : a.Agree b) : (a.merge b).Plain := by
  induction ha generalizing b with
  | @primitive name hname => exact .primitive hname
  | @struct xs distinct plain ih =>
      obtain ⟨ys, rfl⟩ := h.eq_struct hb
      by_cases hne : xs = ys
      · subst hne
        rw [(Plain.struct distinct plain).merge_self]
        exact hb
      · have hnames := map_fst_members_merge (.struct distinct plain) hb h
        have hlookup := child?_merge (.struct distinct plain) hb h
        rw [merge_struct_of_ne hne] at hnames hlookup ⊢
        simp only [members] at hnames
        have hdistinct :
            ((mergeMembers xs (.struct ys) ++ ys.filter (lacks xs)).map (·.1)).Nodup := by
          rw [hnames, List.nodup_append]
          refine ⟨distinct, (hb.nodup_namesAt []).filter _, ?_⟩
          rintro n hn m hm rfl
          exact decide_eq_true_iff.1 (List.mem_filter.1 hm).2 hn
        refine .struct hdistinct fun m hm => ?_
        -- a member of the merge is found under its name, so in one of the two structs or in both
        have hfound := (hlookup m.1).symm.trans ((lookup_eq_some_iff_mem hdistinct).2 hm)
        cases ht : (ColumnType.struct xs).child? m.1 with
        | none =>
            rw [ht] at hfound
            exact hb.child hfound
        | some t =>
            have htm := (lookup_eq_some_iff_mem distinct).1 ht
            rw [ht] at hfound
            cases hu : (ColumnType.struct ys).child? m.1 with
            | none =>
                rw [hu] at hfound
                exact Option.some.inj hfound ▸ plain _ htm
            | some u =>
                rw [hu] at hfound
                exact Option.some.inj hfound ▸ ih _ htm (hb.child hu) (h.child ht hu)

end Merge

/-! ## Order of members -/

/-- Types that differ in the order of members alone. -/
inductive Reordered : ColumnType → ColumnType → Prop where
  | primitive (name : String) : Reordered (.primitive name) (.primitive name)
  | list {a b : ColumnType} (element : Reordered a b) : Reordered (.list a) (.list b)
  | struct {xs ys : List (String × ColumnType)} (names : (xs.map (·.1)).Perm (ys.map (·.1)))
      (members : ∀ x ∈ xs, ∀ y ∈ ys, x.1 = y.1 → Reordered x.2 y.2) :
      Reordered (.struct xs) (.struct ys)

/-- The names of a struct are those at which it has an id. -/
theorem mem_names_iff {xs : List (String × ColumnType)} {name : String} :
    name ∈ xs.map (·.1) ↔ ((struct xs).idAt [name]).isSome = true := by
  rw [← lookup_isSome_iff_mem, idAt_cons]
  simp only [child?, members]
  cases xs.lookup name <;> simp

/-- **Plain types with the same ids differ in the order of members alone.** -/
theorem Reordered.of_idAt {a b : ColumnType} (ha : a.Plain) (hb : b.Plain)
    (h : ∀ path, a.idAt path = b.idAt path) : a.Reordered b := by
  -- agreement is what tells the shape of the second type in the induction
  have hagree : a.Agree b := by
    intro path i j hi hj
    rw [h, hj] at hi
    exact (Option.some.inj hi).symm
  induction ha generalizing b with
  | @primitive name hname =>
      obtain rfl := hagree.eq_primitive hname hb
      exact .primitive name
  | @struct xs distinct plain ih =>
      obtain ⟨ys, rfl⟩ := hagree.eq_struct hb
      have hdistinct : (ys.map (·.1)).Nodup := hb.nodup_namesAt []
      refine .struct ?_ fun x hx y hy hxy => ?_
      · rw [List.perm_ext_iff_of_nodup distinct hdistinct]
        intro name
        rw [mem_names_iff, mem_names_iff, h]
      · have hx' : (ColumnType.struct xs).child? x.1 = some x.2 :=
          (lookup_eq_some_iff_mem distinct).2 hx
        have hy' : (ColumnType.struct ys).child? x.1 = some y.2 :=
          (lookup_eq_some_iff_mem hdistinct).2 (hxy ▸ hy)
        refine ih x hx (hb.child hy') (fun path => ?_) (hagree.child hx' hy')
        have := h (x.1 :: path)
        rwa [idAt_cons, idAt_cons, hx', hy'] at this

/-! ## Unions -/

/-- In a list with distinct elements every occurrence is the first. -/
theorem eraseDups_of_nodup {names : List String} (h : names.Nodup) : names.eraseDups = names := by
  induction names with
  | nil => rfl
  | cons n rest ih =>
      rw [List.nodup_cons] at h
      have hkeep : rest.filter (fun m => !m == n) = rest := by
        rw [List.filter_eq_self]
        rintro m hm
        have hne : m ≠ n := fun e => h.1 (e ▸ hm)
        simpa using hne
      rw [List.eraseDups_cons, hkeep, ih h.2]

/-- First occurrences, when what comes last has distinct elements. -/
theorem eraseDups_append_of_nodup (names : List String) {last : List String} (h : last.Nodup) :
    (names ++ last).eraseDups = names.eraseDups ++ last.filter fun n => n ∉ names.eraseDups := by
  have hnew : last.removeAll names = last.filter fun n => n ∉ names.eraseDups := by
    refine List.filter_congr fun n _ => ?_
    rw [List.elem_eq_mem, ← decide_not]
    simp only [List.mem_eraseDups]
  rw [List.eraseDups_append, hnew, eraseDups_of_nodup (h.filter _)]

/-- A type that is the **union** of others: it has their ids and no more, and at every path their
members in the order in which they are first seen. -/
structure UnionOf (t : ColumnType) (parts : List ColumnType) : Prop where
  plain : t.Plain
  ids : ∀ path i, t.idAt path = some i ↔ ∃ p ∈ parts, p.idAt path = some i
  names : ∀ path, t.namesAt path = (parts.flatMap (·.namesAt path)).eraseDups

/-- A plain type is the union of itself alone. -/
theorem Plain.unionOf_self {t : ColumnType} (h : t.Plain) : t.UnionOf [t] where
  plain := h
  ids := by simp
  names path := by
    rw [List.flatMap_singleton, eraseDups_of_nodup (h.nodup_namesAt path)]

section Unions

variable {t u : ColumnType} {parts : List ColumnType}

/-- **A union agrees with a type exactly when all its parts do.** -/
theorem UnionOf.agree_iff (h : t.UnionOf parts) : t.Agree u ↔ ∀ p ∈ parts, p.Agree u := by
  constructor
  · intro hagree p hp path i j hi hj
    exact hagree path i j ((h.ids path i).2 ⟨p, hp, hi⟩) hj
  · intro hall path i j hi hj
    obtain ⟨p, hp, hi⟩ := (h.ids path i).1 hi
    exact hall p hp path i j hi hj

/-- The parts of a union agree with one another. -/
theorem UnionOf.agree (h : t.UnionOf parts) {p q : ColumnType} (hp : p ∈ parts) (hq : q ∈ parts) :
    p.Agree q := by
  have hq' : t.Agree q := ((h.agree_iff.1 (agree_self t)) q hq).symm
  exact h.agree_iff.1 hq' p hp

/-- **Merging one more type into a union gives the union with that type.** -/
theorem UnionOf.merge (h : t.UnionOf parts) (hu : u.Plain) (hagree : t.Agree u) :
    (t.merge u).UnionOf (parts ++ [u]) where
  plain := h.plain.merge hu hagree
  ids path i := by
    have hmerge : (t.merge u).idAt path = some i ↔ t.idAt path = some i ∨ u.idAt path = some i := by
      rw [idAt_merge h.plain hu hagree, Option.or_eq_some_iff]
      constructor
      · rintro (ht | ⟨-, hu⟩)
        · exact .inl ht
        · exact .inr hu
      -- where both have an id it is the same one, as they agree
      · rintro (ht | hu)
        · exact .inl ht
        · cases ht : t.idAt path with
          | none => exact .inr ⟨rfl, hu⟩
          | some j => exact .inl (congrArg some (hagree path j i ht hu))
    rw [hmerge, h.ids]
    simp only [List.mem_append, List.mem_singleton, or_and_right, exists_or, exists_eq_left]
  names path := by
    rw [namesAt_merge h.plain hu hagree, h.names, List.flatMap_append, List.flatMap_singleton,
      eraseDups_append_of_nodup _ (hu.nodup_namesAt path)]

/-- Unions of the same types in different orders differ in the order of members alone. -/
theorem UnionOf.reordered {parts' : List ColumnType} (h : t.UnionOf parts) (h' : u.UnionOf parts')
    (hsame : ∀ p, p ∈ parts ↔ p ∈ parts') : t.Reordered u := by
  refine .of_idAt h.plain h'.plain fun path => ?_
  ext i
  rw [h.ids, h'.ids]
  simp only [hsame]

end Unions

end SearchTables.ColumnType
