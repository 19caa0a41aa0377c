import SearchTables.Mapping.Merge
import SearchTables.Proofs.Path
import Mathlib.Data.List.Forall2
import Mathlib.Data.List.Nodup

/-! # List upgrades — types where arrays were seen

Sampled documents say at which paths there are arrays, and the types at these paths become lists. In types
without lists, whose members go by distinct names (`ColumnType.Listless`), every path names one type at
most, so it can be told which types these are: those at the paths of the set, and no others. Taking the
lists out again gives back the types, and a path that names nothing changes nothing
(`applyArrays_upgrades`). -/

namespace SearchTables

/-! ## Paths beneath a path -/

namespace Path

/-- The names along a path at which a column may stand: none along the empty one. -/
def steps (path : String) : List String := if path = "" then [] else segments path

/-- One step beneath a path there is one name more. -/
theorem segments_under {path name : String} (hname : IsStep name) :
    segments (under path name) = steps path ++ [name] := by
  rw [steps]
  by_cases hpath : path = ""
  · rw [hpath, under_empty, if_pos rfl, segments_of_dotless hname.2]
    rfl
  · rw [if_neg hpath, under_of_ne hpath hname.1, segments_append, segments_of_dotless hname.2]

/-- The names along a path beneath another one are those along it. -/
theorem steps_under {path name : String} (hname : IsStep name) :
    steps (under path name) = steps path ++ [name] := by
  have hne : under path name ≠ "" := by
    by_cases hpath : path = ""
    · rw [hpath, under_empty]
      exact hname.1
    · exact under_ne_empty hpath
  rw [steps, if_neg hne, segments_under hname]

/-- A path whose names go on after those of another one is not that one. -/
theorem ne_of_segments {path place name : String} {more : List String} (hname : IsStep name)
    (h : segments place = steps path ++ name :: more) : place ≠ path := by
  rintro rfl
  rw [steps] at h
  split at h
  · -- the one name along the empty path is no step
    rename_i hempty
    obtain ⟨rfl, -⟩ : "" = name ∧ [] = more := by simpa [hempty, segments, splitDots] using h
    exact hname.1 rfl
  · simpa using congrArg List.length h

end Path

namespace ColumnType

/-! ## Types with their paths -/

/-- A type **without lists**, whose members go by distinct names that are not empty and have no dots. -/
inductive Listless : ColumnType → Prop where
  | primitive (name : String) : Listless (.primitive name)
  | struct {members : List (String × ColumnType)} (distinct : (members.map (·.1)).Nodup)
      (steps : ∀ m ∈ members, Path.IsStep m.1) (listless : ∀ m ∈ members, Listless m.2) :
      Listless (.struct members)

mutual

/-- The types beneath a type at a path, each with its path: those of the members of structs, and beneath
them. The elements of a list have no path of their own. -/
def inside (path : String) : ColumnType → List (String × ColumnType)
  | .primitive _ => []
  | .list element => inside path element
  | .struct members => insideMembers path members

/-- The types of members of a struct at a path, and beneath them. -/
def insideMembers (path : String) : List (String × ColumnType) → List (String × ColumnType)
  | [] => []
  | (name, type) :: rest =>
      (Path.under path name, type) :: inside (Path.under path name) type ++ insideMembers path rest

end

/-- A type at a path and all types beneath it, each with its path. -/
def located (path : String) (t : ColumnType) : List (String × ColumnType) := (path, t) :: inside path t

mutual

/-- The type with all lists taken out. -/
def withoutLists : ColumnType → ColumnType
  | .primitive name => .primitive name
  | .list element => withoutLists element
  | .struct members => .struct (withoutListsIn members)

/-- The members with all lists taken out of their types. -/
def withoutListsIn : List (String × ColumnType) → List (String × ColumnType)
  | [] => []
  | (name, type) :: rest => (name, withoutLists type) :: withoutListsIn rest

end

/-- The types of members are those of one after the other. -/
theorem insideMembers_eq (path : String) (members : List (String × ColumnType)) :
    insideMembers path members = members.flatMap fun m => m.2.located (Path.under path m.1) := by
  induction members with
  | nil => rfl
  | cons m rest ih =>
      obtain ⟨name, type⟩ := m
      rw [insideMembers, ih, List.flatMap_cons]
      rfl

/-- Lists go into members one by one. -/
theorem wrapMembers_eq (isArray : String → Bool) (joinPath : String → String → String)
    (members : List (String × ColumnType)) (path : String) :
    wrapMembers isArray joinPath members path =
      members.map fun m => (m.1, m.2.wrapLists isArray joinPath (joinPath path m.1)) := by
  induction members with
  | nil => rfl
  | cons m rest ih =>
      obtain ⟨name, type⟩ := m
      rw [wrapMembers, ih]
      rfl

/-- Lists are taken out of members one by one. -/
theorem withoutListsIn_eq (members : List (String × ColumnType)) :
    withoutListsIn members = members.map fun m => (m.1, m.2.withoutLists) := by
  induction members with
  | nil => rfl
  | cons m rest ih =>
      obtain ⟨name, type⟩ := m
      rw [withoutListsIn, ih]
      rfl

/-! ## One type at a path -/

section Places

variable {t : ColumnType} {path place : String}

/-- The paths of a type are its own and those inside it. -/
theorem mem_located : place ∈ (t.located path).map (·.1) ↔
    place = path ∨ place ∈ (t.inside path).map (·.1) := by
  rw [located, List.map_cons, List.mem_cons]

/-- A path inside a struct is one of a member. -/
theorem mem_insideMembers {members : List (String × ColumnType)} :
    place ∈ (insideMembers path members).map (·.1) ↔
      ∃ m ∈ members, place ∈ (m.2.located (Path.under path m.1)).map (·.1) := by
  rw [insideMembers_eq, List.map_flatMap, List.mem_flatMap]

namespace Listless

/-- **The names along a path of a type begin with those along its own.** -/
theorem segments_located (h : t.Listless) {name : String} (hname : Path.IsStep name)
    (hplace : place ∈ (t.located (Path.under path name)).map (·.1)) :
    ∃ more, Path.segments place = Path.steps path ++ name :: more := by
  induction h generalizing path name with
  | primitive =>
      obtain rfl : place = Path.under path name := by simpa [located, inside] using hplace
      exact ⟨[], Path.segments_under hname⟩
  | @struct members distinct steps listless ih =>
      rcases mem_located.1 hplace with rfl | hinside
      · exact ⟨[], Path.segments_under hname⟩
      · obtain ⟨m, hm, hplace⟩ := mem_insideMembers.1 hinside
        obtain ⟨more, hmore⟩ := ih m hm (steps m hm) hplace
        refine ⟨m.1 :: more, ?_⟩
        rw [hmore, Path.steps_under hname, List.append_assoc]
        rfl

/-- **A path names one type at most.** -/
theorem nodup_located (h : t.Listless) : ((t.located path).map (·.1)).Nodup := by
  induction h generalizing path with
  | primitive => simp [located, inside]
  | @struct members distinct steps listless ih =>
      rw [located, List.map_cons, List.nodup_cons]
      refine ⟨fun hpath => ?_, ?_⟩
      · -- the paths of members have more names
        obtain ⟨m, hm, hplace⟩ := mem_insideMembers.1 hpath
        obtain ⟨more, hmore⟩ := (listless m hm).segments_located (steps m hm) hplace
        exact Path.ne_of_segments (steps m hm) hmore rfl
      · rw [inside, insideMembers_eq, List.map_flatMap, List.nodup_flatMap]
        refine ⟨fun m hm => ih m hm, ?_⟩
        have hpairs : members.Pairwise fun m m' => m.1 ≠ m'.1 := List.pairwise_map.1 distinct
        refine hpairs.imp_of_mem fun {m m'} hm hm' hne place hplace hplace' => hne ?_
        obtain ⟨more, hmore⟩ := (listless m hm).segments_located (steps m hm) hplace
        obtain ⟨more', hmore'⟩ := (listless m' hm').segments_located (steps m' hm') hplace'
        rw [hmore] at hmore'
        exact (List.cons.inj (List.append_cancel_left hmore')).1

end Listless

end Places

/-- The types inside a type without lists have none either. -/
theorem Listless.of_mem_located {t : ColumnType} (h : t.Listless) {path : String}
    {found : String × ColumnType} (hfound : found ∈ t.located path) : found.2.Listless := by
  induction h generalizing path with
  | primitive name =>
      obtain rfl : found = (path, .primitive name) := by simpa [located, inside] using hfound
      exact .primitive name
  | @struct members distinct steps listless ih =>
      rw [located, List.mem_cons, inside, insideMembers_eq, List.mem_flatMap] at hfound
      rcases hfound with rfl | ⟨m, hm, hinside⟩
      · exact .struct distinct steps listless
      · exact ih m hm hinside

/-! ## Lists at paths -/

section WrapLists

variable {t : ColumnType}

/-- Without lists a type becomes a list exactly at a path of the set, of elements that are no lists. -/
theorem Listless.wrapLists_eq (h : t.Listless) (isArray : String → Bool) (path : String) :
    ∃ element, element.isList = false ∧
      t.wrapLists isArray Path.under path = if isArray path then .list element else element := by
  cases h with
  | primitive name => exact ⟨.primitive name, rfl, by rw [wrapLists]⟩
  | @struct members =>
      exact ⟨.struct (wrapMembers isArray Path.under members path), rfl, by rw [wrapLists]⟩

/-- A type becomes a list exactly at a path of the set. -/
theorem Listless.isList_wrapLists (h : t.Listless) (isArray : String → Bool) (path : String) :
    (t.wrapLists isArray Path.under path).isList = isArray path := by
  obtain ⟨element, hplain, heq⟩ := h.wrapLists_eq isArray path
  rw [heq]
  by_cases harray : isArray path = true
  · rw [if_pos harray, harray]
    rfl
  · rw [if_neg harray, hplain]
    simpa using harray

/-- A type and its lists have the same types inside them. -/
theorem inside_ite (path : String) (isArray : Bool) (t : ColumnType) :
    inside path (if isArray then .list t else t) = inside path t := by
  cases isArray <;> rfl

/-- **Every type becomes what it becomes at its own path.** -/
theorem Listless.located_wrapLists (h : t.Listless) (isArray : String → Bool) (path : String) :
    (t.wrapLists isArray Path.under path).located path =
      (t.located path).map fun found => (found.1, found.2.wrapLists isArray Path.under found.1) := by
  have hinside : inside path (t.wrapLists isArray Path.under path) =
      (t.inside path).map fun found => (found.1, found.2.wrapLists isArray Path.under found.1) := by
    induction h generalizing path with
    | primitive name =>
        rw [wrapLists, inside_ite]
        rfl
    | @struct members distinct steps listless ih =>
        rw [wrapLists, inside_ite, inside, inside, wrapMembers_eq, insideMembers_eq, insideMembers_eq,
          List.flatMap_map, List.map_flatMap]
        refine List.flatMap_congr fun m hm => ?_
        rw [located, located, List.map_cons, ih m hm]
  rw [located, located, List.map_cons, hinside]

/-- **Only the paths of a type matter.** -/
theorem Listless.wrapLists_congr (h : t.Listless) {isArray isArray' : String → Bool} {path : String}
    (hsame : ∀ place ∈ (t.located path).map (·.1), isArray place = isArray' place) :
    t.wrapLists isArray Path.under path = t.wrapLists isArray' Path.under path := by
  induction h generalizing path with
  | primitive name =>
      have hpath := hsame path List.mem_cons_self
      rw [wrapLists, wrapLists, hpath]
  | @struct members distinct steps listless ih =>
      have hpath := hsame path List.mem_cons_self
      have hmembers : wrapMembers isArray Path.under members path =
          wrapMembers isArray' Path.under members path := by
        rw [wrapMembers_eq, wrapMembers_eq]
        refine List.map_congr_left fun m hm => ?_
        rw [ih m hm fun place hplace => hsame place ?_]
        exact mem_located.2 (.inr (mem_insideMembers.2 ⟨m, hm, hplace⟩))
      rw [wrapLists, wrapLists, hpath, hmembers]

/-- **Lists that are there already stay as they are.** -/
theorem Listless.wrapLists_wrapLists (h : t.Listless) (isArray : String → Bool) (path : String) :
    (t.wrapLists isArray Path.under path).wrapLists isArray Path.under path =
      t.wrapLists isArray Path.under path := by
  induction h generalizing path with
  | primitive name =>
      by_cases harray : isArray path = true
      · simp only [wrapLists, if_pos harray]
      · simp only [wrapLists, if_neg harray]
  | @struct members distinct steps listless ih =>
      have hmembers : wrapMembers isArray Path.under (wrapMembers isArray Path.under members path) path =
          wrapMembers isArray Path.under members path := by
        rw [wrapMembers_eq, wrapMembers_eq, List.map_map]
        refine List.map_congr_left fun m hm => ?_
        rw [Function.comp_apply, ih m hm]
      by_cases harray : isArray path = true
      · simp only [wrapLists, if_pos harray]
      · simp only [wrapLists, if_neg harray, hmembers]

/-- **Taking the lists out again gives back the type.** -/
theorem Listless.withoutLists_wrapLists (h : t.Listless) (isArray : String → Bool) (path : String) :
    (t.wrapLists isArray Path.under path).withoutLists = t := by
  have hite : ∀ (array : Bool) (u : ColumnType),
      (if array then ColumnType.list u else u).withoutLists = u.withoutLists := by
    intro array u
    cases array <;> rfl
  induction h generalizing path with
  | primitive name =>
      rw [wrapLists, hite]
      rfl
  | @struct members distinct steps listless ih =>
      have hmembers : withoutListsIn (wrapMembers isArray Path.under members path) = members := by
        rw [wrapMembers_eq, withoutListsIn_eq, List.map_map]
        calc members.map _ = members.map id := List.map_congr_left fun m hm => by
              rw [Function.comp_apply, ih m hm]
              rfl
          _ = members := List.map_id members
      rw [wrapLists, hite, withoutLists, hmembers]

end WrapLists

end ColumnType

/-! ## Columns -/

/-- The type of a column and all types inside it, each with its path. -/
def Column.located (c : Column) : List (String × ColumnType) := c.type.located c.path

/-- **Lists go into columns exactly where arrays were seen.** For all columns whose types have no lists and
whose members go by distinct names, and every set of paths: the columns keep their order and all else but
their types, and a type keeps its members and their order, so taking the lists out gives it back. Each path
names one type at most, the same as before, and that is a list if and only if the path is in the set. Paths
of the set that name nothing have no effect, and neither has doing it again. -/
theorem applyArrays_upgrades {columns : List Column} (h : ∀ c ∈ columns, c.type.Listless)
    (arrays : List String) :
    List.Forall₂ (fun c c' => c' = { c with type := c'.type } ∧ c'.type.withoutLists = c.type ∧
        c'.located.map (·.1) = c.located.map (·.1) ∧ (c'.located.map (·.1)).Nodup ∧
        ∀ path t, (path, t) ∈ c'.located → (t.isList = true ↔ path ∈ arrays) ∧
          ∀ element, t = .list element → element.isList = false)
      columns (applyArrays arrays columns) ∧
    (∀ arrays' : List String,
      (∀ c ∈ columns, ∀ path ∈ c.located.map (·.1), path ∈ arrays' ↔ path ∈ arrays) →
        applyArrays arrays' columns = applyArrays arrays columns) ∧
    applyArrays arrays (applyArrays arrays columns) = applyArrays arrays columns := by
  refine ⟨?_, fun arrays' hsame => ?_, ?_⟩
  · rw [applyArrays, List.forall₂_map_right_iff, List.forall₂_same]
    intro c hc
    have hlistless := h c hc
    -- where a type stands does not depend on the lists around it
    have hlocated : Column.located
        { c with type := c.type.wrapLists arrays.contains Path.under c.path } =
          c.located.map fun found =>
            (found.1, found.2.wrapLists arrays.contains Path.under found.1) :=
      hlistless.located_wrapLists _ _
    have hplaces : (Column.located
        { c with type := c.type.wrapLists arrays.contains Path.under c.path }).map (·.1) =
          c.located.map (·.1) := by
      rw [hlocated, List.map_map]
      rfl
    refine ⟨rfl, hlistless.withoutLists_wrapLists _ _, hplaces, ?_, fun path t hfound => ?_⟩
    · rw [hplaces]
      exact hlistless.nodup_located
    · rw [hlocated, List.mem_map] at hfound
      obtain ⟨found, hmem, heq⟩ := hfound
      obtain ⟨rfl, rfl⟩ := Prod.mk.inj heq
      have hinner := hlistless.of_mem_located hmem
      refine ⟨?_, fun element helement => ?_⟩
      · rw [hinner.isList_wrapLists, List.contains_iff_mem]
      · obtain ⟨inner, hplain, hwrapped⟩ := hinner.wrapLists_eq arrays.contains found.1
        rw [hwrapped] at helement
        split at helement
        · exact ColumnType.list.inj helement ▸ hplain
        · rw [helement] at hplain
          cases hplain
  · refine List.map_congr_left fun c hc => ?_
    have htype : c.type.wrapLists arrays'.contains Path.under c.path =
        c.type.wrapLists arrays.contains Path.under c.path := by
      refine (h c hc).wrapLists_congr fun path hpath => ?_
      rw [Bool.eq_iff_iff, List.contains_iff_mem, List.contains_iff_mem]
      exact hsame c hc path hpath
    rw [htype]
  · rw [applyArrays, applyArrays, List.map_map]
    refine List.map_congr_left fun c hc => ?_
    show Column.mk _ _ (ColumnType.wrapLists _ _ _ c.path) _ _ _ = _
    rw [(h c hc).wrapLists_wrapLists]

/-- Lists of structs with a list inside them, and a path that names nothing. -/
theorem applyArrays_upgrades_items :
    let part : ColumnType := .struct [("number", .varchar)]
    let items : ColumnType := .struct [("sku", .varchar), ("part", part)]
    let columns : List Column := [⟨"items", "items", items, "object", false, ""⟩,
      ⟨"tags", "tags", .varchar, "keyword", false, ""⟩]
    let arrays := ["items", "items.part.number", "nowhere"]
    (∀ c ∈ columns, c.type.Listless) ∧
      (applyArrays arrays columns).map (·.type) =
        [.list (.struct [("sku", .varchar), ("part", .struct [("number", .list .varchar)])]),
          .varchar] ∧
      applyArrays arrays (applyArrays arrays columns) = applyArrays arrays columns ∧
      applyArrays ["items", "items.part.number"] columns = applyArrays arrays columns := by
  intro part items columns arrays
  have hpart : part.Listless := by
    refine .struct (by decide) ?_ ?_
    · simp only [List.forall_mem_singleton]
      decide
    · simp only [List.forall_mem_singleton]
      exact .primitive _
  have hitems : items.Listless := by
    refine .struct (by decide) ?_ ?_
    · simp only [List.forall_mem_cons]
      decide
    · simp only [List.forall_mem_cons]
      exact ⟨.primitive _, hpart, by simp⟩
  have hlistless : ∀ c ∈ columns, c.type.Listless := by
    simp only [columns, List.forall_mem_cons]
    exact ⟨hitems, .primitive _, by simp⟩
  obtain ⟨-, hunnamed, hagain⟩ := applyArrays_upgrades hlistless arrays
  refine ⟨hlistless, by decide, hagain, hunnamed _ ?_⟩
  decide

end SearchTables
