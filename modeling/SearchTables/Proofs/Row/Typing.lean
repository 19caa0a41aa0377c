import SearchTables.Row.Cell
import SearchTables.Proofs.Json.Place
import SearchTables.Proofs.Outcome

/-! # Typed cells — what coercion comes to

Whatever value a document holds at the path of a column, its cell is null or inhabits the type of the
column. Values and types are unrelated, so each kind of type is looked at on its own, and geometries,
which are recognised by their path and not by their type, come out as text. `Cell.coerce_inhabits`
puts this together by an induction on the type. -/

namespace SearchTables

namespace ColumnType

mutual

/-- The type that a type **settles** to: of the members of a struct with the same name the last one
counts, at the place of the first. -/
def settled : ColumnType → ColumnType
  | .primitive name => .primitive name
  | .list element => .list (settled element)
  | .struct members => .struct (membersOf (settledMembers members))

/-- The members of a struct, each settled. -/
def settledMembers : List (String × ColumnType) → List (String × ColumnType)
  | [] => []
  | (name, type) :: rest => (name, settled type) :: settledMembers rest

end

mutual

/-- No struct inside the type has two members of the same name. -/
def Distinct : ColumnType → Prop
  | .primitive _ => True
  | .list element => Distinct element
  | .struct members => (members.map (·.1)).Nodup ∧ DistinctMembers members

/-- No struct inside the types of members has two members of the same name. -/
def DistinctMembers : List (String × ColumnType) → Prop
  | [] => True
  | (_, type) :: rest => Distinct type ∧ DistinctMembers rest

end

mutual

/-- **A type without members of the same name is settled.** -/
theorem Distinct.settled_eq : ∀ {type : ColumnType}, type.Distinct → type.settled = type
  | .primitive _, _ => rfl
  | .list element, h => by
      have hinside : element.Distinct := h
      rw [settled, hinside.settled_eq]
  | .struct members, h => by
      rw [settled, DistinctMembers.settled_eq h.2, membersOf_of_nodup h.1]

/-- Members without members of the same name inside are settled. -/
theorem DistinctMembers.settled_eq : ∀ {members : List (String × ColumnType)},
    DistinctMembers members → settledMembers members = members
  | [], _ => rfl
  | (name, type) :: rest, h => by
      rw [settledMembers, Distinct.settled_eq h.1, DistinctMembers.settled_eq h.2]

end

end ColumnType

namespace Cell

/-- A cell **fits** a type: it is null, or it inhabits the type. -/
def Fits (type : ColumnType) (cell : Value) : Prop := cell = .null ∨ Inhabits type cell

/-- Putting a member into a struct and its cell into the object keeps the cells in step. -/
theorem InhabitsMembers.insert {name : String} {type : ColumnType} {cell : Value}
    (hcell : Fits type cell) : ∀ {members : List (String × ColumnType)}
    {cells : List (String × Value)}, InhabitsMembers members cells →
    InhabitsMembers (insertMember name type members) (insertMember name cell cells)
  | [], _, h => by
      obtain rfl := h
      exact ⟨cell, [], rfl, hcell, rfl⟩
  | (n, t) :: rest, _, h => by
      obtain ⟨first, others, rfl, hfirst, hothers⟩ := h
      rw [insertMember, insertMember]
      by_cases hname : n = name
      · rw [if_pos hname, if_pos hname]
        exact ⟨cell, others, rfl, hcell, hothers⟩
      · rw [if_neg hname, if_neg hname]
        exact ⟨first, _, rfl, hfirst, hothers.insert hcell⟩

/-- **Cells in step with the members of a struct stay so** when members of the same name are taken
together on both sides. -/
theorem InhabitsMembers.membersOf {members : List (String × ColumnType)}
    {cells : List (String × Value)} (h : InhabitsMembers members cells) :
    InhabitsMembers (SearchTables.membersOf members) (SearchTables.membersOf cells) := by
  suffices hfold : ∀ (front : List (String × ColumnType)) (before : List (String × Value)),
      InhabitsMembers front before →
      InhabitsMembers
        (members.foldl (fun found m => insertMember m.1 m.2 found) front)
        (cells.foldl (fun found m => insertMember m.1 m.2 found) before) from
    hfold [] [] rfl
  induction members generalizing cells with
  | nil =>
      intro front before hfront
      obtain rfl := h
      exact hfront
  | cons m rest ih =>
      intro front before hfront
      obtain ⟨name, type⟩ := m
      obtain ⟨cell, others, rfl, hcell, hothers⟩ := h
      exact ih hothers _ _ (hfront.insert hcell)

/-! ## Primitives -/

/-- The timestamp at an instant has no zone. -/
theorem offset_of_ofInstant {n : Int} {t : DateTime} (h : DateTime.ofInstant? n = some t) :
    t.offset = none := by
  unfold DateTime.ofInstant? at h
  dsimp only at h
  split at h
  · obtain rfl := Option.some.inj h
    rfl
  · cases h

/-- The universal-time reading of a timestamp has no zone. -/
theorem offset_of_toUniversal {t u : DateTime} (h : t.toUniversal? = some u) : u.offset = none := by
  unfold DateTime.toUniversal? at h
  split at h
  · rename_i hoffset
    obtain rfl := Option.some.inj h
    exact hoffset
  · exact offset_of_ofInstant h

/-- The timestamp of a number of milliseconds has no zone. -/
theorem offset_of_ofEpochMillis {negative : Bool} {num den : Nat} {t : DateTime}
    (h : Calendar.ofEpochMillis? negative num den = some t) : t.offset = none := by
  unfold Calendar.ofEpochMillis? at h
  dsimp only at h
  split at h
  · cases h
  · exact offset_of_ofInstant h

/-- A timestamp without zone, if there is one, fits the type of timestamps. -/
theorem fits_getD_timestamp {found : Option DateTime}
    (h : ∀ t, found = some t → t.offset = none) :
    Fits .timestamp ((found.map Value.timestamp).getD .null) := by
  cases found with
  | none => exact .inl rfl
  | some t => exact .inr ⟨t, rfl, h t rfl⟩

/-- **What a value is coerced to as a timestamp** is null or has no zone. -/
theorem fits_timestamp {v cell : Value} (h : timestamp v = .ok cell) : Fits .timestamp cell := by
  unfold timestamp at h
  split at h
  · obtain rfl := Except.ok.inj h
    exact fits_getD_timestamp fun t ht => offset_of_ofEpochMillis ht
  · obtain rfl := Except.ok.inj h
    refine fits_getD_timestamp fun t ht => ?_
    obtain ⟨d, -, hd⟩ := Option.bind_eq_some_iff.1 ht
    exact offset_of_ofEpochMillis hd
  · split at h
    · exact .inl (Except.ok.inj h).symm
    · split at h
      · rename_i t ht
        obtain rfl := Except.ok.inj h
        exact .inr ⟨t, rfl, offset_of_toUniversal ht⟩
      · cases h
  · exact .inl (Except.ok.inj h).symm

/-- JSON text is a text. -/
theorem exists_str_of_jsonText {layout : JsonLayout} {v cell : Value}
    (h : (v.jsonText layout).map .str = .ok cell) : ∃ s, cell = .str s := by
  cases htext : v.jsonText layout with
  | error e =>
      rw [htext] at h
      cases h
  | ok s =>
      rw [htext] at h
      exact ⟨s, (Except.ok.inj h).symm⟩

/-- What a value is coerced to as a text is one. -/
theorem exists_str_of_text {v cell : Value} (h : text v = .ok cell) : ∃ s, cell = .str s := by
  unfold text at h
  split at h
  · exact ⟨_, (Except.ok.inj h).symm⟩
  · exact exists_str_of_jsonText h

/-- What a value is coerced to as a whole number fits each type of whole numbers. -/
theorem fits_integer {name : String} (hname : ColumnType.integerNames.contains name = true)
    (v : Value) : Fits (.primitive name) (integer v) := by
  cases v with
  | int n =>
      have hkinds : name = "BIGINT" ∨ name = "INTEGER" ∨ name = "SMALLINT" ∨ name = "TINYINT" := by
        simpa [ColumnType.integerNames] using hname
      rcases hkinds with rfl | rfl | rfl | rfl <;> exact .inr ⟨n, rfl⟩
  | _ => exact .inl rfl

/-- What a value is coerced to as a fractional number fits each type of fractional numbers. -/
theorem fits_float {name : String} (hname : ColumnType.floatNames.contains name = true)
    {v cell : Value} (h : float v = .ok cell) : Fits (.primitive name) cell := by
  have hdouble : ∀ x, Fits (.primitive name) (.float x) := by
    intro x
    have hkinds : name = "DOUBLE" ∨ name = "FLOAT" := by
      simpa [ColumnType.floatNames] using hname
    rcases hkinds with rfl | rfl <;> exact .inr ⟨x, rfl⟩
  cases v with
  | int n =>
      rw [float] at h
      split at h
      · obtain rfl := Except.ok.inj h
        exact hdouble _
      · cases h
  | float x =>
      obtain rfl := Except.ok.inj h
      exact hdouble x
  | _ => exact .inl (Except.ok.inj h).symm

/-- **What a value is coerced to as a primitive fits it**, whatever the value is. -/
theorem fits_primitive {name : String} {v cell : Value} (h : primitive name v = .ok cell) :
    Fits (.primitive name) cell := by
  rw [primitive] at h
  by_cases htext : name = "VARCHAR"
  · subst htext
    exact .inr (exists_str_of_text h)
  rw [if_neg htext] at h
  by_cases hinteger : ColumnType.integerNames.contains name = true
  · rw [if_pos hinteger] at h
    obtain rfl := Except.ok.inj h
    exact fits_integer hinteger v
  rw [if_neg hinteger] at h
  by_cases hfloat : ColumnType.floatNames.contains name = true
  · rw [if_pos hfloat] at h
    exact fits_float hfloat h
  rw [if_neg hfloat] at h
  by_cases hboolean : name = "BOOLEAN"
  · subst hboolean
    obtain rfl := Except.ok.inj h
    cases v with
    | bool b => exact .inr ⟨b, rfl⟩
    | _ => exact .inl rfl
  rw [if_neg hboolean] at h
  by_cases htimestamp : name = "TIMESTAMP"
  · subst htimestamp
    exact fits_timestamp h
  rw [if_neg htimestamp] at h
  by_cases hjson : name = "JSON"
  · subst hjson
    exact .inr (exists_str_of_jsonText h)
  -- no schema has any other primitive, and nothing is asked of one
  · right
    rw [Inhabits, if_neg (by simp [htext, hjson]), if_neg hinteger, if_neg hfloat, if_neg hboolean,
      if_neg htimestamp]
    trivial

/-! ## Geometries -/

/-- Whether an index type is one of a geometry. -/
def IsGeometry (indexType : String) : Prop := indexType = "geo_point" ∨ indexType = "geo_shape"

instance (indexType : String) : Decidable (IsGeometry indexType) :=
  inferInstanceAs (Decidable (_ ∨ _))

mutual

/-- Where the index types of paths tell of a geometry the type is VARCHAR, or a list of it. -/
def GeometriesAreText (indexTypeAt : String → String) : ColumnType → String → Prop
  | .primitive name, path => IsGeometry (indexTypeAt path) → name = "VARCHAR"
  | .list element, path => GeometriesAreText indexTypeAt element path
  | .struct members, path =>
      ¬ IsGeometry (indexTypeAt path) ∧ MemberGeometriesAreText indexTypeAt members path

/-- Where the index types of paths tell of a geometry beneath a path, the type of the member there is
VARCHAR, or a list of it. -/
def MemberGeometriesAreText (indexTypeAt : String → String) :
    List (String × ColumnType) → String → Prop
  | [], _ => True
  | (name, type) :: rest, path =>
      GeometriesAreText indexTypeAt type (Path.under path name) ∧
        MemberGeometriesAreText indexTypeAt rest path

end

/-- The text of a geometry is null or a text. -/
theorem fits_geometryText {geometry : Option Value} {cell : Value}
    (h : geometryText geometry = .ok cell) : Fits .varchar cell := by
  cases geometry with
  | none =>
      obtain rfl := Except.ok.inj h
      exact .inl rfl
  | some v => exact .inr (exists_str_of_jsonText h)

/-- **Either a geometry is known at the path, and its cell is text, or there is none.** -/
theorem geometryOr_cases {indexType : String} {v cell : Value} {otherwise : Except Error Value}
    (h : geometryOr indexType v otherwise = .ok cell) :
    IsGeometry indexType ∧ Fits .varchar cell ∨ ¬ IsGeometry indexType ∧ otherwise = .ok cell := by
  rw [geometryOr] at h
  by_cases hpoint : indexType = "geo_point"
  · rw [if_pos hpoint] at h
    obtain ⟨geometry, -, htext⟩ := bind_eq_ok.1 h
    exact .inl ⟨.inl hpoint, fits_geometryText htext⟩
  · rw [if_neg hpoint] at h
    by_cases hshape : indexType = "geo_shape"
    · rw [if_pos hshape] at h
      exact .inl ⟨.inr hshape, fits_geometryText h⟩
    · rw [if_neg hshape] at h
      exact .inr ⟨by simp [IsGeometry, hpoint, hshape], h⟩

/-! ## All types -/

/-- The cells of several values are as many, and each is that of one of them. -/
theorem mem_of_coerceAll {coerce : Value → Except Error Value} {values cells : List Value}
    (h : coerceAll coerce values = .ok cells) {cell : Value} (hcell : cell ∈ cells) :
    ∃ v ∈ values, coerce v = .ok cell := by
  induction values generalizing cells with
  | nil =>
      obtain rfl := Except.ok.inj h
      cases hcell
  | cons v rest ih =>
      rw [coerceAll] at h
      obtain ⟨first, hfirst, h⟩ := bind_eq_ok.1 h
      obtain ⟨others, hothers, h⟩ := bind_eq_ok.1 h
      obtain rfl := pure_eq_ok.1 h
      rcases List.mem_cons.1 hcell with rfl | hcell
      · exact ⟨v, List.mem_cons_self .., hfirst⟩
      · obtain ⟨w, hw, hcoerce⟩ := ih hothers hcell
        exact ⟨w, List.mem_cons_of_mem _ hw, hcoerce⟩

section Coercion

variable {indexTypeAt : String → String}

mutual

/-- What a value is coerced to fits the type, once members of the same name are taken together. -/
theorem fits_settled_of_coerce : ∀ {type : ColumnType} {path : String} {v cell : Value},
    GeometriesAreText indexTypeAt type path → coerce indexTypeAt type path v = .ok cell →
    Fits type.settled cell
  | .primitive name, path, v, cell, hgeometries, h => by
      rw [coerce] at h
      split at h
      · exact .inl (Except.ok.inj h).symm
      · rcases geometryOr_cases h with ⟨hgeometry, hcell⟩ | ⟨-, hcell⟩
        · obtain rfl := hgeometries hgeometry
          exact hcell
        · exact fits_primitive hcell
  | .list element, path, v, cell, hgeometries, h => by
      rw [coerce] at h
      split at h
      · exact .inl (Except.ok.inj h).symm
      · -- each cell of the list comes from one item
        cases hcells : coerceAll (coerce indexTypeAt element path) (items v) with
        | error e =>
            rw [hcells] at h
            cases h
        | ok cells =>
            rw [hcells] at h
            obtain rfl := Except.ok.inj h
            refine .inr ⟨cells, rfl, fun cell hcell => ?_⟩
            obtain ⟨w, -, hcoerce⟩ := mem_of_coerceAll hcells hcell
            exact fits_settled_of_coerce hgeometries hcoerce
  | .struct members, path, v, cell, hgeometries, h => by
      rw [coerce] at h
      split at h
      · exact .inl (Except.ok.inj h).symm
      · obtain ⟨hgeometry, -⟩ | ⟨-, h⟩ := geometryOr_cases h
        · exact absurd hgeometry hgeometries.1
        · split at h
          · cases hcells : coerceMembers indexTypeAt members path v with
            | error e =>
                rw [hcells] at h
                cases h
            | ok cells =>
                rw [hcells] at h
                obtain rfl := Except.ok.inj h
                exact .inr ⟨_, rfl,
                  (inhabits_settledMembers_of_coerce hgeometries.2 hcells).membersOf⟩
          · exact .inl (Except.ok.inj h).symm

/-- What the members of an object are coerced to is in step with the members of the struct. -/
theorem inhabits_settledMembers_of_coerce : ∀ {members : List (String × ColumnType)} {path : String}
    {v : Value} {cells : List (String × Value)},
    MemberGeometriesAreText indexTypeAt members path →
    coerceMembers indexTypeAt members path v = .ok cells →
    InhabitsMembers (ColumnType.settledMembers members) cells
  | [], _, _, _, _, h => (Except.ok.inj h).symm
  | (name, type) :: rest, path, v, cells, hgeometries, h => by
      rw [coerceMembers] at h
      obtain ⟨cell, hcell, h⟩ := bind_eq_ok.1 h
      obtain ⟨others, hothers, h⟩ := bind_eq_ok.1 h
      obtain rfl := pure_eq_ok.1 h
      exact ⟨cell, others, rfl, fits_settled_of_coerce hgeometries.1 hcell,
        inhabits_settledMembers_of_coerce hgeometries.2 hothers⟩

end

end Coercion

/-- **Coercion is sound for types.** Whatever a value is coerced to fits the type it is coerced to, if
the types of geometries are VARCHAR or lists of it. A struct with several members of one name stands
for the one that it settles to, as objects have one member of each name. -/
theorem coerce_fits {indexTypeAt : String → String} {type : ColumnType} {path : String}
    {v cell : Value} (hgeometries : GeometriesAreText indexTypeAt type path)
    (h : coerce indexTypeAt type path v = .ok cell) :
    Fits type.settled cell ∧ (type.Distinct → Fits type cell) := by
  have hsettled := fits_settled_of_coerce hgeometries h
  refine ⟨hsettled, fun hdistinct => ?_⟩
  rwa [hdistinct.settled_eq] at hsettled

/-- A point inside an object, beside a truth value that is no number and a number that is no truth
value. -/
theorem coerce_fits_nested_point :
    let type : ColumnType :=
      .struct [("count", .bigint), ("tags", .list .boolean), ("place", .varchar)]
    let types := [("doc.place", "geo_point")]
    let v : Value := .ofJson (.obj [("count", .bool true), ("tags", .arr [.bool true, .int 1]),
      ("place", .obj [("type", .str "point"), ("coordinates", .arr [.int 1, .int 2])])])
    let cell : Value := .object [("count", .null), ("tags", .list [.bool true, .null]),
      ("place", .str "\x7b\"type\":\"Point\",\"coordinates\":[1,2]\x7d")]
    GeometriesAreText (indexTypeIn types) type "doc" ∧
      coerce (indexTypeIn types) type "doc" v = .ok cell ∧ type.Distinct ∧ Fits type cell := by
  intro type types v cell
  have hnone : ∀ path ∈ ["doc", Path.under "doc" "count", Path.under "doc" "tags"],
      ¬ IsGeometry (indexTypeIn [("doc.place", "geo_point")] path) := by decide
  have hgeometries : GeometriesAreText (indexTypeIn types) type "doc" :=
    ⟨hnone _ (by simp), fun h => absurd h (hnone _ (by simp)),
      fun h => absurd h (hnone _ (by simp)), fun _ => rfl, trivial⟩
  have hcoerce : coerce (indexTypeIn types) type "doc" v = .ok cell := rfl
  have hdistinct : type.Distinct := ⟨by decide, trivial, trivial, trivial, trivial⟩
  exact ⟨hgeometries, hcoerce, hdistinct, (coerce_fits hgeometries hcoerce).2 hdistinct⟩

end Cell

end SearchTables
