import SearchTables.Proofs.Row.Typing
import SearchTables.Proofs.Decimal.Rounding

/-! # Range — the values that cannot be decoded

Most raw values that do not fit a column come out as null. Two kinds of values do not come out at
all: integers past the largest double, where a double or a coordinate is asked for, and timestamps
whose universal time lies outside the calendar. -/

namespace SearchTables

/-! ## Values of documents -/

namespace Value

/-- A value of a document. -/
def IsJson (v : Value) : Prop := ∃ j, v = .ofJson j

mutual

/-- A JSON value is sent as itself. -/
theorem toJson?_ofJson : ∀ j : Json, (ofJson j).toJson? = some j
  | .null | .bool _ | .int _ | .float _ | .str _ => rfl
  | .arr items => by rw [ofJson, toJson?, toJsonItems?_ofJsonItems items, Option.map_some]
  | .obj members => by rw [ofJson, toJson?, toJsonMembers?_ofJsonMembers members, Option.map_some]

/-- The items of an array are sent as themselves. -/
theorem toJsonItems?_ofJsonItems : ∀ items : List Json, toJsonItems? (ofJsonItems items) = some items
  | [] => rfl
  | item :: rest => by
      rw [ofJsonItems, toJsonItems?, toJson?_ofJson item, toJsonItems?_ofJsonItems rest]

/-- The members of an object are sent as themselves. -/
theorem toJsonMembers?_ofJsonMembers : ∀ members : List (String × Json),
    toJsonMembers? (ofJsonMembers members) = some members
  | [] => rfl
  | (name, value) :: rest => by
      rw [ofJsonMembers, toJsonMembers?, toJson?_ofJson value, toJsonMembers?_ofJsonMembers rest]

end

/-- Values of documents have a JSON text. -/
theorem IsJson.exists_jsonText {v : Value} (h : v.IsJson) (layout : JsonLayout) :
    ∃ s, v.jsonText layout = .ok s := by
  obtain ⟨j, rfl⟩ := h
  exact ⟨_, by rw [jsonText, toJson?_ofJson]⟩

/-- What an array holds are values of documents. -/
theorem IsJson.of_mem_items {v item : Value} (h : v.IsJson) (hitem : item ∈ Cell.items v) :
    item.IsJson := by
  obtain ⟨j, rfl⟩ := h
  cases j with
  | arr items =>
      rw [ofJson, ofJsonItems_eq_map] at hitem
      obtain ⟨j, -, rfl⟩ := List.mem_map.1 hitem
      exact ⟨j, rfl⟩
  | null | bool | int | float | str | obj => exact ⟨_, List.mem_singleton.1 hitem⟩

/-- What an object holds are values of documents. -/
theorem IsJson.of_get? {v value : Value} {name : String} (h : v.IsJson)
    (hvalue : v.get? name = some value) : value.IsJson := by
  obtain ⟨j, rfl⟩ := h
  cases j with
  | obj members =>
      rw [ofJson, ofJsonMembers_eq_map, get?] at hvalue
      induction members with
      | nil => cases hvalue
      | cons m rest ih =>
          rw [List.map_cons, List.lookup_cons] at hvalue
          split at hvalue
          · exact ⟨_, (Option.some.inj hvalue).symm⟩
          · exact ih hvalue
  | null | bool | int | float | str | arr => cases hvalue

end Value

/-! ## Outcomes -/

/-- An outcome is **out of range when** a condition holds; otherwise there is a result. -/
def OutOfRangeWhen {α : Type} (condition : Prop) (x : Except Error α) : Prop :=
  condition ∧ x = .error .outOfRange ∨ ¬ condition ∧ ∃ a, x = .ok a

namespace OutOfRangeWhen

variable {α β : Type} {condition condition' : Prop} {x : Except Error α}

/-- A result is never out of range. -/
theorem ok (h : ¬ condition) (a : α) : OutOfRangeWhen condition (.ok a) := .inr ⟨h, a, rfl⟩

/-- The condition may be put in other words. -/
theorem congr (h : OutOfRangeWhen condition x) (hiff : condition' ↔ condition) :
    OutOfRangeWhen condition' x := by
  rw [OutOfRangeWhen, hiff]
  exact h

/-- What is made of a result leaves failures alone. -/
theorem map (h : OutOfRangeWhen condition x) (f : α → β) : OutOfRangeWhen condition (x.map f) := by
  rcases h with ⟨hc, rfl⟩ | ⟨hc, a, rfl⟩
  · exact .inl ⟨hc, rfl⟩
  · exact .ok hc _

/-- One outcome after the other fails when one of them does. -/
theorem bind (h : OutOfRangeWhen condition x) {f : α → Except Error β}
    (hf : ∀ a, x = .ok a → OutOfRangeWhen condition' (f a)) :
    OutOfRangeWhen (condition ∨ condition') (x >>= f) := by
  rcases h with ⟨hc, rfl⟩ | ⟨hc, a, rfl⟩
  · exact .inl ⟨.inl hc, rfl⟩
  · exact (hf a rfl).congr (or_iff_right hc)

/-- The outcome of a part of a whole that cannot fail otherwise. -/
theorem bind_ok (h : OutOfRangeWhen condition x) {f : α → Except Error β}
    (hf : ∀ a, x = .ok a → ∃ b, f a = .ok b) : OutOfRangeWhen condition (x >>= f) := by
  have hrest : ∀ a, x = .ok a → OutOfRangeWhen False (f a) := by
    intro a ha
    obtain ⟨b, hb⟩ := hf a ha
    exact hb ▸ .ok not_false b
  exact (h.bind hrest).congr (or_false condition).symm.to_iff

end OutOfRangeWhen

namespace Cell

/-! ## Numbers and timestamps -/

/-- An integer **too large** for a double: rounding leads past the largest one. -/
def TooLarge (v : Value) : Prop := ∃ n : Int, v = .int n ∧ 2 ^ 1024 - 2 ^ 970 ≤ n.natAbs

/-- A text whose timestamp is zoned and lies **outside the calendar** in universal time. -/
def OutsideCalendar (v : Value) : Prop :=
  ∃ s t, v = .str s ∧ Calendar.readDateTime? (Text.trim s) = some t ∧ t.offset.isSome = true ∧
    (t.instant < Calendar.dayMicros ∨ (Calendar.lastDayNumber + 1) * Calendar.dayMicros ≤ t.instant)

/-- An integer is a double unless it is too large. -/
theorem outOfRange_floatOfInt {α : Type} (n : Int) (f : Float → α) :
    OutOfRangeWhen (TooLarge (.int n))
      (match floatOfInt? n with
        | some x => .ok (f x)
        | none => .error .outOfRange) := by
  have hlarge : TooLarge (.int n) ↔ floatOfInt? n = none := by
    rw [floatOfInt?_eq_none_iff]
    constructor
    · rintro ⟨m, hm, hle⟩
      obtain rfl := Value.int.inj hm
      exact hle
    · exact fun hle => ⟨n, rfl, hle⟩
  cases hn : floatOfInt? n with
  | none => exact .inl ⟨hlarge.2 hn, rfl⟩
  | some x => exact .ok (fun h => by simp [hlarge.1 h] at hn) _

/-- Only integers are too large. -/
theorem not_tooLarge {v : Value} (h : ∀ n, v ≠ .int n) : ¬ TooLarge v := by
  rintro ⟨n, rfl, -⟩
  exact h n rfl

/-- A number is a double unless it is too large, and nothing else is. -/
theorem outOfRange_float (v : Value) : OutOfRangeWhen (TooLarge v) (float v) := by
  cases v with
  | int n => exact outOfRange_floatOfInt n Value.float
  | _ => exact .ok (not_tooLarge fun _ h => by cases h) _

/-- A coordinate is a number unless that is too large. -/
theorem outOfRange_coordinate (v : Value) : OutOfRangeWhen (TooLarge v) (Shape.coordinate? v) := by
  cases v with
  | int n => exact outOfRange_floatOfInt n some
  | _ => exact .ok (not_tooLarge fun _ h => by cases h) _

/-- There is no unzoned timestamp at the instants before the first and after the last day. -/
theorem ofInstant?_eq_none_iff {n : Int} : DateTime.ofInstant? n = none ↔
    n < Calendar.dayMicros ∨ (Calendar.lastDayNumber + 1) * Calendar.dayMicros ≤ n := by
  have hpos : (0 : Int) < Calendar.dayMicros := by decide
  have hfirst : 1 ≤ n / (Calendar.dayMicros : Int) ↔ (Calendar.dayMicros : Int) ≤ n := by
    rw [Int.le_ediv_iff_mul_le hpos, one_mul]
  have hlast : n / (Calendar.dayMicros : Int) ≤ Calendar.lastDayNumber ↔
      n < (Calendar.lastDayNumber + 1) * (Calendar.dayMicros : Int) := by
    rw [← Int.lt_add_one_iff, Int.ediv_lt_iff_lt_mul hpos]
  unfold DateTime.ofInstant?
  dsimp only
  rw [ite_eq_right_iff, hlast, hfirst]
  simp only [reduceCtorEq, imp_false]
  omega

/-- A timestamp has no universal reading when it is zoned and that would lie outside the calendar. -/
theorem toUniversal?_eq_none_iff {t : DateTime} : t.toUniversal? = none ↔ t.offset.isSome = true ∧
    (t.instant < Calendar.dayMicros ∨
      (Calendar.lastDayNumber + 1) * Calendar.dayMicros ≤ t.instant) := by
  rw [DateTime.toUniversal?]
  cases t.offset with
  | none => simp
  | some offset =>
      rw [Option.isSome_some, eq_self, true_and]
      exact ofInstant?_eq_none_iff

/-- Only texts lie outside the calendar. -/
theorem not_outsideCalendar {v : Value} (h : ∀ s, v ≠ .str s) : ¬ OutsideCalendar v := by
  rintro ⟨s, t, rfl, -⟩
  exact h s rfl

/-- A text that is no timestamp is none. -/
theorem timestamp_of_unread {s : String} (hread : Calendar.readDateTime? (Text.trim s) = none) :
    timestamp (.str s) = .ok .null := by
  unfold timestamp
  dsimp only
  rw [hread]

/-- A text is the universal reading of its timestamp. -/
theorem timestamp_of_read {s : String} {t u : DateTime}
    (hread : Calendar.readDateTime? (Text.trim s) = some t) (huniversal : t.toUniversal? = some u) :
    timestamp (.str s) = .ok (.timestamp u) := by
  unfold timestamp
  dsimp only
  rw [hread]
  dsimp only
  rw [huniversal]

/-- A text whose timestamp has no universal reading is out of range. -/
theorem timestamp_of_outside {s : String} {t : DateTime}
    (hread : Calendar.readDateTime? (Text.trim s) = some t) (huniversal : t.toUniversal? = none) :
    timestamp (.str s) = .error .outOfRange := by
  unfold timestamp
  dsimp only
  rw [hread]
  dsimp only
  rw [huniversal]

/-- A raw value is a timestamp or none, unless it is a text outside the calendar. -/
theorem outOfRange_timestamp (v : Value) : OutOfRangeWhen (OutsideCalendar v) (timestamp v) := by
  cases v with
  | str s =>
      cases hread : Calendar.readDateTime? (Text.trim s) with
      | none =>
          refine .inr ⟨?_, .null, timestamp_of_unread hread⟩
          rintro ⟨_, t, hs, ht, -⟩
          obtain rfl := Value.str.inj hs
          rw [hread] at ht
          cases ht
      | some t =>
          -- the text tells one moment, so it is outside the calendar when that is
          have houtside : OutsideCalendar (.str s) ↔ t.toUniversal? = none := by
            rw [toUniversal?_eq_none_iff]
            constructor
            · rintro ⟨_, u, hs, hu, hout⟩
              obtain rfl := Value.str.inj hs
              rw [hread] at hu
              obtain rfl := Option.some.inj hu
              exact hout
            · exact fun hout => ⟨s, t, rfl, hread, hout⟩
          cases hnone : t.toUniversal? with
          | none => exact .inl ⟨houtside.2 hnone, timestamp_of_outside hread hnone⟩
          | some u =>
              refine .inr ⟨fun h => ?_, .timestamp u, timestamp_of_read hread hnone⟩
              rw [houtside, hnone] at h
              cases h
  | _ => exact .inr ⟨not_outsideCalendar (fun _ h => by cases h), _, rfl⟩

/-- Whether a value is out of the range of a primitive: a double or a timestamp is asked for, and the
value is too large or lies outside the calendar. -/
def PrimitiveExceeds (name : String) (v : Value) : Prop :=
  name ∈ ColumnType.floatNames ∧ TooLarge v ∨ name = "TIMESTAMP" ∧ OutsideCalendar v

/-- A value of a document comes out as text. -/
theorem exists_text {v : Value} (h : v.IsJson) : ∃ cell, text v = .ok cell := by
  obtain ⟨s, hs⟩ := h.exists_jsonText .tight
  unfold text
  split
  · exact ⟨_, rfl⟩
  · exact ⟨.str s, by rw [hs]; rfl⟩

/-- **A primitive comes out** unless the value is out of its range. -/
theorem outOfRange_primitive (name : String) {v : Value} (h : v.IsJson) :
    OutOfRangeWhen (PrimitiveExceeds name v) (primitive name v) := by
  by_cases hfloat : name ∈ ColumnType.floatNames
  · have hnames : name = "DOUBLE" ∨ name = "FLOAT" := by simpa [ColumnType.floatNames] using hfloat
    have hexceeds : PrimitiveExceeds name v ↔ TooLarge v := by
      rcases hnames with rfl | rfl <;> simp [PrimitiveExceeds, hfloat]
    refine OutOfRangeWhen.congr ?_ hexceeds
    rcases hnames with rfl | rfl <;> exact outOfRange_float v
  by_cases htimestamp : name = "TIMESTAMP"
  · subst htimestamp
    exact (outOfRange_timestamp v).congr (by simp [PrimitiveExceeds, hfloat])
  -- nothing else is ever out of range
  refine .inr ⟨by simp [PrimitiveExceeds, hfloat, htimestamp], ?_⟩
  obtain ⟨s, hs⟩ := h.exists_jsonText .tight
  have hcontains : ¬ ColumnType.floatNames.contains name = true := by simpa using hfloat
  rw [primitive, if_neg hcontains, if_neg htimestamp]
  split_ifs
  · exact exists_text h
  · exact ⟨_, rfl⟩
  · exact ⟨_, rfl⟩
  · exact ⟨.str s, by rw [hs]; rfl⟩
  · exact ⟨_, rfl⟩

/-! ## Geometries -/

mutual

/-- The normal form of a shape in a document is a value of a document. -/
theorem isJson_decode : ∀ {j : Json} {g : Value}, Shape.decode (.ofJson j) = some g → g.IsJson
  | .obj members, g, h => by
      rw [Value.ofJson, Shape.decode] at h
      split at h
      · rename_i type _
        obtain ⟨normal, hnormal⟩ := exists_decodeMembers type members
        obtain rfl := Option.some.inj h
        exact ⟨.obj normal, by rw [hnormal, Value.ofJson]⟩
      · cases h
  | .str s, g, h => by
      rw [Value.ofJson, Shape.decode] at h
      obtain ⟨geometry, -, rfl⟩ := Option.map_eq_some_iff.1 h
      exact ⟨geometry.toJson, rfl⟩
  | .null, _, h | .bool _, _, h | .int _, _, h | .float _, _, h | .arr _, _, h => by cases h

/-- The members of a normal form are members of a document. -/
theorem exists_decodeMembers (type : String) : ∀ members : List (String × Json),
    ∃ normal, Shape.decodeMembers type (Value.ofJsonMembers members) = Value.ofJsonMembers normal
  | [] => ⟨[], rfl⟩
  | (name, value) :: rest => by
      obtain ⟨others, hothers⟩ := exists_decodeMembers type rest
      rw [Value.ofJsonMembers, Shape.decodeMembers, hothers]
      split_ifs
      · exact ⟨(name, .str (Shape.canonicalType type)) :: others, rfl⟩
      · obtain ⟨inner, hinner⟩ := exists_decodeInner value
        exact ⟨(name, inner) :: others, by rw [hinner, Value.ofJsonMembers]⟩
      · exact ⟨(name, value) :: others, rfl⟩

/-- The geometries inside a normal form are a value of a document. -/
theorem exists_decodeInner : ∀ j : Json,
    ∃ inner : Json, Shape.decodeInner (.ofJson j) = .ofJson inner
  | .arr items => by
      obtain ⟨normal, hnormal⟩ := exists_decodeItems items
      exact ⟨.arr normal, by rw [Value.ofJson, Shape.decodeInner, hnormal, Value.ofJson]⟩
  | .null => ⟨.null, rfl⟩
  | .bool b => ⟨.bool b, rfl⟩
  | .int n => ⟨.int n, rfl⟩
  | .float x => ⟨.float x, rfl⟩
  | .str s => ⟨.str s, rfl⟩
  | .obj members => ⟨.obj members, rfl⟩

/-- The normal forms of geometries are values of a document. -/
theorem exists_decodeItems : ∀ items : List Json,
    ∃ normal, Shape.decodeItems (Value.ofJsonItems items) = Value.ofJsonItems normal
  | [] => ⟨[], rfl⟩
  | item :: rest => by
      obtain ⟨others, hothers⟩ := exists_decodeItems rest
      rw [Value.ofJsonItems, Shape.decodeItems, hothers]
      cases hitem : Shape.decode (.ofJson item) with
      | none => exact ⟨others, rfl⟩
      | some g =>
          obtain ⟨j, rfl⟩ := isJson_decode hitem
          exact ⟨j :: others, rfl⟩

end

/-- A point with a coordinate that is too large: one of a pair, or a latitude or longitude. -/
inductive PointExceeds : Value → Prop where
  | pair {first second : Value} {rest : List Value} (h : TooLarge first ∨ TooLarge second) :
      PointExceeds (.list (first :: second :: rest))
  | position {v value : Value} {name : String}
      (hplain : ((v.get? "type").isSome && (v.get? "coordinates").isSome) = false)
      (hname : name = "lat" ∨ name = "lon") (hvalue : v.get? name = some value)
      (h : TooLarge value) : PointExceeds v

/-- A pair exceeds when one of its numbers does. -/
theorem pointExceeds_list_iff {first second : Value} {rest : List Value} :
    PointExceeds (.list (first :: second :: rest)) ↔ TooLarge first ∨ TooLarge second := by
  constructor
  · rintro (h | ⟨-, -, h, -⟩)
    · exact h
    · cases h
  · exact .pair

/-- A value that is no pair exceeds when its latitude or longitude does, unless it is spelled as a
shape. -/
theorem pointExceeds_iff {v : Value} (h : ∀ first second rest, v ≠ .list (first :: second :: rest)) :
    PointExceeds v ↔ ((v.get? "type").isSome && (v.get? "coordinates").isSome) = false ∧
      (TooLarge ((v.get? "lat").getD .null) ∨ TooLarge ((v.get? "lon").getD .null)) := by
  have hnull : ¬ TooLarge .null := not_tooLarge fun _ h => by cases h
  constructor
  · rintro (_ | ⟨hplain, rfl | rfl, hvalue, hlarge⟩)
    · exact absurd rfl (h _ _ _)
    · exact ⟨hplain, .inl (by rwa [hvalue])⟩
    · exact ⟨hplain, .inr (by rwa [hvalue])⟩
  · rintro ⟨hplain, hlarge⟩
    rcases hlarge with hlarge | hlarge
    · cases hvalue : v.get? "lat" with
      | none => rw [hvalue] at hlarge; exact absurd hlarge hnull
      | some value => rw [hvalue] at hlarge; exact .position hplain (.inl rfl) hvalue hlarge
    · cases hvalue : v.get? "lon" with
      | none => rw [hvalue] at hlarge; exact absurd hlarge hnull
      | some value => rw [hvalue] at hlarge; exact .position hplain (.inr rfl) hvalue hlarge

/-- Two coordinates come out unless one of them is too large. -/
theorem outOfRange_two (first second : Value) (f : Option Float → Option Float → Option Value) :
    OutOfRangeWhen (TooLarge first ∨ TooLarge second) (do
      let x ← Shape.coordinate? first
      let y ← Shape.coordinate? second
      pure (f x y)) :=
  (outOfRange_coordinate first).bind fun x _ =>
    (outOfRange_coordinate second).bind_ok fun y _ => ⟨f x y, rfl⟩

/-- Only objects have members. -/
theorem hasMembers_of_get? {v value : Value} {name : String} (h : v.get? name = some value) :
    Shape.hasMembers v = true := by
  cases v <;> first | rfl | cases h

/-- **A point comes out** unless a coordinate is too large. -/
theorem outOfRange_decodePoint (v : Value) : OutOfRangeWhen (PointExceeds v) (Shape.decodePoint v) := by
  unfold Shape.decodePoint
  split
  · exact (outOfRange_two _ _ _).congr pointExceeds_list_iff
  · refine .inr ⟨fun h => ?_, _, rfl⟩
    cases h with
    | position hplain hname hvalue => cases hvalue
  · rename_i hlist _
    have hexceeds := pointExceeds_iff (v := v) fun _ _ _ => hlist _ _ _
    by_cases hmembers : Shape.hasMembers v = true
    · rw [hmembers, Bool.not_true, if_neg Bool.false_ne_true]
      by_cases hplain : ((v.get? "type").isSome && (v.get? "coordinates").isSome) = true
      · rw [if_pos hplain]
        exact .inr ⟨by simp [hexceeds, hplain], _, rfl⟩
      · rw [if_neg hplain]
        have hfalse := eq_false_of_ne_true hplain
        exact (outOfRange_two _ _ fun latitude longitude => Shape.pointOf longitude latitude).congr
          (hexceeds.trans (and_iff_right hfalse))
    · rw [eq_false_of_ne_true hmembers, Bool.not_false, if_pos rfl]
      refine .inr ⟨?_, _, rfl⟩
      rintro (_ | ⟨-, -, hvalue, -⟩)
      · exact absurd rfl (hlist _ _ _)
      · exact hmembers (hasMembers_of_get? hvalue)

/-- The normal form of a point in a document is a value of a document. -/
theorem isJson_decodePoint {v g : Value} (h : v.IsJson) (hg : Shape.decodePoint v = .ok (some g)) :
    g.IsJson := by
  -- a point is made of two numbers in each of its forms
  have hpoint : ∀ {longitude latitude}, Shape.pointOf longitude latitude = some g → g.IsJson := by
    intro longitude latitude hpoint
    cases longitude <;> cases latitude <;> simp only [Shape.pointOf, reduceCtorEq] at hpoint
    exact ⟨_, (Option.some.inj hpoint).symm⟩
  unfold Shape.decodePoint at hg
  split at hg
  · obtain ⟨longitude, -, hg⟩ := bind_eq_ok.1 hg
    obtain ⟨latitude, -, hg⟩ := bind_eq_ok.1 hg
    exact hpoint (pure_eq_ok.1 hg)
  · have hg := Except.ok.inj hg
    unfold Shape.decodePointText at hg
    dsimp only at hg
    split_ifs at hg
    · obtain ⟨geometry, -, rfl⟩ := Option.map_eq_some_iff.1 hg
      exact ⟨geometry.toJson, rfl⟩
    · split at hg
      · exact hpoint hg
      · cases hg
  · split_ifs at hg
    · cases Except.ok.inj hg
    · obtain ⟨j, rfl⟩ := h
      exact isJson_decode (Except.ok.inj hg)
    · obtain ⟨latitude, -, hg⟩ := bind_eq_ok.1 hg
      obtain ⟨longitude, -, hg⟩ := bind_eq_ok.1 hg
      exact hpoint (pure_eq_ok.1 hg)

/-! ## Cells -/

section Coercion

variable {indexTypeAt : String → String}

/-- A raw value **exceeds** a type at a path: somewhere in it a double, a coordinate or a timestamp is
asked for, and what stands there is too large or lies outside the calendar. -/
inductive Exceeds (indexTypeAt : String → String) : ColumnType → String → Value → Prop where
  /-- A point has a coordinate that is too large. -/
  | point {type : ColumnType} {path : String} {v : Value} (hscalar : type.isList = false)
      (hpoint : indexTypeAt path = "geo_point") (h : PointExceeds v) : Exceeds indexTypeAt type path v
  /-- A number or a text is out of the range of a primitive. -/
  | primitive {name path : String} {v : Value} (hplain : ¬ IsGeometry (indexTypeAt path))
      (h : PrimitiveExceeds name v) : Exceeds indexTypeAt (.primitive name) path v
  /-- An item of a list exceeds; a value that is no array is a list of its own. -/
  | item {element : ColumnType} {path : String} {v item : Value} (hitem : item ∈ items v)
      (h : Exceeds indexTypeAt element path item) : Exceeds indexTypeAt (.list element) path v
  /-- A member of an object exceeds. -/
  | member {members : List (String × ColumnType)} {path name : String} {type : ColumnType}
      {v value : Value} (hplain : ¬ IsGeometry (indexTypeAt path)) (hmember : (name, type) ∈ members)
      (hvalue : v.get? name = some value) (h : Exceeds indexTypeAt type (Path.under path name) value) :
      Exceeds indexTypeAt (.struct members) path v

/-- What exceeds a type is not null. -/
theorem ne_null_of_exceeds {type : ColumnType} {path : String} {v : Value}
    (h : Exceeds indexTypeAt type path v) : v ≠ .null := by
  induction h with
  | point _ _ h =>
      rintro rfl
      cases h with
      | position _ _ hvalue => cases hvalue
  | primitive _ h =>
      rintro rfl
      rcases h with ⟨-, h⟩ | ⟨-, h⟩
      · exact not_tooLarge (fun _ h => by cases h) h
      · exact not_outsideCalendar (fun _ h => by cases h) h
  | item hitem _ ih =>
      rintro rfl
      exact ih (List.mem_singleton.1 hitem)
  | member _ _ hvalue =>
      rintro rfl
      cases hvalue

/-- A list exceeds when an item does. -/
theorem exceeds_list_iff {element : ColumnType} {path : String} {v : Value} :
    Exceeds indexTypeAt (.list element) path v ↔
      ∃ item ∈ items v, Exceeds indexTypeAt element path item := by
  constructor
  · rintro (⟨hscalar, -, -⟩ | - | ⟨hitem, h⟩)
    · cases hscalar
    · exact ⟨_, hitem, h⟩
  · rintro ⟨item, hitem, h⟩
    exact .item hitem h

/-- Outside geometries a struct exceeds when a member does. -/
theorem exceeds_struct_iff {members : List (String × ColumnType)} {path : String} {v : Value}
    (hplain : ¬ IsGeometry (indexTypeAt path)) : Exceeds indexTypeAt (.struct members) path v ↔
      ∃ m ∈ members,
        Exceeds indexTypeAt m.2 (Path.under path m.1) ((v.get? m.1).getD .null) := by
  constructor
  · rintro (⟨-, hpoint, -⟩ | - | - | ⟨-, hmember, hvalue, h⟩)
    · exact absurd (.inl hpoint) hplain
    · exact ⟨_, hmember, by rwa [hvalue]⟩
  · rintro ⟨m, hmember, h⟩
    cases hvalue : v.get? m.1 with
    | none =>
        rw [hvalue] at h
        exact absurd rfl (ne_null_of_exceeds h)
    | some value =>
        rw [hvalue] at h
        exact .member hplain hmember hvalue h

/-- Outside geometries a primitive exceeds when the value is out of its range. -/
theorem exceeds_primitive_iff {name path : String} {v : Value}
    (hplain : ¬ IsGeometry (indexTypeAt path)) :
    Exceeds indexTypeAt (.primitive name) path v ↔ PrimitiveExceeds name v := by
  constructor
  · rintro (⟨-, hpoint, -⟩ | ⟨-, h⟩)
    · exact absurd (.inl hpoint) hplain
    · exact h
  · exact .primitive hplain

/-- Where a geometry is known, only the coordinates of points exceed. -/
theorem exceeds_geometry_iff {type : ColumnType} {path : String} {v : Value}
    (hscalar : type.isList = false) (hgeometry : IsGeometry (indexTypeAt path)) :
    Exceeds indexTypeAt type path v ↔ indexTypeAt path = "geo_point" ∧ PointExceeds v := by
  constructor
  · rintro (⟨-, hpoint, h⟩ | ⟨hplain, -⟩ | - | ⟨hplain, -, -, -⟩)
    · exact ⟨hpoint, h⟩
    · exact absurd hgeometry hplain
    · cases hscalar
    · exact absurd hgeometry hplain
  · rintro ⟨hpoint, h⟩
    exact .point hscalar hpoint h

/-- The text of an optional geometry of a document comes out. -/
theorem exists_geometryText {g : Option Value} (h : ∀ v, g = some v → v.IsJson) :
    ∃ cell, geometryText g = .ok cell := by
  cases g with
  | none => exact ⟨.null, rfl⟩
  | some v =>
      obtain ⟨s, hs⟩ := (h v rfl).exists_jsonText .tightAscii
      exact ⟨.str s, by rw [geometryText, hs]; rfl⟩

/-- **A value that is no list comes out** unless it exceeds: as a geometry where one is known, and
otherwise as its type asks for. -/
theorem outOfRange_geometryOr {type : ColumnType} {path : String} {v : Value}
    {otherwise : Except Error Value} (h : v.IsJson) (hscalar : type.isList = false)
    (hother : ¬ IsGeometry (indexTypeAt path) →
      OutOfRangeWhen (Exceeds indexTypeAt type path v) otherwise) :
    OutOfRangeWhen (Exceeds indexTypeAt type path v) (geometryOr (indexTypeAt path) v otherwise) := by
  rw [geometryOr]
  by_cases hpoint : indexTypeAt path = "geo_point"
  · rw [if_pos hpoint]
    have hexceeds := exceeds_geometry_iff (v := v) hscalar (.inl hpoint)
    refine OutOfRangeWhen.congr ?_ (hexceeds.trans (and_iff_right hpoint))
    refine (outOfRange_decodePoint v).bind_ok fun g hg => exists_geometryText ?_
    rintro v rfl
    exact isJson_decodePoint h hg
  · rw [if_neg hpoint]
    by_cases hshape : indexTypeAt path = "geo_shape"
    · rw [if_pos hshape]
      refine .inr ⟨fun hexceeds => hpoint ?_, exists_geometryText ?_⟩
      · exact ((exceeds_geometry_iff hscalar (.inr hshape)).1 hexceeds).1
      · obtain ⟨j, rfl⟩ := h
        exact fun v hv => isJson_decode hv
    · rw [if_neg hshape]
      exact hother (by simp [IsGeometry, hpoint, hshape])

/-- Several values come out unless one of them does not. -/
theorem outOfRange_coerceAll {coerce : Value → Except Error Value} {bad : Value → Prop}
    {values : List Value} (h : ∀ v ∈ values, OutOfRangeWhen (bad v) (coerce v)) :
    OutOfRangeWhen (∃ v ∈ values, bad v) (coerceAll coerce values) := by
  induction values with
  | nil => exact .ok (by simp) []
  | cons v rest ih =>
      rw [List.forall_mem_cons] at h
      have hboth := h.1.bind (f := fun cell => coerceAll coerce rest >>= fun cells =>
        pure (cell :: cells)) fun cell _ => (ih h.2).bind_ok fun cells _ => ⟨cell :: cells, rfl⟩
      exact hboth.congr (by simp)

/-- Null comes out as null. -/
theorem outOfRange_orNull {type : ColumnType} {path : String} {v : Value} {x : Except Error Value}
    (h : OutOfRangeWhen (Exceeds indexTypeAt type path v) x) :
    OutOfRangeWhen (Exceeds indexTypeAt type path v) (if v.isNull then .ok Value.null else x) := by
  by_cases hnull : v.isNull = true
  · rw [if_pos hnull]
    refine .inr ⟨fun hexceeds => ne_null_of_exceeds hexceeds ?_, Value.null, rfl⟩
    cases v <;> first | rfl | cases hnull
  · rwa [if_neg hnull]

mutual

/-- **A cell comes out** unless the value exceeds the type. -/
theorem outOfRange_coerce : ∀ {type : ColumnType} {path : String} {v : Value}, v.IsJson →
    OutOfRangeWhen (Exceeds indexTypeAt type path v) (coerce indexTypeAt type path v)
  | .list element, path, v, h => by
      rw [coerce]
      refine outOfRange_orNull (((outOfRange_coerceAll fun item hitem => ?_).map Value.list).congr
        exceeds_list_iff)
      exact outOfRange_coerce (h.of_mem_items hitem)
  | .struct members, path, v, h => by
      rw [coerce]
      refine outOfRange_orNull (outOfRange_geometryOr h rfl fun hplain => ?_)
      refine OutOfRangeWhen.congr ?_ (exceeds_struct_iff hplain)
      by_cases hmembers : Shape.hasMembers v = true
      · rw [if_pos hmembers]
        exact (outOfRange_coerceMembers h).map _
      · -- what has no members has none that exceed
        rw [if_neg hmembers]
        refine .inr ⟨?_, Value.null, rfl⟩
        rintro ⟨m, -, hexceeds⟩
        cases hvalue : v.get? m.1 with
        | none => exact ne_null_of_exceeds hexceeds (by rw [hvalue]; rfl)
        | some value => exact hmembers (hasMembers_of_get? hvalue)
  | .primitive name, path, v, h => by
      rw [coerce]
      refine outOfRange_orNull (outOfRange_geometryOr h rfl fun hplain => ?_)
      exact (outOfRange_primitive name h).congr (exceeds_primitive_iff hplain)

/-- The members of an object come out unless one of them exceeds. -/
theorem outOfRange_coerceMembers : ∀ {members : List (String × ColumnType)} {path : String}
    {v : Value}, v.IsJson →
    OutOfRangeWhen (∃ m ∈ members,
        Exceeds indexTypeAt m.2 (Path.under path m.1) ((v.get? m.1).getD .null))
      (coerceMembers indexTypeAt members path v)
  | [], _, _, _ => .ok (by simp) []
  | (name, type) :: rest, path, v, h => by
      rw [coerceMembers]
      have hvalue : ((v.get? name).getD .null).IsJson := by
        cases hget : v.get? name with
        | none => exact ⟨.null, rfl⟩
        | some value => exact h.of_get? hget
      simp only [List.mem_cons, exists_eq_or_imp]
      exact (outOfRange_coerce hvalue).bind fun cell _ =>
        (outOfRange_coerceMembers h).bind_ok fun cells _ => ⟨(name, cell) :: cells, rfl⟩

end

end Coercion

/-! ## Null cells -/

end Cell

end SearchTables
