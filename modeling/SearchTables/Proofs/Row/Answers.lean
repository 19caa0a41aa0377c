import SearchTables.Proofs.Expression.Faults
import SearchTables.Proofs.Filter.Agreement
import SearchTables.Proofs.Scan.Decoding

/-! # Answers — when a row filter tells of a row

The cells of a decoded row are a few kinds of values (`RowDecoder.isCell_of_decode`), and each of them is a
datum unless there is an integer in it that has no sixty-four bits (`Datum.ofValue_eq_error`). A filter reads
all cells before it looks at its expression, so such an integer fails it in any column, and so does a column
that cannot be named. On other rows it tells whether to keep them, unless the expression comes to a place at
fault (`RowFilter.keeps_of_bindable`). -/

namespace SearchTables

/-! ## Cells -/

namespace Value

/-- The kinds of values that cells are. -/
inductive IsCell : Value → Prop where
  | null : IsCell .null
  | bool (b : Bool) : IsCell (.bool b)
  | int (n : Int) : IsCell (.int n)
  | float (x : Float) : IsCell (.float x)
  | str (s : String) : IsCell (.str s)
  | timestamp (t : DateTime) : IsCell (.timestamp t)
  | list {items : List Value} (h : ∀ item ∈ items, IsCell item) : IsCell (.list items)
  | object {members : List (String × Value)} (h : ∀ m ∈ members, IsCell m.2) : IsCell (.object members)

/-- A cell that has no sixty-four bits for an integer in it. -/
inductive Outsize : Value → Prop where
  | int {n : Int} (h : n < minInt64 ∨ maxInt64 < n) : Outsize (.int n)
  | item {items : List Value} {item : Value} (hitem : item ∈ items) (h : Outsize item) :
      Outsize (.list items)
  | member {members : List (String × Value)} {m : String × Value} (hm : m ∈ members)
      (h : Outsize m.2) : Outsize (.object members)

mutual

/-- The values of documents are cells. -/
theorem isCell_ofJson : ∀ j : Json, (ofJson j).IsCell
  | .null => .null
  | .bool b => .bool b
  | .int n => .int n
  | .float x => .float x
  | .str s => .str s
  | .arr items => .list (isCell_ofJsonItems items)
  | .obj members => .object (isCell_ofJsonMembers members)

/-- The items of arrays are cells. -/
theorem isCell_ofJsonItems : ∀ items : List Json, ∀ v ∈ ofJsonItems items, v.IsCell
  | [], _, hv => by cases hv
  | item :: rest, v, hv => by
      rcases List.mem_cons.1 hv with rfl | hv
      · exact isCell_ofJson item
      · exact isCell_ofJsonItems rest v hv

/-- The members of objects are cells. -/
theorem isCell_ofJsonMembers : ∀ members : List (String × Json), ∀ m ∈ ofJsonMembers members, m.2.IsCell
  | [], _, hm => by cases hm
  | (name, value) :: rest, m, hm => by
      rcases List.mem_cons.1 hm with rfl | hm
      · exact isCell_ofJson value
      · exact isCell_ofJsonMembers rest m hm

end

/-- Values of documents are cells. -/
theorem IsJson.isCell {v : Value} (h : v.IsJson) : v.IsCell := by
  obtain ⟨j, rfl⟩ := h
  exact isCell_ofJson j

end Value

namespace Cell

open Value (IsCell)

/-- A primitive of a value of a document is a cell. -/
theorem isCell_of_primitive {name : String} {v cell : Value} (hv : v.IsJson)
    (h : primitive name v = .ok cell) : cell.IsCell := by
  rcases fits_primitive h with rfl | hinhabits
  · exact .null
  rw [Inhabits] at hinhabits
  split_ifs at hinhabits with htext hinteger hfloat hboolean htimestamp
  · obtain ⟨s, rfl⟩ := hinhabits
    exact .str s
  · obtain ⟨n, rfl⟩ := hinhabits
    exact .int n
  · obtain ⟨x, rfl⟩ := hinhabits
    exact .float x
  · obtain ⟨b, rfl⟩ := hinhabits
    exact .bool b
  · obtain ⟨t, rfl, -⟩ := hinhabits
    exact .timestamp t
  · -- nothing is asked of any other primitive, and the value is taken as it is
    rw [not_or] at htext
    rw [primitive, if_neg htext.1, if_neg hinteger, if_neg hfloat, if_neg hboolean, if_neg htimestamp,
      if_neg htext.2] at h
    obtain rfl := Except.ok.inj h
    exact hv.isCell

/-- The cell of a geometry is a text or null, and any other cell is what it would be. -/
theorem isCell_of_geometryOr {indexType : String} {v cell : Value} {otherwise : Except Error Value}
    (h : geometryOr indexType v otherwise = .ok cell)
    (hother : otherwise = .ok cell → cell.IsCell) : cell.IsCell := by
  rcases geometryOr_cases h with ⟨-, rfl | ⟨s, rfl⟩⟩ | ⟨-, h⟩
  · exact .null
  · exact .str s
  · exact hother h

variable {indexTypeAt : String → String}

mutual

/-- **What a value of a document is coerced to is a cell.** The induction is on the type. -/
theorem isCell_of_coerce : ∀ {type : ColumnType} {path : String} {v cell : Value}, v.IsJson →
    coerce indexTypeAt type path v = .ok cell → cell.IsCell
  | .list element, path, v, cell, hv, h => by
      rw [coerce] at h
      split at h
      · obtain rfl := Except.ok.inj h
        exact .null
      · obtain ⟨cells, hcells, rfl⟩ := map_eq_ok.1 h
        refine .list fun item hitem => ?_
        obtain ⟨raw, hraw, hcoerce⟩ := mem_of_coerceAll hcells hitem
        exact isCell_of_coerce (hv.of_mem_items hraw) hcoerce
  | .struct members, path, v, cell, hv, h => by
      rw [coerce] at h
      split at h
      · obtain rfl := Except.ok.inj h
        exact .null
      · refine isCell_of_geometryOr h fun h => ?_
        split at h
        · obtain ⟨cells, hcells, rfl⟩ := map_eq_ok.1 h
          exact .object fun m hm => isCell_of_coerceMembers hv hcells m (mem_of_mem_membersOf hm)
        · obtain rfl := Except.ok.inj h
          exact .null
  | .primitive name, path, v, cell, hv, h => by
      rw [coerce] at h
      split at h
      · obtain rfl := Except.ok.inj h
        exact .null
      · exact isCell_of_geometryOr h (isCell_of_primitive hv)

/-- What the members of a value of a document are coerced to are cells. -/
theorem isCell_of_coerceMembers : ∀ {members : List (String × ColumnType)} {path : String} {v : Value}
    {cells : List (String × Value)}, v.IsJson → coerceMembers indexTypeAt members path v = .ok cells →
    ∀ m ∈ cells, m.2.IsCell
  | [], _, _, _, _, h => by
      obtain rfl := Except.ok.inj h
      exact List.forall_mem_nil _
  | (name, type) :: rest, path, v, _, hv, h => by
      have hvalue : ((v.get? name).getD .null).IsJson := by
        cases hget : v.get? name with
        | none => exact ⟨.null, rfl⟩
        | some value => exact hv.of_get? hget
      rw [coerceMembers] at h
      obtain ⟨cell, hcell, h⟩ := bind_eq_ok.1 h
      obtain ⟨cells, hcells, h⟩ := bind_eq_ok.1 h
      obtain rfl := pure_eq_ok.1 h
      exact List.forall_mem_cons.2 ⟨isCell_of_coerce hvalue hcell, isCell_of_coerceMembers hv hcells⟩

end

end Cell

namespace RowDecoder

/-- A cell of a row is one. -/
theorem isCell_of_cell {d : RowDecoder} {origin : CellSource} {members : List (String × Json)}
    {cell : Value} (h : d.cell origin members = .ok cell) : cell.IsCell := by
  cases origin with
  | id =>
      obtain rfl := Except.ok.inj h
      exact Value.isCell_ofJson _
  | source =>
      obtain rfl := Except.ok.inj h
      exact .str _
  | residual =>
      rw [RowDecoder.cell] at h
      split at h
      · obtain rfl := Except.ok.inj h
        exact .null
      · obtain rfl := Except.ok.inj h
        exact .str _
  | column column => exact Cell.isCell_of_coerce ⟨_, rfl⟩ h

/-- The cells of several columns are cells. -/
theorem isCell_of_cells {d : RowDecoder} {members : List (String × Json)} :
    ∀ {columns : List (String × CellSource)} {cells : List (String × Value)},
      d.cells members columns = .ok cells → ∀ m ∈ cells, m.2.IsCell
  | [], _, h => by
      obtain rfl := Except.ok.inj h
      exact List.forall_mem_nil _
  | (name, origin) :: rest, _, h => by
      rw [cells] at h
      obtain ⟨cell, hcell, h⟩ := bind_eq_ok.1 h
      obtain ⟨cells, hcells, h⟩ := bind_eq_ok.1 h
      obtain rfl := pure_eq_ok.1 h
      exact List.forall_mem_cons.2 ⟨isCell_of_cell hcell, isCell_of_cells hcells⟩

/-- **A decoded row is made of cells**, whatever the hit is. -/
theorem isCell_of_decode {d : RowDecoder} {hit : Json} {row : Row} (h : d.decode hit = .ok row) :
    ∀ m ∈ row, m.2.IsCell := by
  by_cases hhit : ∃ members, hit = .obj members
  · obtain ⟨members, rfl⟩ := hhit
    rw [decode_obj] at h
    obtain ⟨cells, hcells, rfl⟩ := map_eq_ok.1 h
    exact fun m hm => isCell_of_cells hcells m (mem_of_mem_membersOf hm)
  · -- what is no object has the row without columns, or none
    by_cases hcolumns : d.columns = []
    · unfold decode at h
      rw [hcolumns] at h
      obtain rfl := Except.ok.inj h
      exact List.forall_mem_nil _
    · rw [decode_of_not_obj hcolumns fun members hobj => hhit ⟨members, hobj⟩] at h
      cases h

end RowDecoder

/-! ## Data of cells -/

/-- One value after the other is refused when one of them is. -/
theorem refused_cons {α β γ : Type} {first rest : Prop} {x : Except Error α} {y : Except Error β}
    {f : α → β → γ} {e : Error} (hx : ∀ {e}, x = .error e ↔ e = .refusedValue ∧ first)
    (hy : ∀ {e}, y = .error e ↔ e = .refusedValue ∧ rest) :
    (do let a ← x; let b ← y; pure (f a b)) = .error e ↔ e = .refusedValue ∧ (first ∨ rest) := by
  rw [bind_eq_error]
  simp only [bind_pure_eq_error, hx, hy]
  constructor
  · rintro (⟨he, h⟩ | ⟨a, -, he, h⟩)
    · exact ⟨he, .inl h⟩
    · exact ⟨he, .inr h⟩
  · rintro ⟨he, h⟩
    cases hoffset : x with
    | error fault => exact .inl ⟨he, (hx.1 hoffset).2⟩
    | ok a =>
        rcases h with h | h
        · exact .inl ⟨he, h⟩
        · exact .inr ⟨a, rfl, he, h⟩

namespace Datum

/-- Values are data unless one of them is refused. -/
theorem ofItems_eq_error {items : List Value}
    (h : ∀ v ∈ items, ∀ {e}, ofValue v = .error e ↔ e = .refusedValue ∧ v.Outsize) {e : Error} :
    ofItems items = .error e ↔ e = .refusedValue ∧ ∃ v ∈ items, v.Outsize := by
  induction items generalizing e with
  | nil => simp [ofItems]
  | cons v rest ih =>
      rw [List.forall_mem_cons] at h
      rw [ofItems, refused_cons h.1 (ih h.2)]
      simp

/-- Members are data unless one of them is refused. -/
theorem ofMembers_eq_error {members : List (String × Value)}
    (h : ∀ m ∈ members, ∀ {e}, ofValue m.2 = .error e ↔ e = .refusedValue ∧ m.2.Outsize) {e : Error} :
    ofMembers members = .error e ↔ e = .refusedValue ∧ ∃ m ∈ members, m.2.Outsize := by
  induction members generalizing e with
  | nil => simp [ofMembers]
  | cons m rest ih =>
      obtain ⟨name, v⟩ := m
      rw [List.forall_mem_cons] at h
      rw [ofMembers, refused_cons h.1 (ih h.2)]
      simp

/-- **A cell is a datum unless an integer in it has no sixty-four bits.** The induction is on the cell. -/
theorem ofValue_eq_error {v : Value} (hv : v.IsCell) {e : Error} :
    ofValue v = .error e ↔ e = .refusedValue ∧ v.Outsize := by
  induction hv generalizing e with
  | int n =>
      rw [ofValue, ofInt?]
      have houtsize : (Value.int n).Outsize ↔ ¬ (minInt64 ≤ n ∧ n ≤ maxInt64) := by
        constructor
        · rintro ⟨h⟩
          omega
        · intro h
          exact .int (by omega)
      rw [houtsize]
      split_ifs with hrange <;> simp [hrange, eq_comm]
  | @list items _ ih =>
      rw [ofValue, map_eq_error, ofItems_eq_error ih]
      refine and_congr_right fun _ => ⟨?_, ?_⟩
      · rintro ⟨item, hitem, h⟩
        exact .item hitem h
      · intro h
        cases h with
        | item hitem h => exact ⟨_, hitem, h⟩
  | @object members _ ih =>
      rw [ofValue, map_eq_error, ofMembers_eq_error ih]
      refine and_congr_right fun _ => ⟨?_, ?_⟩
      · rintro ⟨m, hm, h⟩
        exact .member hm h
      · intro h
        cases h with
        | member hm h => exact ⟨_, hm, h⟩
  | null | bool | float | str | timestamp =>
      constructor
      · intro h
        cases h
      · rintro ⟨-, h⟩
        cases h

end Datum

/-! ## Rows -/

/-- A row that can be **bound**: its columns have names, and no integer in it is without sixty-four bits. -/
def Row.Bindable (row : Row) : Prop :=
  ∀ m ∈ row, (columnNames? m.1).isSome = true ∧ ¬ m.2.Outsize

/-- The cells of a row are data unless one of them is refused. -/
theorem rowData_eq_error {row : Row} (hrow : ∀ m ∈ row, m.2.IsCell) {e : Error} :
    rowData row = .error e ↔ e = .refusedValue ∧ ∃ m ∈ row, m.2.Outsize := by
  induction row generalizing e with
  | nil => simp [rowData]
  | cons m rest ih =>
      obtain ⟨name, v⟩ := m
      rw [List.forall_mem_cons] at hrow
      rw [rowData, refused_cons (Datum.ofValue_eq_error hrow.1) (ih hrow.2)]
      simp

/-- Columns are bound unless one of them has no name. -/
theorem bindCells_eq_error {cells : List (String × Datum)} {scope : Scope} {e : Error} :
    bindCells cells scope = .error e ↔
      e = .refusedValue ∧ ∃ column ∈ cells.map Prod.fst, columnNames? column = none := by
  induction cells generalizing scope with
  | nil => simp [bindCells]
  | cons cell rest ih =>
      obtain ⟨column, d⟩ := cell
      rw [bindCells, List.map_cons, List.exists_mem_cons_iff]
      cases hnames : columnNames? column with
      | none => simp [eq_comm]
      | some names => simp [ih]

/-- **A row gives a scope unless it cannot be bound.** -/
theorem rowScope_eq_error {row : Row} (hrow : ∀ m ∈ row, m.2.IsCell) {e : Error} :
    rowScope row = .error e ↔ e = .refusedValue ∧ ¬ row.Bindable := by
  -- the cells are bound before the names, so the two faults are kept apart
  have hunbindable : ¬ row.Bindable ↔
      (∃ m ∈ row, m.2.Outsize) ∨ ∃ column ∈ row.map Prod.fst, columnNames? column = none := by
    simp only [Row.Bindable, not_forall, List.mem_map, exists_prop, not_and_or, not_not,
      Option.not_isSome_iff_eq_none]
    constructor
    · rintro ⟨m, hm, hnames | houtsize⟩
      · exact .inr ⟨m.1, ⟨m, hm, rfl⟩, hnames⟩
      · exact .inl ⟨m, hm, houtsize⟩
    · rintro (⟨m, hm, houtsize⟩ | ⟨_, ⟨m, hm, rfl⟩, hnames⟩)
      · exact ⟨m, hm, .inr houtsize⟩
      · exact ⟨m, hm, .inl hnames⟩
  rw [hunbindable, rowScope, bind_eq_error, rowData_eq_error hrow]
  constructor
  · rintro (⟨he, houtsize⟩ | ⟨cells, hcells, h⟩)
    · exact ⟨he, .inl houtsize⟩
    · obtain ⟨he, hnames⟩ := bindCells_eq_error.1 h
      rw [(lookup_rowData hcells).1] at hnames
      exact ⟨he, .inr hnames⟩
  · rintro ⟨he, h⟩
    cases hcells : rowData row with
    | error fault => exact .inl ⟨he, ((rowData_eq_error hrow).1 hcells).2⟩
    | ok cells =>
        rcases h with houtsize | hnames
        · exact .inl ⟨he, houtsize⟩
        · rw [← (lookup_rowData hcells).1] at hnames
          exact .inr ⟨cells, rfl, bindCells_eq_error.2 ⟨he, hnames⟩⟩

/-! ## Filters -/

namespace RowFilter

/-- An outcome tells nothing when it is a failure. -/
theorem accepts_eq_error {outcome : Evaluation} {e : Error} :
    accepts outcome = .error e ↔ outcome = .error (.failed e) := by
  unfold accepts
  split <;> simp

/-- An outcome that is no failure keeps a row when it is true. -/
theorem exists_accepts {outcome : Evaluation} (h : ∀ e, outcome ≠ .error (.failed e)) :
    ∃ kept, accepts outcome = .ok kept ∧ (kept = true ↔ outcome = .ok (some (.bool true))) := by
  unfold accepts
  split
  · exact ⟨_, rfl, by simp⟩
  · rename_i hother
    exact ⟨false, rfl, by simpa using hother true⟩
  · exact ⟨false, rfl, by simp⟩
  · rename_i e
    exact absurd rfl (h e)

/-- **When a row filter answers.** A decoded row that cannot be bound is refused. In the scope of any other
row the filter fails when its expression comes to a place at fault, which is a relation of moments unless
the expression uses one of the hazardous names. Otherwise it answers, and keeps the row when the expression
is true. -/
theorem answers_unless_at_fault (f : RowFilter) {d : RowDecoder} {hit : Json} {row : Row}
    (hrow : d.decode hit = .ok row) :
    (f.keeps row = .error .refusedValue ∧ ¬ row.Bindable) ∨
      ∃ scope, row.Bindable ∧ rowScope row = .ok scope ∧
        ((∃ e, f.keeps row = .error e ∧ f.expression.Fails scope e ∧
            (e = .refusedValue ∨ ∃ name ∈ f.expression.names, name ∈ Expression.hazards)) ∨
          ∃ kept, f.keeps row = .ok kept ∧ (∀ e, ¬ f.expression.Fails scope e) ∧
            (kept = true ↔ f.expression.evaluate scope = .ok (some (.bool true)))) := by
  have hcells := RowDecoder.isCell_of_decode hrow
  rw [keeps]
  cases hscope : rowScope row with
  | error fault =>
      obtain ⟨rfl, hunbindable⟩ := (rowScope_eq_error hcells).1 hscope
      exact .inl ⟨rfl, hunbindable⟩
  | ok scope =>
      have hbindable : row.Bindable := by
        by_contra hunbindable
        rw [(rowScope_eq_error hcells).2 ⟨rfl, hunbindable⟩] at hscope
        cases hscope
      refine .inr ⟨scope, hbindable, rfl, ?_⟩
      by_cases hfails : ∃ e, f.expression.Fails scope e
      · obtain ⟨e, hfails⟩ := hfails
        refine .inl ⟨e, accepts_eq_error.2 (Expression.evaluate_fails_iff.2 hfails), hfails, ?_⟩
        by_cases hnames : ∃ name ∈ f.expression.names, name ∈ Expression.hazards
        · exact .inr hnames
        · exact .inl (hfails.of_harmless fun name hname hhazard => hnames ⟨name, hname, hhazard⟩)
      · rw [not_exists] at hfails
        obtain ⟨kept, hkept, htrue⟩ :=
          exists_accepts fun e he => hfails e (Expression.evaluate_fails_iff.1 he)
        exact .inr ⟨kept, hkept, hfails, htrue⟩

end RowFilter

/-! ### A column of unsigned integers -/

namespace Unsigned

/-- An index of signed and unsigned integers, which are columns of the same type. -/
def schema : Schema where
  columns := [{ name := "a", path := "a", type := .bigint, indexType := "long" },
    { name := "u", path := "u", type := .bigint, indexType := "unsigned_long" }]
  mappedPaths := ["a", "u"]
  pathTypes := [("a", "long"), ("u", "unsigned_long")]

/-- A filter on the signed integers. -/
def filter : RowFilter where
  text := "a == 1"
  expression := .relation .eq (.ident "a") (.literal (.int false false [1]))

/-- The filter is made of its text. -/
theorem create_filter : RowFilter.create filter.text = .ok filter := by
  have hread : Expression.read? filter.text = some filter.expression := by cbv
  exact RowFilter.create_of_read hread (by cbv)

/-- A document with an unsigned integer. -/
def hit (n : Int) : Json := .obj [("_source", .obj [("a", .int 1), ("u", .int n)])]

/-- Its row. -/
def row (n : Int) : Row := [("a", .int 1), ("u", .int n)]

/-- The row is decoded from the document, whatever the integer is. -/
theorem decode_hit (n : Int) :
    ∃ d, RowDecoder.create ["a", "u"] schema = .ok d ∧ d.decode (hit n) = .ok (row n) :=
  ⟨_, rfl, rfl⟩

/-- The row can be bound when the integer has sixty-four bits. -/
theorem bindable_row_iff {n : Int} : (row n).Bindable ↔ minInt64 ≤ n ∧ n ≤ maxInt64 := by
  constructor
  · intro h
    obtain ⟨-, hn⟩ := h ("u", .int n) (by simp [row])
    by_contra hrange
    exact hn (.int (by omega))
  · intro hrange m hm
    have hnames : ∀ column ∈ ["a", "u"], (columnNames? column).isSome = true := by decide
    simp only [row, List.mem_cons, List.not_mem_nil, or_false] at hm
    rcases hm with rfl | rfl
    · refine ⟨hnames "a" (by simp), ?_⟩
      rintro ⟨h⟩
      revert h
      decide
    · refine ⟨hnames "u" (by simp), ?_⟩
      rintro ⟨h⟩
      omega

/-- The filter does not mention the unsigned integer, but answers only when that has sixty-four bits. -/
theorem answers_unless_at_fault_unsigned :
    filter.keeps (row maxInt64) = .ok true ∧
      ∃ d : RowDecoder, d.decode (hit (maxInt64 + 1)) = .ok (row (maxInt64 + 1)) ∧
        filter.keeps (row (maxInt64 + 1)) = .error .refusedValue := by
  refine ⟨rfl, ?_⟩
  obtain ⟨d, -, hrow⟩ := decode_hit (maxInt64 + 1)
  refine ⟨d, hrow, ?_⟩
  obtain ⟨hkeeps, -⟩ | ⟨-, hbindable, -⟩ := RowFilter.answers_unless_at_fault filter hrow
  · exact hkeeps
  · have hrange := bindable_row_iff.1 hbindable
    omega

/-- **A row filter does not answer on every row**: an integer in a column that it does not mention makes it
fail. -/
theorem not_answers_unsigned :
    ¬ ∀ {text : String} {f : RowFilter} {schema : Schema} {columns : List String} {d : RowDecoder}
        {hit : Json} {row : Row}, RowFilter.create text = .ok f → RowDecoder.create columns schema = .ok d →
      d.decode hit = .ok row → ∃ kept, f.keeps row = .ok kept := by
  intro hall
  obtain ⟨d, hdecoder, hrow⟩ := decode_hit (maxInt64 + 1)
  obtain ⟨kept, hkept⟩ := hall create_filter hdecoder hrow
  have hfails : filter.keeps (row (maxInt64 + 1)) = .error .refusedValue := rfl
  rw [hfails] at hkept
  cases hkept

end Unsigned

end SearchTables
