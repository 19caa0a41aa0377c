import SearchTables.Schema.Basic
import SearchTables.Geometry.Shape
import SearchTables.Json.Printer
import SearchTables.Calendar.Epoch

/-! # Cells

A **cell** is the value of a column in a row: the raw value of a document coerced to the type of the column,
or `null` where it does not fit. A cell **inhabits** its type. -/

namespace SearchTables

/-- A document value as JSON text. -/
def Json.compact (j : Json) : String := j.render .tight

/-- A value as JSON text in a layout, if it has one. -/
def Value.jsonText (layout : JsonLayout) (v : Value) : Except Error String :=
  match v.toJson? with
  | some j => .ok (j.render layout)
  | none => .error .refusedType

namespace Cell

/-- The timestamp that a raw value stands for: epoch milliseconds, or a text. A zoned text is moved to
universal time, which may leave the calendar. -/
def timestamp : Value → Except Error Value
  | .int n => .ok (((Calendar.ofEpochInt? n).map Value.timestamp).getD .null)
  | .float x => .ok (((Calendar.ofEpochFloat? x).map Value.timestamp).getD .null)
  | .str s =>
      match Calendar.readDateTime? (Text.trim s) with
      | none => .ok .null
      | some t =>
          match t.toUniversal? with
          | some t => .ok (.timestamp t)
          | none => .error .outOfRange
  | _ => .ok .null

/-- The integer that a raw value is. -/
def integer : Value → Value
  | .int n => .int n
  | _ => .null

/-- The double that a raw number is. An integer past the largest double is out of range. -/
def float : Value → Except Error Value
  | .int n =>
      match floatOfInt? n with
      | some x => .ok (.float x)
      | none => .error .outOfRange
  | .float x => .ok (.float x)
  | _ => .ok .null

/-- The truth value that a raw value is. -/
def boolean : Value → Value
  | .bool b => .bool b
  | _ => .null

/-- A text as it is, anything else as JSON text. -/
def text : Value → Except Error Value
  | .str s => .ok (.str s)
  | v => (v.jsonText .tight).map .str

/-- Coerce a raw value to a primitive. -/
def primitive (name : String) (v : Value) : Except Error Value :=
  if name = "VARCHAR" then text v
  else if ColumnType.integerNames.contains name then .ok (integer v)
  else if ColumnType.floatNames.contains name then float v
  else if name = "BOOLEAN" then .ok (boolean v)
  else if name = "TIMESTAMP" then timestamp v
  else if name = "JSON" then (v.jsonText .tight).map .str
  else .ok v

/-- The text of an optional geometry. -/
def geometryText : Option Value → Except Error Value
  | some v => (v.jsonText .tightAscii).map .str
  | none => .ok .null

/-- The items of a list cell: those of an array, or a single value alone. -/
def items : Value → List Value
  | .list items => items
  | v => [v]

/-- Coerce each of several raw values. -/
def coerceAll (coerce : Value → Except Error Value) : List Value → Except Error (List Value)
  | [] => .ok []
  | v :: rest => do
      let cell ← coerce v
      let cells ← coerceAll coerce rest
      pure (cell :: cells)

/-- Coerce a raw value that is neither null nor to become a list, by what is known about geometries at its
path. -/
def geometryOr (indexType : String) (v : Value) (otherwise : Except Error Value) : Except Error Value :=
  if indexType = "geo_point" then Shape.decodePoint v >>= geometryText
  else if indexType = "geo_shape" then geometryText (Shape.decode v)
  else otherwise

mutual

/-- Coerce a raw value to the type of a column at a path. `indexTypeAt` gives the index types of paths, so
that geometries are recognised wherever they lie. -/
def coerce (indexTypeAt : String → String) : ColumnType → String → Value → Except Error Value
  | .list element, path, v =>
      if v.isNull then .ok .null
      else (coerceAll (coerce indexTypeAt element path) (items v)).map .list
  | .struct members, path, v =>
      if v.isNull then .ok .null
      else
        geometryOr (indexTypeAt path) v <|
          if Shape.hasMembers v then
            (coerceMembers indexTypeAt members path v).map fun cells => .object (membersOf cells)
          else .ok .null
  | .primitive name, path, v =>
      if v.isNull then .ok .null else geometryOr (indexTypeAt path) v (primitive name v)

/-- Coerce the members of an object to the members of a struct. -/
def coerceMembers (indexTypeAt : String → String) :
    List (String × ColumnType) → String → Value → Except Error (List (String × Value))
  | [], _, _ => .ok []
  | (name, type) :: rest, path, v => do
      let cell ← coerce indexTypeAt type (Path.under path name) ((v.get? name).getD .null)
      let cells ← coerceMembers indexTypeAt rest path v
      pure ((name, cell) :: cells)

end

/-- The index type of a path, empty when it is unknown. -/
def indexTypeIn (pathTypes : List (String × String)) (path : String) : String :=
  (pathTypes.lookup path).getD ""

mutual

/-- A value **inhabits** a type: it has the kind that the type asks for, and its items and members are null
or inhabit theirs. -/
def Inhabits : ColumnType → Value → Prop
  | .list element, v => ∃ items, v = .list items ∧ ∀ item ∈ items, item = .null ∨ Inhabits element item
  | .struct members, v => ∃ cells, v = .object cells ∧ InhabitsMembers members cells
  | .primitive name, v =>
      if name = "VARCHAR" ∨ name = "JSON" then ∃ s, v = .str s
      else if ColumnType.integerNames.contains name then ∃ n, v = .int n
      else if ColumnType.floatNames.contains name then ∃ x, v = .float x
      else if name = "BOOLEAN" then ∃ b, v = .bool b
      else if name = "TIMESTAMP" then ∃ t : DateTime, v = .timestamp t ∧ t.offset = none
      else True

/-- Cells inhabit the members of a struct: the same names in the same order. -/
def InhabitsMembers : List (String × ColumnType) → List (String × Value) → Prop
  | [], cells => cells = []
  | (name, type) :: rest, cells =>
      ∃ cell others, cells = (name, cell) :: others ∧ (cell = .null ∨ Inhabits type cell) ∧
        InhabitsMembers rest others

end

end Cell

end SearchTables
