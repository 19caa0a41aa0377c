import SearchTables.Row.Cell
import SearchTables.Row.Residual

/-! # Rows

A **hit** is a document as a search returns it, with its id and its source. A row decoder turns hits into
rows with fixed output columns. -/

namespace SearchTables

/-- Where the cells of an output column come from. -/
inductive CellSource where
  /-- The id of the document. -/
  | id
  /-- The content that no mapping declares. -/
  | residual
  /-- The whole source. -/
  | source
  /-- The value at the path of a column. -/
  | column (column : Column)
deriving Inhabited

/-- A row: cells by output column. -/
abbrev Row := List (String × Value)

/-- A decoder for fixed output columns. -/
structure RowDecoder where
  columns : List (String × CellSource)
  paths : PathSet
  pathTypes : List (String × String)
deriving Inhabited

namespace RowDecoder

/-- Where the cells of a named column come from; unknown names have no source. -/
def sourceOf (schema : Schema) (name : String) : Except Error CellSource :=
  if name = idColumn then .ok .id
  else if name = unmappedColumn then .ok .residual
  else if name = sourceColumn then .ok .source
  else
    match schema.findColumn? name with
    | some column => .ok (.column column)
    | none => .error .unknownName

/-- The sources of several columns. -/
def sourcesOf (schema : Schema) : List String → Except Error (List (String × CellSource))
  | [] => .ok []
  | name :: rest => do
      let origin ← sourceOf schema name
      let sources ← sourcesOf schema rest
      pure ((name, origin) :: sources)

/-- The decoder for output columns of a schema. -/
def create (columns : List String) (schema : Schema) : Except Error RowDecoder := do
  let sources ← sourcesOf schema columns
  pure ⟨sources, .ofMapped schema.mappedPaths, schema.pathTypes⟩

/-- The source of a hit; anything that does not count as given is an empty object. -/
def sourceOfHit (members : List (String × Json)) : Json :=
  match members.lookup "_source" with
  | some source => if source.isGiven then source else .obj []
  | none => .obj []

/-- One cell of a row. -/
def cell (d : RowDecoder) (origin : CellSource) (hit : List (String × Json)) : Except Error Value :=
  match origin with
  | .id => .ok (.ofJson ((hit.lookup "_id").getD .null))
  | .source => .ok (.str (sourceOfHit hit).compact)
  | .residual =>
      match d.paths.residual "" (sourceOfHit hit) with
      | [] => .ok .null
      | found => .ok (.str (Json.obj found).compact)
  | .column column =>
      Cell.coerce (Cell.indexTypeIn d.pathTypes) column.type column.path
        (.ofJson ((Path.find? (sourceOfHit hit) column.path).getD .null))

/-- The cells of several columns. -/
def cells (d : RowDecoder) (hit : List (String × Json)) :
    List (String × CellSource) → Except Error (List (String × Value))
  | [] => .ok []
  | (name, origin) :: rest => do
      let cell ← d.cell origin hit
      let cells ← d.cells hit rest
      pure ((name, cell) :: cells)

/-- The row of a hit. A hit that is no object has no members to take cells from. -/
def decode (d : RowDecoder) (hit : Json) : Except Error Row :=
  match d.columns, hit with
  | [], _ => .ok []
  | columns, .obj members => (d.cells members columns).map membersOf
  | _, _ => .error .noMembers

end RowDecoder

end SearchTables
