import SearchTables.Schema.ColumnType
import SearchTables.Json.Basic

/-! # Schemas

A **schema** describes an index as a table: its columns in order, every field path of the mapping with its
index type, which paths hold analyzed text, and for such a path the **companion** that holds the same value
unanalyzed. -/

namespace SearchTables

/-! ## Field types of the index -/

/-- Field types whose content is analyzed, so that exact matching does not apply. -/
def fullTextTypes : List String := ["text", "match_only_text"]

/-- Field types that hold geometries. -/
def geoTypes : List String := ["geo_point", "geo_shape"]

/-! ## Columns every table has -/

/-- The column that holds the document id. -/
def idColumn : String := "_id"

/-- The column that holds the content no mapping declares. -/
def unmappedColumn : String := "_unmapped_"

/-- The column that holds the whole document. -/
def sourceColumn : String := "_source"

/-- The columns that exist without being declared. -/
def virtualColumns : List String := [idColumn, unmappedColumn, sourceColumn]

/-- The columns that exist on the side of the table only, so nothing about them can be asked of the
index. -/
def residualColumns : List String := [unmappedColumn, sourceColumn]

/-- One column of a table. -/
structure Column where
  name : String
  path : String
  type : ColumnType
  indexType : String := "keyword"
  fullText : Bool := false
  /-- The companion path; empty when there is none. -/
  companion : String := ""
deriving DecidableEq, Inhabited

/-- Whether a column has a companion. -/
def Column.hasCompanion (c : Column) : Bool := c.companion != ""

/-- An index as a table. -/
structure Schema where
  columns : List Column
  mappedPaths : List String := []
  /-- The index type of each path, in the order of declaration. -/
  pathTypes : List (String × String) := []
  companions : List (String × String) := []
  fullTextPaths : List String := []
  hasUnmapped : Bool := false
deriving Inhabited

namespace Schema

/-- The paths whose index type is a full-text type. -/
def fullTextOf (pathTypes : List (String × String)) : List String :=
  (pathTypes.filter fun (_, type) => fullTextTypes.contains type).map (·.1)

/-- The column of a name; the last one, should several go by it. -/
def findColumn? (s : Schema) (name : String) : Option Column :=
  s.columns.reverse.find? (·.name = name)

/-- The index type of a path. -/
def indexType? (s : Schema) (path : String) : Option String := s.pathTypes.lookup path

/-- Whether a path holds analyzed text. -/
def isFullText (s : Schema) (path : String) : Bool := s.fullTextPaths.contains path

/-- The companion of a path. -/
def companion? (s : Schema) (path : String) : Option String := s.companions.lookup path

/-- The path that a column name stands for: the path of the column, or the name itself. -/
def pathOf (s : Schema) (name : String) : String :=
  match s.findColumn? name with
  | some column => column.path
  | none => name

/-- The output columns of a table: the id, the declared columns, and the residual content. -/
def outputColumns (s : Schema) : List String := idColumn :: s.columns.map (·.name) ++ [unmappedColumn]

/-- The schema on one line. -/
def text (s : Schema) : String :=
  "Schema(" ++ ", ".intercalate (s.columns.map fun c => c.name ++ " " ++ c.type.text) ++ ")"

/-- Whether two lists have the same elements. -/
def sameElements (xs ys : List String) : Bool := xs.all ys.contains && ys.all xs.contains

/-- Whether two lists of pairs look the same up at every key. -/
def sameTable (xs ys : List (String × String)) : Bool :=
  xs.all (fun (key, value) => ys.lookup key == some value) &&
    ys.all (fun (key, value) => xs.lookup key == some value)

/-- Whether two schemas describe the same table: equal columns, and equal path data in any order. -/
def same (s t : Schema) : Bool :=
  s.columns == t.columns && sameElements s.mappedPaths t.mappedPaths &&
    sameTable s.pathTypes t.pathTypes && sameTable s.companions t.companions &&
    sameElements s.fullTextPaths t.fullTextPaths && s.hasUnmapped == t.hasUnmapped

end Schema

end SearchTables
