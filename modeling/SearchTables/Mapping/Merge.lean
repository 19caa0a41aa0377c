import SearchTables.Mapping.Field

/-! # Merging mappings

A pattern may match several indices, which are read as one table. The columns of the table are the union
of the declared top-level fields, in the order in which they are first seen. A path is full-text when any
index declares it so, and has a companion only when every index that declares it names the same one. -/

namespace SearchTables

/-- A column while indices are being merged: the type so far, and the index that declared it first. -/
structure PendingColumn where
  name : String
  type : ColumnType
  indexType : String
  index : String
deriving Inhabited

/-- What merging has collected so far. -/
structure MergeState where
  columns : List PendingColumn := []
  mappedPaths : List String := []
  pathTypes : List (String × String) := []
  fullText : List String := []
  /-- The different companions that the indices name for each path. -/
  votes : List (String × List (Option String)) := []
deriving Inhabited

/-- Columns and path data of several indices taken together. -/
structure MergedMapping where
  columns : List Column
  mappedPaths : List String
  pathTypes : List (String × String)
  companions : List (String × String)
  fullTextPaths : List String
deriving Inhabited

/-- Add an element to a list that stands for a set. -/
def insertNew {α : Type} [BEq α] (x : α) (xs : List α) : List α :=
  if xs.contains x then xs else xs ++ [x]

namespace MergeState

/-- Take note of the path of a field. -/
def notePath (s : MergeState) (f : Field) : MergeState :=
  let vote := if f.isFullText then f.companion? else none
  { s with
    mappedPaths := insertNew f.path s.mappedPaths
    pathTypes := insertMember f.path f.indexType s.pathTypes
    fullText := if f.isFullText then insertNew f.path s.fullText else s.fullText
    votes := insertMember f.path (insertNew vote ((s.votes.lookup f.path).getD [])) s.votes }

/-- Replace the type of the column of a name. -/
def setType (name : String) (type : ColumnType) : List PendingColumn → List PendingColumn
  | [] => []
  | c :: rest => if c.name = name then { c with type } :: rest else c :: setType name type rest

/-- Take up a top-level field of an index: a new column, or a type to merge into a column. -/
def addField (s : MergeState) (index : String) (f : Field) : Except Error MergeState :=
  match s.columns.find? (·.name = f.name) with
  | none => .ok { s with columns := s.columns ++ [⟨f.name, f.type, f.indexType, index⟩] }
  | some column =>
      if column.type.compatible f.type then
        -- the index that declared the column first stays its index
        .ok { s with columns := setType f.name (column.type.merge f.type) s.columns }
      else
        .error (.typeConflict (column.type.conflictPath f.type f.path) column.index column.type.text
          index f.type.text)

/-- Take up the fields of an index in order. -/
def addFields (s : MergeState) (index : String) : List Field → Except Error MergeState
  | [] => .ok s
  | f :: rest =>
      match s.addField index f with
      | .ok s => s.addFields index rest
      | .error e => .error e

/-- Take up one index. -/
def addIndex (s : MergeState) (mapping : IndexMapping) : Except Error MergeState :=
  ((Field.walkAll mapping.fields).foldl notePath s).addFields mapping.index mapping.fields

/-- Take up several indices in order. -/
def addIndices (s : MergeState) : List IndexMapping → Except Error MergeState
  | [] => .ok s
  | mapping :: rest =>
      match s.addIndex mapping with
      | .ok s => s.addIndices rest
      | .error e => .error e

/-- The companion that all votes on a path agree on. -/
def agreed? : List (Option String) → Option String
  | [vote] => vote
  | _ => none

/-- The companions of the full-text paths. -/
def companions (s : MergeState) : List (String × String) :=
  s.fullText.filterMap fun path => (agreed? ((s.votes.lookup path).getD [])).map (path, ·)

/-- What the merge amounts to. -/
def result (s : MergeState) : MergedMapping :=
  let companions := s.companions
  { columns := s.columns.map fun c =>
      { name := c.name, path := c.name, type := c.type, indexType := c.indexType
        fullText := s.fullText.contains c.name
        companion := (companions.lookup c.name).getD "" }
    mappedPaths := s.mappedPaths
    pathTypes := s.pathTypes
    companions
    fullTextPaths := s.fullText }

end MergeState

/-- Merge the mappings of several indices. Two indices that declare incompatible types for a top-level
field are a conflict. -/
def mergeMappings (mappings : List IndexMapping) : Except Error MergedMapping :=
  (MergeState.addIndices {} mappings).map MergeState.result

namespace MergedMapping

/-- The paths at which a raw value may be an array of values. The arrays of geometry fields are
coordinates. -/
def trackablePaths (m : MergedMapping) : List String :=
  (m.pathTypes.filter fun (_, type) => !geoTypes.contains type).map (·.1)

end MergedMapping

/-- Turn the columns, and the members inside them, into lists wherever arrays were seen. -/
def applyArrays (arrays : List String) (columns : List Column) : List Column :=
  columns.map fun c => { c with type := c.type.wrapLists arrays.contains Path.under c.path }

/-- The schema of merged mappings, given where arrays were seen. -/
def MergedMapping.schema (m : MergedMapping) (arrays : List String) (hasUnmapped : Bool) : Schema :=
  { columns := applyArrays arrays m.columns
    mappedPaths := m.mappedPaths
    pathTypes := m.pathTypes
    companions := m.companions
    fullTextPaths := m.fullTextPaths
    hasUnmapped }

end SearchTables
