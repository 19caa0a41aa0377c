import SearchTables.Schema.Basic
import SearchTables.Path
import SearchTables.Error

/-! # Index mappings

The mapping of an index declares its fields: each has a type, possibly fields inside it, and possibly
**multi-fields**, further ways in which the same value is indexed. -/

namespace SearchTables

/-- The primitive that stands for a field type of the index; anything unknown is text. -/
def relationalTypes : List (String × ColumnType) := [
  ("text", .varchar), ("match_only_text", .varchar), ("keyword", .varchar),
  ("constant_keyword", .varchar), ("wildcard", .varchar), ("string", .varchar), ("ip", .varchar),
  ("geo_point", .varchar), ("geo_shape", .varchar), ("long", .bigint), ("unsigned_long", .bigint),
  ("integer", .integer), ("short", .smallint), ("byte", .tinyint), ("double", .double),
  ("scaled_float", .double), ("float", .single), ("half_float", .single), ("boolean", .boolean),
  ("date", .timestamp), ("date_nanos", .timestamp)]

/-- One declared field. -/
inductive Field where
  | declare (name path indexType : String) (children : List Field)
      (multiFields : List (String × String))
deriving Inhabited

namespace Field

def name : Field → String
  | .declare name _ _ _ _ => name

def path : Field → String
  | .declare _ path _ _ _ => path

def indexType : Field → String
  | .declare _ _ indexType _ _ => indexType

def children : Field → List Field
  | .declare _ _ _ children _ => children

/-- The multi-fields of a field with their types. -/
def multiFields : Field → List (String × String)
  | .declare _ _ _ _ multiFields => multiFields

/-- Whether the field holds analyzed text. -/
def isFullText (f : Field) : Bool := fullTextTypes.contains f.indexType

/-- The path of the multi-field that serves exact matching: the one named `keyword` if it is of that type,
or else the first that is. -/
def companion? (f : Field) : Option String :=
  match (f.multiFields.filter fun (_, type) => type = "keyword").map (·.1) with
  | [] => none
  | first :: rest =>
      some (f.path ++ "." ++ if (first :: rest).contains "keyword" then "keyword" else first)

mutual

/-- The declared type of a field. Whether it holds lists is not declared. -/
def type : Field → ColumnType
  | .declare _ _ indexType [] _ => (relationalTypes.lookup indexType).getD .varchar
  | .declare _ _ _ (child :: children) _ => .struct (memberTypes (child :: children))

/-- The members that fields declare. -/
def memberTypes : List Field → List (String × ColumnType)
  | [] => []
  | f :: rest => (f.name, type f) :: memberTypes rest

end

mutual

/-- A field and every field inside it, the outer ones first. -/
def walk : Field → List Field
  | .declare name path indexType children multiFields =>
      .declare name path indexType children multiFields :: walkAll children

/-- `walk` on several fields. -/
def walkAll : List Field → List Field
  | [] => []
  | f :: rest => walk f ++ walkAll rest

end

/-! ## Reading mappings -/

/-- The multi-fields that a field definition declares with a type. -/
def multiFieldsOf (definition : Json) : List (String × String) :=
  match definition.get? "fields" with
  | some (.obj members) =>
      members.filterMap fun (name, sub) => ((sub.get? "type").bind Json.str?).map (name, ·)
  | _ => []

/-- The type that a field definition gives; `object` when it gives none. -/
def indexTypeOf (definition : Json) : String :=
  ((definition.get? "type").bind Json.str?).getD "object"

mutual

/-- The field that a definition declares at a place. Definitions that are no objects declare an empty
object. -/
def ofDefinition (name : String) (parent : String) : Json → Field
  | .obj members =>
      let path := Path.under parent name
      .declare name path (indexTypeOf (.obj members)) (childrenOf path members)
        (multiFieldsOf (.obj members))
  | _ => .declare name (Path.under parent name) "object" [] []

/-- The fields inside a definition: those of its member `properties`, if that is an object. -/
def childrenOf (path : String) : List (String × Json) → List Field
  | [] => []
  | (key, value) :: rest =>
      if key = "properties" then
        match value with
        | .obj definitions => ofDefinitions path definitions
        | _ => []
      else childrenOf path rest

/-- The fields of several definitions at one place. -/
def ofDefinitions (parent : String) : List (String × Json) → List Field
  | [] => []
  | (name, definition) :: rest => ofDefinition name parent definition :: ofDefinitions parent rest

end

end Field

/-- The top-level fields of one index. -/
structure IndexMapping where
  index : String
  fields : List Field
deriving Inhabited

namespace IndexMapping

/-- The field definitions in the mapping of an index. Old indices put them under the name of their only
document type. -/
def definitionsOf : Json → List (String × Json)
  | .obj members =>
      match members.lookup "properties" with
      | some (.obj definitions) => definitions
      | _ =>
          match members with
          | [(_, inner)] =>
              match inner.get? "properties" with
              | some (.obj definitions) => definitions
              | _ => []
          | _ => []
  | _ => []

/-- The mapping of one index out of a mapping response. -/
def ofEntry (index : String) : Json → Except Error IndexMapping
  | .obj members =>
      .ok ⟨index, Field.ofDefinitions "" (definitionsOf ((members.lookup "mappings").getD .null))⟩
  | entry => .error (.mappingEntryNotObject index entry.kindName)

/-- The mappings out of a list of entries; the first bad entry is reported. -/
def ofEntries : List (String × Json) → Except Error (List IndexMapping)
  | [] => .ok []
  | (index, entry) :: rest => do
      let mapping ← ofEntry index entry
      let mappings ← ofEntries rest
      pure (mapping :: mappings)

/-- The mappings that a mapping response declares, one for each index. -/
def ofResponse : Json → Except Error (List IndexMapping)
  | .obj entries => ofEntries entries
  | body => .error (.mappingNotObject body.kindName)

end IndexMapping

end SearchTables
