import SearchTables.Settings.Connection
import SearchTables.Schema.Basic
import SearchTables.Json.Printer

/-! # The schema cache

Resolved schemas are kept under keys that name everything a schema can depend on: the cluster, the index,
the base query, the user and the sample size. -/

namespace SearchTables

/-- The parts of a key, joined by NUL characters. -/
def cacheKey (c : Connection) (index : String) (baseQuery : Option Json) (sampleSize : Int) : String :=
  let query :=
    match baseQuery.filter Json.isGiven with
    | some q => q.sortNames.render .spaced
    | none => ""
  "\x00".intercalate
    [c.host, toString c.port, index, query, c.username.getD "", c.password.getD "",
      if c.useSsl then "1" else "0", if c.verifySsl then "1" else "0", toString sampleSize]

/-- Schemas by key, in the order in which the keys came. -/
structure SchemaCache where
  entries : List (String × Schema) := []
deriving Inhabited

namespace SchemaCache

/-- The schema under a key. -/
def get? (c : SchemaCache) (key : String) : Option Schema := c.entries.lookup key

/-- Keep a schema under a key. -/
def put (c : SchemaCache) (key : String) (schema : Schema) : SchemaCache :=
  ⟨insertMember key schema c.entries⟩

/-- The number of schemas. -/
def size (c : SchemaCache) : Nat := c.entries.length

/-- The cache without any schema. -/
def clear (_ : SchemaCache) : SchemaCache := ⟨[]⟩

/-- What was put is found. -/
@[simp] theorem get?_put_self (c : SchemaCache) (key : String) (schema : Schema) :
    (c.put key schema).get? key = some schema := lookup_insertMember_self key schema c.entries

/-- Putting a schema leaves the others. -/
theorem get?_put_of_ne (c : SchemaCache) {key other : String} (h : other ≠ key) (schema : Schema) :
    (c.put key schema).get? other = c.get? other := lookup_insertMember_of_ne h schema c.entries

/-- Nothing is left after clearing. -/
@[simp] theorem get?_clear (c : SchemaCache) (key : String) : c.clear.get? key = none := rfl

end SchemaCache

end SearchTables
