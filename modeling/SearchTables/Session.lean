import SearchTables.Mapping.Resolution
import SearchTables.Scan.Engine
import SearchTables.Cache

/-! # Sessions

A session binds indices, which resolves their schemas or takes them from a cache, and scans what it bound. The
cache may be shared by several sessions. -/

namespace SearchTables

/-- A session: how it is connected, and its settings. -/
structure Session where
  connection : Connection
  settings : ScanSettings
deriving Inhabited

/-- An index with its schema, and the query that restricts it. -/
structure BoundIndex where
  index : String
  schema : Schema
  baseQuery : Option Json
deriving Inhabited

/-- The columns of a bound index. -/
def BoundIndex.columns (b : BoundIndex) : List String := b.schema.outputColumns

/-- The object that a base query is. -/
def givenObject (members : List (String × Json)) : Option Json :=
  if members.isEmpty then none else some (.obj members)

/-- Read a base query: nothing, an object, or the text of one. An empty object asks for nothing. -/
def readBaseQuery : Json → Except Error (Option Json)
  | .null => .ok none
  | .obj members => .ok (givenObject members)
  | .str s =>
      match Json.read? s with
      | none => .error .queryNotJson
      | some (.obj members) => .ok (givenObject members)
      | some j => .error (.queryNotObject j.kindName)
  | _ => .error .refusedType

/-- What a caller asks of a scan of a bound index. -/
structure ScanWish where
  /-- The output columns; all columns when none are given. -/
  columns : Option (List String) := none
  filters : Filters := .none
  /-- A filter as text, in addition to the others; an empty one asks for nothing. -/
  condition : String := ""
  filterOnly : List String := []
  limit : Json := .null
  offset : Json := .int 0
deriving Inhabited

namespace Session

variable {τ : Type}

/-- Change some settings. A new sample size makes the cached schemas useless. -/
def updateSettings (s : Session) (log : LogRecord → τ → τ) (changes : List (String × Json))
    (cache : SchemaCache) (state : τ) : Except Error Session × SchemaCache × τ :=
  match s.settings.update changes with
  | .error e => (.error e, cache, state)
  | .ok settings =>
      if settings.sampleSize = s.settings.sampleSize then (.ok { s with settings }, cache, state)
      -- a shared cache is emptied for every session that uses it
      else
        (.ok { s with settings }, cache.clear,
          log ⟨.session, .info, "sample_size changed, cleared bind cache"⟩ state)

/-- The key of the schema of an index in the cache. -/
def key (s : Session) (index : String) (baseQuery : Option Json) : String :=
  cacheKey s.connection index baseQuery s.settings.sampleSize

/-- Bind an index whose name and base query were checked. -/
def bindChecked (s : Session) (service : ClusterService τ) (index : String) (baseQuery : Option Json)
    (cache : SchemaCache) (state : τ) : Except Error BoundIndex × SchemaCache × τ :=
  match cache.get? (s.key index baseQuery) with
  | some schema =>
      (.ok ⟨index, schema, baseQuery⟩, cache,
        service.scrolls.log ⟨.session, .debug, "bind cache hit for " ++ index⟩ state)
  | none =>
      match resolveSchema service index baseQuery s.settings state with
      | (.error e, state) => (.error e, cache, state)
      | (.ok schema, state) =>
          (.ok ⟨index, schema, baseQuery⟩, cache.put (s.key index baseQuery) schema, state)

/-- Bind an index: find its schema in the cache, or resolve it and keep it there. -/
def bind (s : Session) (service : ClusterService τ) (index : String) (query : Json)
    (cache : SchemaCache) (state : τ) : Except Error BoundIndex × SchemaCache × τ :=
  if Text.isBlankText index then (.error .missingIndex, cache, state)
  else
    match readBaseQuery query with
    | .error e => (.error e, cache, state)
    | .ok baseQuery => s.bindChecked service index baseQuery cache state

end Session

/-- A filter together with the predicate of a condition. -/
def Filters.with (filters : Filters) (condition : Predicate) (schema : Schema) : Filters :=
  match filters with
  | .none => .row condition
  | .row p => .row (.joined .all [p, condition])
  | .columns filters =>
      .row (.joined .all
        (filters.map (fun (name, p) => .member (schema.pathOf name) p) ++ [condition]))

/-- The filters and the row filter of a condition: when the index cannot answer all of it, the whole
condition is evaluated on every row. -/
def conditionFilters (filters : Filters) (condition : String) (schema : Schema) :
    Except Error (Filters × Option RowFilter) :=
  if condition = "" then .ok (filters, none)
  else do
    let predicate ← parseFilter condition defaultMaxDepth
    let translation ← translateFilters (.row predicate) schema
    if translation.fullyPushed then pure (filters.with predicate schema, none)
    else do
      let rowFilter ← RowFilter.create condition
      pure (filters.with predicate schema, some rowFilter)

namespace Session

variable {τ : Type}

/-- The order that a wish comes to. -/
def order (bound : BoundIndex) (wish : ScanWish) (filters : Filters) (rowFilter : Option RowFilter) :
    ScanOrder :=
  { columns := wish.columns.getD bound.columns
    filters
    filterOnly := wish.filterOnly
    baseQuery := bound.baseQuery
    limit := wish.limit
    offset := wish.offset
    rowFilter }

/-- Start a scan of a bound index. Nothing is sent yet. -/
def scan (s : Session) (log : LogRecord → τ → τ) (bound : BoundIndex) (wish : ScanWish) : Task τ Scan := do
  let (filters, rowFilter) ← conditionFilters wish.filters wish.condition bound.schema
  if rowFilter.isSome then
    modify (log ⟨.session, .info, "filter on " ++ bound.index ++ " is partly evaluated client-side"⟩)
  let request ← (order bound wish filters rowFilter).compile bound.schema bound.index s.settings
  Scan.create request bound.schema

/-- Bind an index, scan it, and collect every row, within a number of steps for each row and a number of
rows. The scan is closed whatever happens. -/
def query (s : Session) (service : ClusterService τ) (steps count : Nat) (index : String) (query : Json)
    (wish : ScanWish) (cache : SchemaCache) (state : τ) :
    Option (Except Error (List Row) × SchemaCache × τ) :=
  match s.bind service index query cache state with
  | (.error e, cache, state) => some (.error e, cache, state)
  | (.ok bound, cache, state) =>
      match s.scan service.scrolls.log bound wish state with
      | (.error e, state) => some (.error e, cache, state)
      | (.ok scan, state) =>
          (scan.rows service.scrolls steps count state).map fun (rows, scan, state) =>
            match scan.close service.scrolls state with
            -- a failure to close takes the place of whatever the rows came to
            | (.error e, _, state) => (.error e, cache, state)
            | (.ok (), _, state) => (rows, cache, state)

end Session

end SearchTables
