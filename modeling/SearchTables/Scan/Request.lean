import SearchTables.Filter.Translator
import SearchTables.Row.Filter
import SearchTables.Settings.Scan

/-! # Scan requests

A **scan request** is everything a scan needs to know, worked out before anything is sent: the query, which
part of each document is fetched, the output columns, the page size, and how many rows to skip and to
return. -/

namespace SearchTables

/-- Which part of each document is fetched. -/
inductive Projection where
  | whole
  | nothing
  | paths (paths : List String)
deriving DecidableEq, Repr, Inhabited

namespace Projection

/-- The paths of the columns that are not the id. -/
def columnPaths (schema : Schema) : List String → Except Error (List String)
  | [] => .ok []
  | name :: rest =>
      if name = idColumn then columnPaths schema rest
      else
        match schema.findColumn? name with
        | none => .error (.unknownColumn name)
        | some column => (columnPaths schema rest).map (column.path :: ·)

/-- The part that output columns need: residual columns need the whole document, the id nothing of it. -/
def ofColumns (columns : List String) (schema : Schema) : Except Error Projection :=
  if columns.any residualColumns.contains then .ok .whole
  else
    (columnPaths schema columns).map fun found =>
      if found.isEmpty then .nothing else .paths found

/-- The projection as it is sent; the whole document is asked for by saying nothing. -/
def toValue? : Projection → Option Value
  | .whole => none
  | .nothing => some (.bool false)
  | .paths found => some (.list (found.map .str))

end Projection

/-- A scan that was worked out. -/
structure ScanRequest where
  index : String
  query : Clause
  projection : Projection
  columns : List String
  pageSize : Int
  /-- How long the cluster keeps the scroll between two pages. -/
  scroll : String
  limit : Option Nat
  offset : Nat
  /-- Whether the query alone decides which documents match. -/
  fullyPushed : Bool
  rowFilter : Option RowFilter
deriving Inhabited

/-- What a caller asks of a scan. Bounds are checked, so any value may be given. -/
structure ScanOrder where
  columns : List String
  filters : Filters := .none
  /-- Columns that only filters refer to; they are not returned. -/
  filterOnly : List String := []
  baseQuery : Option Json := none
  limit : Json := .null
  offset : Json := .int 0
  rowFilter : Option RowFilter := none
deriving Inhabited

namespace ScanOrder

/-- A limit: none, or a whole number that is not negative. -/
def checkLimit : Json → Except Error (Option Nat)
  | .null => .ok none
  | .int n => if 0 ≤ n then .ok (some n.toNat) else .error (.badLimit (.int n))
  | j => .error (.badLimit j)

/-- An offset: a whole number that is not negative. -/
def checkOffset : Json → Except Error Nat
  | .int n => if 0 ≤ n then .ok n.toNat else .error (.badOffset (.int n))
  | j => .error (.badOffset j)

/-- The columns that are returned. -/
def outputColumns (order : ScanOrder) : List String :=
  order.columns.filter fun c => !order.filterOnly.contains c

/-- Whether a column exists, declared or not. -/
def isColumn (schema : Schema) (name : String) : Bool :=
  virtualColumns.contains name || (schema.findColumn? name).isSome

/-- Check that every column exists that is returned or that a filter refers to. -/
def checkColumns (order : ScanOrder) (schema : Schema) (index : String) : Except Error Unit :=
  match (order.outputColumns ++ order.filterOnly).find? (!isColumn schema ·) with
  | some name => .error (.unknownColumnOfIndex name index)
  | none => .ok ()

/-- Work out a scan of an index. A row filter needs every column, and how many documents it lets through is
not known, so it lifts the projection and fetches batches. -/
def compile (order : ScanOrder) (schema : Schema) (index : String) (settings : ScanSettings) :
    Except Error ScanRequest := do
  let limit ← checkLimit order.limit
  let offset ← checkOffset order.offset
  order.checkColumns schema index
  let translation ← translateFilters order.filters schema
  let projection ←
    if order.rowFilter.isSome then pure .whole else Projection.ofColumns order.outputColumns schema
  let pageSize :=
    if order.rowFilter.isSome then settings.batchSize
    else settings.pageSize (limit.map Int.ofNat) offset
  pure
    { index
      query := Clause.combine (order.baseQuery.map .native) translation.clause
      projection
      columns := order.outputColumns
      pageSize
      scroll := settings.scrollTime
      limit
      offset
      fullyPushed := translation.fullyPushed
      rowFilter := order.rowFilter }

end ScanOrder

namespace ScanRequest

/-- The body that is sent to open the scan. -/
def body (r : ScanRequest) : Value :=
  .object (("query", r.query.toValue) :: (r.projection.toValue?.map ("_source", ·)).toList)

/-- The body as JSON; a constant that cannot be sent is refused. -/
def bodyJson (r : ScanRequest) : Except Error Json :=
  match r.body.toJson? with
  | some j => .ok j
  | none => .error .refusedType

end ScanRequest

end SearchTables
