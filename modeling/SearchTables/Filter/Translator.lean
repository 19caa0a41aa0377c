import SearchTables.Query.Clause
import SearchTables.Schema.Basic
import SearchTables.Geometry.Shape
import SearchTables.Geometry.BoundingBox

/-! # From predicates to query clauses

A **translator** turns predicates into clauses for one schema. What cannot be asked of the index without
changing the result gives no clause, and the translator remembers that something was left behind: then it is
not **fully pushed** any more. A conjunction keeps the parts that do give clauses, a disjunction needs all of
them. Exact matching on analyzed text is refused unless there is a companion to match on instead. -/

namespace SearchTables

/-- How deep a predicate or an expression may nest, unless another limit is set. -/
def defaultMaxDepth : Int := 100

/-- A constant in the words of a query; `null` and constants without a JSON form have none. A signaling
decimal is refused. -/
def queryConstant : Value → Except Error (Option Json)
  | .bool b => .ok (some (.bool b))
  | .int n => .ok (some (.int n))
  | .float x => .ok (some (.float x))
  | .str s => .ok (some (.str s))
  | .timestamp t => .ok (some (.str t.text))
  | .date d => .ok (some (.str d.text))
  | .time t offset => .ok (some (.str (t.text ++ Calendar.zoneText offset)))
  | .decimal d =>
      match d.toFloat? with
      | some x => .ok (some (.float x))
      | none => .error .refusedValue
  | _ => .ok none

/-- The constants of a membership in the words of a query: `null` is left out, and the first constant
without a JSON form spoils them all. -/
def queryConstants : List Value → Except Error (Option (List Json))
  | [] => .ok (some [])
  | .null :: rest => queryConstants rest
  -- the constants after a spoiling one are not looked at, so they cannot fail
  | v :: rest =>
      match queryConstant v with
      | .ok (some j) => (queryConstants rest).map fun js => js.map (j :: ·)
      | .ok none => .ok none
      | .error e => .error e

/-- The bound that an ordering sets; equality and inequality set none. -/
def CompareOp.bound? : CompareOp → Option Bound
  | .gt => some .gt
  | .ge => some .gte
  | .lt => some .lt
  | .le => some .lte
  | .eq => none
  | .ne => none

/-- The literal characters of a token list. -/
def literals (tokens : List Text.LikeToken) : List Char :=
  Text.writtenAll (tokens.filterMap Text.LikeToken.literal?)

/-- The clause for a LIKE pattern on a field: a term without wildcards, a beginning when the only wildcard
is a `%` at the end, and otherwise a wildcard pattern. -/
def likeClause (target : String) (tokens : List Text.LikeToken) (ignoreCase : Bool) : Clause :=
  if tokens.all fun t => t.literal?.isSome then
    .term target (.str (String.ofList (literals tokens))) ignoreCase
  else if tokens.getLast? = some .anyText ∧ tokens.dropLast.all fun t => t.literal?.isSome then
    .beginsWith target (String.ofList (literals tokens.dropLast)) ignoreCase
  else .wildcard target (String.ofList (tokens.flatMap Text.LikeToken.wildcard)) ignoreCase

/-- The clause that joins translated parts: none of nothing, and a single one as it is. -/
def joinClauses (junction : Junction) : List Clause → Option Clause
  | [] => none
  | [c] => some c
  | cs =>
      match junction with
      | .all => some (.must cs)
      | .any => some (.should cs)

/-- The clause of a compound predicate from those of its parts. -/
def joinParts (junction : Junction) (parts : List (Option Clause)) : Option Clause :=
  if junction = .any ∧ parts.any Option.isNone then none
  else joinClauses junction (parts.filterMap id)

namespace Schema

/-- The field on which exact matching runs: the companion of an analyzed field, the field itself
otherwise. -/
def exactField (s : Schema) (field : String) : Except Error String :=
  if s.isFullText field then
    match s.companion? field with
    | some companion => .ok companion
    | none => .error (.textWithoutCompanion field)
  else .ok field

/-- The clause for a comparison. The id can only be tested for equality. -/
def compareClause (s : Schema) (op : CompareOp) (field : String) (constant : Value) :
    Except Error (Option Clause) := do
  let target ← s.exactField field
  match ← queryConstant constant with
  | none => pure none
  | some value =>
      match op, op.bound? with
      | .ne, _ => pure (some (.mustNot (.term target value false)))
      | _, none => pure (some (.term target value false))
      | _, some bound =>
          if field = idColumn then pure none else pure (some (.range target bound value))

/-- The clause for a membership. -/
def amongClause (s : Schema) (field : String) (constants : List Value) :
    Except Error (Option Clause) := do
  let target ← s.exactField field
  match ← queryConstants constants with
  | some (v :: vs) => pure (some (.terms target (v :: vs)))
  | _ => pure none

/-- The clause for a pattern. The id cannot be matched against one. -/
def patternClause (s : Schema) (field pattern : String) (ignoreCase : Bool) (escape : String) :
    Except Error (Option Clause) := do
  let target ← s.exactField field
  if field = idColumn then pure none
  else pure (some (likeClause target (Text.likeTokens pattern escape) ignoreCase))

/-- The clause for a spatial relation: only on geometry fields, with a bounding box where one does. -/
def spatialClause (s : Schema) (relation : SpatialRelation) (field : String) (geometry : Value)
    (fieldFirst : Bool) : Except Error (Option Clause) :=
  if !((s.indexType? field).map geoTypes.contains).getD false then .ok none
  else
    match Shape.ofConstant geometry with
    | none => .ok none
    | some shape =>
        let relation := if fieldFirst then relation else relation.swapped
        -- a box stands for the geometry only where points within it are asked for
        if relation = .within then
          match Box.ofGeometry? shape with
          | .error e => .error e
          | .ok (some box) => .ok (some (.geoBox field box.minX box.minY box.maxX box.maxY))
          | .ok none => .ok (some (.geoShape field shape relation))
        else .ok (some (.geoShape field shape relation))

/-- The clause for a test on a qualified field, which must neither be empty nor residual. -/
def leafClause (field : String) (clause : Except Error (Option Clause)) :
    Except Error (Option Clause) :=
  if field = "" ∨ residualColumns.contains field then .ok none else clause

/-- The clause of a leaf, whose field is relative to a context. -/
def translateLeaf (s : Schema) (context : String) : Predicate → Except Error (Option Clause)
  | .compare op field constant =>
      let field := Path.under context field
      leafClause field (s.compareClause op field constant)
  | .among field constants =>
      let field := Path.under context field
      leafClause field (s.amongClause field constants)
  | .isNull field =>
      let field := Path.under context field
      leafClause field
        (.ok (if field = idColumn then none else some (.mustNot (.present field))))
  | .notNull field =>
      let field := Path.under context field
      leafClause field (.ok (if field = idColumn then none else some (.present field)))
  | .like field pattern ignoreCase escape =>
      let field := Path.under context field
      leafClause field (s.patternClause field pattern ignoreCase escape)
  | .spatial relation field geometry fieldFirst =>
      let field := Path.under context field
      leafClause field (s.spatialClause relation field geometry fieldFirst)
  | _ => .ok none

end Schema

/-- A translator in use: the level of nesting it is at, and whether everything so far gave a clause. -/
structure Translator where
  schema : Schema
  maxDepth : Int := defaultMaxDepth
  depth : Int := 0
  fullyPushed : Bool := true
deriving Inhabited

namespace Translator

/-- Go down one level. The level counts even when it is one too many. -/
def enter (t : Translator) : Translator := { t with depth := t.depth + 1 }

/-- Come back up one level. -/
def leave (t : Translator) : Translator := { t with depth := t.depth - 1 }

/-- Whether the current level is past the limit. -/
def tooDeep (t : Translator) : Bool := decide (t.maxDepth < t.depth)

/-- Take note of an answer: without a clause, something was left behind. -/
def note (t : Translator) : Except Error (Option Clause) → Translator
  | .ok none => { t with fullyPushed := false }
  | _ => t

mutual

/-- Translate a predicate in a context. -/
def translate (t : Translator) (context : String) :
    Predicate → Except Error (Option Clause) × Translator
  | .joined junction parts =>
      let t := t.enter
      -- a failure for depth leaves the level raised
      if t.tooDeep then (.error (.predicateTooDeep t.maxDepth), t)
      else
        let (answer, t) := translateParts t context parts
        let answer := answer.map (joinParts junction)
        (answer, t.leave.note answer)
  | .member field inner =>
      let t := t.enter
      if t.tooDeep then (.error (.predicateTooDeep t.maxDepth), t)
      else
        let (answer, t) := translate t (Path.under context field) inner
        (answer, t.leave.note answer)
  | leaf =>
      let t := t.enter
      if t.tooDeep then (.error (.predicateTooDeep t.maxDepth), t)
      else
        let answer := t.schema.translateLeaf context leaf
        (answer, t.leave.note answer)

/-- Translate several predicates in one context, up to the first failure. -/
def translateParts (t : Translator) (context : String) :
    List Predicate → Except Error (List (Option Clause)) × Translator
  | [] => (.ok [], t)
  | p :: rest =>
      match translate t context p with
      | (.error e, t) => (.error e, t)
      | (.ok c, t) =>
          match translateParts t context rest with
          | (.error e, t) => (.error e, t)
          | (.ok cs, t) => (.ok (c :: cs), t)

end

end Translator

/-- A translated filter, and whether rows need not be checked again. -/
structure Translation where
  clause : Option Clause
  fullyPushed : Bool
deriving Inhabited

/-- Translate one predicate at a path. -/
def translatePredicate (predicate : Predicate) (schema : Schema) (path : String) :
    Except Error (Option Clause) :=
  (Translator.translate { schema } path predicate).1

/-- Translate conditions by column with one translator. -/
def translateColumns (t : Translator) :
    List (String × Predicate) → Except Error (List Clause) × Translator
  | [] => (.ok [], t)
  | (name, predicate) :: rest =>
      match t.translate (t.schema.pathOf name) predicate with
      | (.error e, t) => (.error e, t)
      | (.ok clause, t) =>
          match translateColumns t rest with
          | (.error e, t) => (.error e, t)
          | (.ok clauses, t) => (.ok (clause.toList ++ clauses), t)

/-- The conditions of a filter by column. A condition on the whole row stands at the empty name. -/
def Filters.items : Filters → List (String × Predicate)
  | .none => []
  | .row predicate => [("", predicate)]
  | .columns filters => filters

/-- Translate the filters of a scan into one clause that requires all of them. -/
def translateFilters (filters : Filters) (schema : Schema) : Except Error Translation :=
  match translateColumns { schema } filters.items with
  | (.error e, _) => .error e
  | (.ok clauses, t) => .ok ⟨joinClauses .all clauses, t.fullyPushed⟩

end SearchTables
