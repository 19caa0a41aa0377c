import SearchTables.Filter.Predicate

/-! # Query clauses

What the index can be asked for. A clause has a **JSON form**, in which it is sent, and a **truth value** on a
document once the truth of its leaves is known: `must` means all, `should` at least one, `mustNot` none. -/

namespace SearchTables

/-- A bound of a range. -/
inductive Bound where
  | gt | gte | lt | lte
deriving DecidableEq, Repr, Inhabited

/-- The name of a bound. -/
def Bound.name : Bound → String
  | .gt => "gt"
  | .gte => "gte"
  | .lt => "lt"
  | .lte => "lte"

/-- A clause of a query. -/
inductive Clause where
  | matchAll
  /-- A clause in the words of the index itself. -/
  | native (query : Json)
  | term (field : String) (value : Json) (ignoreCase : Bool)
  | terms (field : String) (values : List Json)
  | range (field : String) (bound : Bound) (value : Json)
  | present (field : String)
  | beginsWith (field value : String) (ignoreCase : Bool)
  | wildcard (field pattern : String) (ignoreCase : Bool)
  | geoShape (field : String) (shape : Value) (relation : SpatialRelation)
  | geoBox (field : String) (minX minY maxX maxY : Value)
  | mustNot (clause : Clause)
  | must (clauses : List Clause)
  | should (clauses : List Clause)
deriving Inhabited

namespace Clause

/-! ## JSON form -/

/-- A text and whether case is ignored, which is only said when it is. -/
def caseOption (value : Value) (ignoreCase : Bool) : Value :=
  .object (("value", value) :: if ignoreCase then [("case_insensitive", .bool true)] else [])

/-- An object with one member. -/
def single (name : String) (value : Value) : Value := .object [(name, value)]

/-- A corner of a box. -/
def corner (latitude longitude : Value) : Value := .object [("lat", latitude), ("lon", longitude)]

mutual

/-- The form in which a clause is sent. -/
def toValue : Clause → Value
  | .matchAll => single "match_all" (.object [])
  | .native query => .ofJson query
  | .term field value ignoreCase =>
      single "term" (single field
        (if ignoreCase then caseOption (.ofJson value) true else .ofJson value))
  | .terms field values => single "terms" (single field (.list (values.map .ofJson)))
  | .range field bound value => single "range" (single field (single bound.name (.ofJson value)))
  | .present field => single "exists" (single "field" (.str field))
  | .beginsWith field value ignoreCase =>
      single "prefix" (single field (caseOption (.str value) ignoreCase))
  | .wildcard field pattern ignoreCase =>
      single "wildcard" (single field (caseOption (.str pattern) ignoreCase))
  | .geoShape field shape relation =>
      single "geo_shape" (single field
        (.object [("shape", shape), ("relation", .str relation.name)]))
  | .geoBox field minX minY maxX maxY =>
      single "geo_bounding_box" (single field
        (.object [("top_left", corner maxY minX), ("bottom_right", corner minY maxX)]))
  | .mustNot clause => single "bool" (single "must_not" (.list [toValue clause]))
  | .must clauses => single "bool" (single "must" (.list (toValues clauses)))
  | .should clauses =>
      single "bool" (.object
        [("should", .list (toValues clauses)), ("minimum_should_match", .int 1)])

/-- The forms of several clauses. -/
def toValues : List Clause → List Value
  | [] => []
  | c :: rest => toValue c :: toValues rest

end

/-- The forms of several clauses are those of each. -/
@[simp] theorem toValues_eq_map (clauses : List Clause) : toValues clauses = clauses.map toValue := by
  induction clauses with
  | nil => rfl
  | cons c rest ih => simp [toValues, ih]

/-! ## Truth -/

mutual

/-- The truth of a clause on a document, given the truth of the leaves. -/
def holds (leaf : Clause → Bool) : Clause → Bool
  | .matchAll => true
  | .mustNot clause => !holds leaf clause
  | .must clauses => holdsAll leaf clauses
  | .should clauses => holdsAny leaf clauses
  | c => leaf c

/-- Whether all of several clauses hold. -/
def holdsAll (leaf : Clause → Bool) : List Clause → Bool
  | [] => true
  | c :: rest => holds leaf c && holdsAll leaf rest

/-- Whether one of several clauses holds. -/
def holdsAny (leaf : Clause → Bool) : List Clause → Bool
  | [] => false
  | c :: rest => holds leaf c || holdsAny leaf rest

end

/-- `holdsAll` is conjunction. -/
theorem holdsAll_eq_all (leaf : Clause → Bool) (clauses : List Clause) :
    holdsAll leaf clauses = clauses.all (holds leaf) := by
  induction clauses with
  | nil => rfl
  | cons c rest ih => simp [holdsAll, ih]

/-- `holdsAny` is disjunction. -/
theorem holdsAny_eq_any (leaf : Clause → Bool) (clauses : List Clause) :
    holdsAny leaf clauses = clauses.any (holds leaf) := by
  induction clauses with
  | nil => rfl
  | cons c rest ih => simp [holdsAny, ih]

/-! ## Composition -/

/-- Whether a clause asks for something: an empty object in the words of the index does not. -/
def isGiven : Clause → Bool
  | .native query => query.isGiven
  | _ => true

/-- A given base query and a given filter, both of which must hold; what is not given is left out, and
nothing at all matches everything. -/
def combine (base extra : Option Clause) : Clause :=
  match base.filter isGiven, extra.filter isGiven with
  | some b, some e => .must [b, e]
  | some b, none => b
  | none, some e => e
  | none, none => .matchAll

end Clause

end SearchTables
