import SearchTables.Value
import SearchTables.Path
import SearchTables.Text.LikePattern

/-! # Predicates

What a filter asks of a row. A predicate is a tree of comparisons, memberships, patterns and spatial
relations under conjunction and disjunction. The field of a leaf is relative to its **context**: the path of
the column it belongs to and of the members it stands beneath. The empty field is the context itself. -/

namespace SearchTables

/-- A comparison operator. -/
inductive CompareOp where
  | eq | ne | lt | le | gt | ge
deriving DecidableEq, Repr, Inhabited

namespace CompareOp

/-- The operator that holds of the operands in the other order. -/
def flipped : CompareOp → CompareOp
  | .eq => .eq
  | .ne => .ne
  | .lt => .gt
  | .le => .ge
  | .gt => .lt
  | .ge => .le

/-- Mirroring twice gives the operator back. -/
@[simp] theorem flipped_flipped (op : CompareOp) : op.flipped.flipped = op := by
  cases op <;> rfl

/-- The sign of the operator. -/
def sign : CompareOp → String
  | .eq => "="
  | .ne => "!="
  | .lt => "<"
  | .le => "<="
  | .gt => ">"
  | .ge => ">="

end CompareOp

/-- How the parts of a compound predicate are joined. -/
inductive Junction where
  | all | any
deriving DecidableEq, Repr, Inhabited

/-- A spatial relation between a field and a geometry. -/
inductive SpatialRelation where
  | within | contains | intersects | disjoint
deriving DecidableEq, Repr, Inhabited

namespace SpatialRelation

/-- The relation seen from the other operand. -/
def swapped : SpatialRelation → SpatialRelation
  | .within => .contains
  | .contains => .within
  | .intersects => .intersects
  | .disjoint => .disjoint

/-- Swapping twice gives the relation back. -/
@[simp] theorem swapped_swapped (r : SpatialRelation) : r.swapped.swapped = r := by
  cases r <;> rfl

/-- The name of the relation. -/
def name : SpatialRelation → String
  | .within => "within"
  | .contains => "contains"
  | .intersects => "intersects"
  | .disjoint => "disjoint"

end SpatialRelation

/-- A condition on a row. -/
inductive Predicate where
  /-- A field compared with a constant. -/
  | compare (op : CompareOp) (field : String) (constant : Value)
  /-- Several conditions joined. -/
  | joined (junction : Junction) (parts : List Predicate)
  /-- A field equal to one of several constants. -/
  | among (field : String) (constants : List Value)
  | isNull (field : String)
  | notNull (field : String)
  /-- A field that matches a LIKE pattern. -/
  | like (field pattern : String) (ignoreCase : Bool) (escape : String)
  /-- A condition on the member of a struct. -/
  | member (field : String) (inner : Predicate)
  /-- A field in a spatial relation to a constant geometry; `fieldFirst` tells the order of the operands. -/
  | spatial (relation : SpatialRelation) (field : String) (geometry : Value) (fieldFirst : Bool)
  /-- Anything else, to be checked by the caller. -/
  | unknown (description : String)
deriving Inhabited

namespace Predicate

/-- A condition beneath every name of a path. -/
def beneath (path : String) (inner : Predicate) : Predicate :=
  (Path.segments path).foldr .member inner

/-- The field begins with a text. -/
def startsWith (field value : String) : Predicate :=
  .like field (Text.escapeLike value Text.defaultEscape ++ "%") false Text.defaultEscape

/-- The field ends with a text. -/
def endsWith (field value : String) : Predicate :=
  .like field ("%" ++ Text.escapeLike value Text.defaultEscape) false Text.defaultEscape

/-- The field contains a text. -/
def contains (field value : String) : Predicate :=
  .like field ("%" ++ Text.escapeLike value Text.defaultEscape ++ "%") false Text.defaultEscape

end Predicate

/-- The filters of a scan: conditions by column, or one condition on the whole row. -/
inductive Filters where
  | none
  | row (predicate : Predicate)
  | columns (filters : List (String × Predicate))
deriving Inhabited

end SearchTables
