import SearchTables.Expression.Reader
import SearchTables.Expression.Escape
import SearchTables.Filter.Translator
import SearchTables.Error

/-! # From expressions to predicates

An expression is read as a predicate as far as predicates go: fields compared with constants, memberships,
patterns and spatial relations under `&&` and `||`. Everything else becomes an unknown predicate that says
what it was. The **depth** of a place in an expression is the number of grammar levels above it; past the
limit the expression is refused. -/

namespace SearchTables

namespace Value

mutual

/-- Whether a constant can be written out: no whole number in it has too many digits. -/
def isWritable : Value → Bool
  | .int n => decide (n.natAbs < Nat.pow 10 maxDecimalDigits)
  | .list items => areWritable items
  | .object members => areWritableMembers members
  | .keyed entries => areWritableEntries entries
  | _ => true

/-- Whether several constants can be written out. -/
def areWritable : List Value → Bool
  | [] => true
  | v :: rest => isWritable v && areWritable rest

/-- Whether the members of an object can be written out. -/
def areWritableMembers : List (String × Value) → Bool
  | [] => true
  | (_, v) :: rest => isWritable v && areWritableMembers rest

/-- Whether the entries of a map can be written out. -/
def areWritableEntries : List (Value × Value) → Bool
  | [] => true
  | (key, v) :: rest => isWritable key && isWritable v && areWritableEntries rest

end

end Value

/-- What an expression means to the builder: the path of a field, a constant, or a predicate. -/
inductive Reading where
  | field (path : String)
  | constant (value : Value)
  | predicate (predicate : Predicate)
deriving Inhabited

namespace Reading

/-- Something that is neither a field nor a constant. -/
def unknown (description : String) : Reading := .predicate (.unknown description)

/-- A test on the field at the end of a path, beneath the members on the way. -/
def leaf (path : String) (make : String → Predicate) : Predicate :=
  match (Path.segments path).getLast? with
  | none => make path
  | some last =>
      match (Path.segments path).dropLast with
      | [] => make path
      | parents => parents.foldr .member (make last)

/-- A test on a field as a reading. -/
def test (path : String) (make : String → Predicate) : Reading := .predicate (leaf path make)

/-- A reading as a predicate: a field alone must be true, and a constant is no predicate. -/
def toPredicate : Reading → Predicate
  | .field path => leaf path fun f => .compare .eq f (.bool true)
  | .constant _ => .unknown "non-boolean expression"
  | .predicate p => p

/-- A reading as a condition. A constant that is none is written out to say so. -/
def condition (r : Reading) : Except Error Predicate :=
  match r with
  | .constant v => if v.isWritable then .ok r.toPredicate else .error .refusedValue
  | _ => .ok r.toPredicate

/-- The constants of readings that are all constants. -/
def constants? : List Reading → Option (List Value)
  | [] => some []
  | .constant v :: rest => (constants? rest).map (v :: ·)
  | _ => none

end Reading

/-! ## Constants -/

/-- The value of a whole number. A decimal number has no zeros before its first digit. -/
def Literal.wholeValue (negative hexadecimal : Bool) (digits : List Nat) : Except Error Int :=
  if !hexadecimal && (digits.head? = some 0 && digits.any (· ≠ 0) || maxDecimalDigits < digits.length) then
    .error .refusedValue
  else .ok (Expression.intOf negative hexadecimal digits)

/-- The reading of a literal. -/
def Literal.reading : Literal → Except Error Reading
  | .null => .ok (.constant .null)
  | .bool b => .ok (.constant (.bool b))
  | .int negative hexadecimal digits | .uint negative hexadecimal digits =>
      (wholeValue negative hexadecimal digits).map fun n => .constant (.int n)
  | .double x => .ok (.constant (.float x))
  | .text raw body =>
      .ok (.constant (.str (String.ofList (if raw then body else Expression.unescape body))))
  | .bytes _ _ => .ok (.unknown "literal BYTES_LIT")

/-- The constant with the sign changed; truth values count as zero and one. -/
def Reading.negated : Reading → Reading
  | .constant (.int n) => .constant (.int (-n))
  | .constant (.float x) => .constant (.float (-x))
  | .constant (.bool b) => .constant (.int (if b then -1 else 0))
  | _ => .unknown "unary expression"

/-! ## Comparisons -/

/-- The grammar's name of a comparison. -/
def Relation.ruleName : Relation → String
  | .lt => "relation_lt"
  | .le => "relation_le"
  | .ge => "relation_ge"
  | .gt => "relation_gt"
  | .eq => "relation_eq"
  | .ne => "relation_ne"
  | .isIn => "relation_in"

/-- The operator of a comparison; membership has none. -/
def Relation.compareOp? : Relation → Option CompareOp
  | .lt => some .lt
  | .le => some .le
  | .ge => some .ge
  | .gt => some .gt
  | .eq => some .eq
  | .ne => some .ne
  | .isIn => none

/-- A field compared with a constant. `null` is not compared: a field is null or not. -/
def Reading.comparison (op : CompareOp) (path : String) (constant : Value) : Reading :=
  match constant, op with
  | .null, .eq => test path .isNull
  | .null, .ne => test path .notNull
  | .null, _ => unknown "ordered comparison with null"
  | value, op => test path fun f => .compare op f value

/-- The reading of a comparison. A constant may stand on either side of its field. -/
def Relation.reading (relation : Relation) (left right : Reading) : Reading :=
  match relation.compareOp? with
  | none =>
      match left, right with
      | .field path, .constant (.list values) => .test path fun f => .among f values
      | _, _ => .unknown "in"
  | some op =>
      match left, right with
      | .field path, .constant value => .comparison op path value
      | .constant value, .field path => .comparison op.flipped path value
      | _, _ => .unknown ("comparison " ++ relation.ruleName)

/-! ## Boolean operators -/

/-- The parts of a predicate under a junction: those of a compound predicate of the same kind, or the
predicate alone. -/
def Predicate.partsUnder (junction : Junction) : Predicate → List Predicate
  | .joined j parts => if j = junction then parts else [.joined j parts]
  | p => [p]

/-- Two predicates joined, without compound predicates of the same kind inside. -/
def Predicate.join (junction : Junction) (left right : Predicate) : Predicate :=
  .joined junction (left.partsUnder junction ++ right.partsUnder junction)

/-! ## Calls -/

/-- The spatial relation that a function tests. -/
def spatialFunctions : List (String × SpatialRelation) := [
  ("geo_within", .within), ("geo_contains", .contains), ("geo_intersects", .intersects),
  ("geo_disjoint", .disjoint)]

/-- The functions that match a LIKE pattern, and whether they ignore case. -/
def likeFunctions : List (String × Bool) := [("like", false), ("ilike", true)]

/-- The predicate of a method that tests a text. -/
def patternMethods : List (String × (String → String → Predicate)) := [
  ("startsWith", .startsWith), ("endsWith", .endsWith), ("contains", .contains)]

/-- The reading of a method call on an object. -/
def Reading.methodCall (object : Reading) (name : String) (arguments : List Reading) : Reading :=
  match patternMethods.lookup name, object, arguments with
  | some make, .field path, [.constant (.str text)] => .test path fun f => make f text
  | _, _, _ => .unknown ("method " ++ name)

/-- The reading of a spatial function. Its operands are a field and a constant in either order. -/
def Reading.spatialCall (relation : SpatialRelation) (first second : Reading) : Option Reading :=
  match first, second with
  | .field path, .constant g => some (.test path fun f => .spatial relation f g true)
  | .constant g, .field path => some (.test path fun f => .spatial relation f g false)
  | _, _ => none

/-- The reading of a function call. -/
def Reading.functionCall (name : String) (arguments : List Reading) : Except Error Reading :=
  let other : Reading := .unknown ("function " ++ name)
  match arguments with
  | [.field path] => .ok (if name = "has" then .test path .notNull else other)
  | [.constant (.str text)] =>
      if name = "timestamp" then
        match Calendar.readDateTime? text with
        | some t => .ok (.constant (.timestamp t))
        | none => .error .badTimestamp
      else .ok other
  | [first, second] =>
      match likeFunctions.lookup name, first, second with
      | some ignoreCase, .field path, .constant (.str pattern) =>
          .ok (.test path fun f => .like f pattern ignoreCase Text.defaultEscape)
      | _, _, _ =>
          match spatialFunctions.lookup name with
          | some relation => .ok ((spatialCall relation first second).getD other)
          | none => .ok other
  | _ => .ok other

/-! ## The builder -/

namespace Expression

/-- The depth at which an expression is read when it stands where the grammar allows a given rank: one
more for every level down to its own rank. -/
def depthAt (depth : Int) (start : Nat) (e : Expression) : Int :=
  depth + (e.rank - start : Nat) + 1

/-- Refuse a depth past the limit. The first level too many is reported. -/
def checkDepth (limit outer depth : Int) : Except Error Unit :=
  if limit < depth then .error (.expressionTooDeep (max (outer + 1) (limit + 1)) limit) else .ok ()

/-- The path of a field, if it may be one. -/
def fieldReading (path : String) : Except Error Reading :=
  match Path.fault? path with
  | some fault => .error (.badPath fault)
  | none => .ok (.field path)

mutual

/-- Read an expression that stands where the grammar allows rank `start`, below a given depth. -/
def reading (limit : Int) (outer : Int) (start : Nat) (e : Expression) : Except Error Reading :=
  let depth := depthAt outer start e
  match e with
  | .literal value => do
      checkDepth limit outer depth
      value.reading
  | .ident name => do
      checkDepth limit outer depth
      fieldReading name
  | .rootIdent name => do
      -- the name after the dot is a level of its own
      checkDepth limit outer (depth + 1)
      pure (.unknown name)
  | .call name arguments => do
      checkDepth limit outer depth
      let arguments ← readings limit depth arguments
      Reading.functionCall name arguments
  | .rootCall name [] => do
      checkDepth limit outer (depth + 1)
      pure (.unknown name)
  | .rootCall _ (_ :: _) => do
      checkDepth limit outer depth
      pure (.unknown "dot_ident_arg")
  | .group inner => do
      checkDepth limit outer depth
      reading limit depth topRank inner
  | .list items => do
      checkDepth limit outer depth
      let items ← readings limit depth items
      match Reading.constants? items with
      | some values => pure (.constant (.list values))
      | none => pure (.unknown "non-constant list")
  | .map entries => do
      checkDepth limit outer depth
      let entries ← entryReadings limit depth entries
      match Reading.constants? (entries.map (·.1)), Reading.constants? (entries.map (·.2)) with
      | some keys, some values =>
          match Value.ofEntries? (keys.zip values) with
          | some value => pure (.constant value)
          | none => .error .refusedType
      | _, _ => pure (.unknown "non-constant map")
  | .member object name => do
      checkDepth limit outer depth
      match ← reading limit depth memberRank object with
      | .field path => fieldReading (path ++ "." ++ name)
      | _ => pure (.unknown "member access")
  | .method object name arguments => do
      checkDepth limit outer depth
      let object ← reading limit depth memberRank object
      let arguments ← readings limit depth arguments
      pure (object.methodCall name arguments)
  | .index _ _ => do
      checkDepth limit outer depth
      pure (.unknown "member_index")
  | .message type [] => do
      checkDepth limit outer depth
      reading limit depth memberRank type
  | .message _ (_ :: _) => do
      checkDepth limit outer depth
      pure (.unknown "member_object")
  | .not _ => do
      checkDepth limit outer depth
      pure (.unknown "unary expression")
  | .neg operand => do
      checkDepth limit outer depth
      let operand ← reading limit depth unaryRank operand
      pure operand.negated
  | .arithmetic operator _ _ => do
      checkDepth limit outer depth
      pure (.unknown (if operator.rank = sumRank then "addition" else "multiplication"))
  | .relation sign left right => do
      checkDepth limit outer depth
      let left ← reading limit depth relationRank left
      let right ← reading limit depth sumRank right
      pure (sign.reading left right)
  | .and left right => do
      checkDepth limit outer depth
      let left ← reading limit depth andRank left
      -- the left side must be a condition before the right one is read
      let left ← left.condition
      let right ← reading limit depth relationRank right
      let right ← right.condition
      pure (.predicate (left.join .all right))
  | .or left right => do
      checkDepth limit outer depth
      let left ← reading limit depth orRank left
      let left ← left.condition
      let right ← reading limit depth andRank right
      let right ← right.condition
      pure (.predicate (left.join .any right))
  | .conditional _ _ _ => do
      checkDepth limit outer depth
      pure (.unknown "conditional expression")

/-- Read several whole expressions below a depth. -/
def readings (limit : Int) (outer : Int) : List Expression → Except Error (List Reading)
  | [] => .ok []
  | e :: rest => do
      let r ← reading limit outer topRank e
      let rs ← readings limit outer rest
      pure (r :: rs)

/-- Read the entries of a map below a depth. -/
def entryReadings (limit : Int) (outer : Int) :
    List (Expression × Expression) → Except Error (List (Reading × Reading))
  | [] => .ok []
  | (key, value) :: rest => do
      let k ← reading limit outer topRank key
      let v ← reading limit outer topRank value
      let rs ← entryReadings limit outer rest
      pure ((k, v) :: rs)

end

/-- The predicate that an expression means. -/
def toPredicate (e : Expression) (limit : Int) : Except Error Predicate := do
  let r ← reading limit 0 topRank e
  r.condition

end Expression

/-- Read the text of a filter as a predicate. -/
def parseFilter (text : String) (maxDepth : Int) : Except Error Predicate :=
  match Expression.read? text with
  | none => .error .filterNotExpression
  | some e => e.toPredicate maxDepth

end SearchTables
