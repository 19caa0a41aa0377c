import SearchTables.Value
import SearchTables.Error

/-! # Rectangles

A constant geometry that is a rectangle with sides along the axes can be asked for by its **bounding
box**. Envelopes are rectangles; a polygon is one when its only ring visits the four corners of a rectangle
in cyclic order and closes. What the coordinates are is not checked beforehand, so reading them may **lapse**:
a value of the wrong shape only means that the geometry is no rectangle, while a missing key or a number
out of range is an error. -/

namespace SearchTables

/-- Why a reading failed. -/
inductive Lapse where
  /-- The geometry is no rectangle. -/
  | unsuitable
  | failed (error : Error)

/-- The edges of a rectangle. -/
structure Box where
  minX : Value
  minY : Value
  maxX : Value
  maxY : Value
deriving Inhabited

namespace Box

/-- A reading that may lapse. -/
abbrev Reading (α : Type) := Except Lapse α

/-- The item of a value at a position. -/
def item (v : Value) (position : Nat) : Reading Value :=
  match v with
  | .list items =>
      match items[position]? with
      | some x => .ok x
      | none => .error .unsuitable
  | .str s =>
      match (Text.letters s)[position]? with
      | some letter => .ok (.str letter)
      | none => .error .unsuitable
  | .bytes bs =>
      match bs[position]? with
      | some b => .ok (.int b.toNat)
      | none => .error .unsuitable
  | .object _ => .error (.failed .unknownName)
  | .keyed entries =>
      match entries.find? fun (key, _) => key.sameScalar (.int position) with
      | some (_, value) => .ok value
      | none => .error (.failed .unknownName)
  | _ => .error .unsuitable

/-- What one sees when walking through a value: items, characters, or keys. -/
def walk : Value → Reading (List Value)
  | .list items => .ok items
  | .str s => .ok ((Text.letters s).map .str)
  | .object members => .ok (members.map fun (name, _) => .str name)
  | .keyed entries => .ok (entries.map (·.1))
  | .bytes bs => .ok (bs.map fun b => .int b.toNat)
  | _ => .error .unsuitable

/-- Whether a value is a signaling decimal. -/
def isSignaling : Value → Bool
  | .decimal d => d.isSignaling
  | _ => false

/-- Whether two numbers have no order because one is a decimal, and one is not a number. -/
def isUnordered (a b : Value) : Bool :=
  match a, b with
  | .decimal d, .float x | .float x, .decimal d => d.isUndefined || isNotANumber x
  | .decimal d, .decimal e => d.isUndefined || e.isUndefined
  | .decimal d, _ | _, .decimal d => d.isUndefined
  | _, _ => false

mutual

/-- Whether two values are equal. Comparing a signaling decimal with a number is an error. -/
def equal : Value → Value → Reading Bool
  | .list xs, .list ys => if xs.length = ys.length then equalItems xs ys else .ok false
  | a, b =>
      if (isSignaling a && b.number?.isSome) || (isSignaling b && a.number?.isSome) then
        .error (.failed .badDecimal)
      else .ok (a.same b)

/-- Lists are compared up to the first place where they differ. -/
def equalItems : List Value → List Value → Reading Bool
  | x :: xs, y :: ys =>
      match equal x y with
      | .ok true => equalItems xs ys
      | outcome => outcome
  | _, _ => .ok true

end

mutual

/-- Whether a value is smaller than another. Values of different kinds cannot be compared, and a decimal
that is not a number is an error. -/
def less : Value → Value → Reading Bool
  | .list xs, .list ys => lessItems xs ys
  | .str s, .str t => .ok (Text.precedes s t)
  | .timestamp t, .timestamp u =>
      -- a moment with an offset and one without cannot be compared
      if t.offset.isSome == u.offset.isSome then .ok (decide (t.instant < u.instant))
      else .error .unsuitable
  | .date d, .date e => .ok (decide (d.dayNumber < e.dayNumber))
  | .time t none, .time u none => .ok (decide (t.micros < u.micros))
  | .time t (some o), .time u (some p) => .ok (decide (t.micros - o < u.micros - p))
  | .bytes bs, .bytes cs => .ok (decide (bs.map UInt8.toNat < cs.map UInt8.toNat))
  | a, b =>
      match a.number?, b.number? with
      | some x, some y => if isUnordered a b then .error (.failed .badDecimal) else .ok (x.lt y)
      | _, _ => .error .unsuitable

/-- Lists are compared at the first place where they differ. -/
def lessItems : List Value → List Value → Reading Bool
  | [], [] => .ok false
  | [], _ :: _ => .ok true
  | _ :: _, [] => .ok false
  | x :: xs, y :: ys =>
      match equal x y with
      | .ok true => lessItems xs ys
      | .ok false => less x y
      | .error e => .error e

end

/-- The smaller of two values, the first one when neither is smaller. -/
def smaller (a b : Value) : Reading Value := do
  if ← less b a then pure b else pure a

/-- The larger of two values, the first one when neither is larger. -/
def larger (a b : Value) : Reading Value := do
  if ← less a b then pure b else pure a

/-- The number that a coordinate is given as. -/
def coordinate (v : Value) : Reading Float :=
  match v with
  | .bool b => .ok (if b then 1.0 else 0.0)
  | .int n =>
      match floatOfInt? n with
      | some x => .ok x
      | none => .error (.failed .outOfRange)
  | .float x => .ok x
  | .decimal d =>
      match d.toFloat? with
      | some x => .ok x
      | none => .error .unsuitable
  | .str s =>
      match readFloat? s with
      | some x => .ok x
      | none => .error .unsuitable
  | _ => .error .unsuitable

/-- The first two items of a value. -/
def pair (v : Value) : Reading (Value × Value) := do
  let x ← item v 0
  let y ← item v 1
  pure (x, y)

/-- The box of the corners of an envelope. At most one corner too many is looked at. -/
def ofCorners (corners : Value) : Reading Box := do
  let corners ← walk corners
  let corners ← (corners.take 3).mapM pair
  match corners with
  | [(x1, y1), (x2, y2)] => do
      let minX ← smaller x1 x2
      let minY ← smaller y1 y2
      let maxX ← larger x1 x2
      let maxY ← larger y1 y2
      pure ⟨minX, minY, maxX, maxY⟩
  | _ => .error .unsuitable

/-- The different numbers of a list, in the order in which they are first seen. -/
def distinct (xs : List Float) : List Float :=
  xs.foldl (fun seen x => if seen.any (· == x) then seen else seen ++ [x]) []

/-- Whether two points differ in both coordinates. -/
def oblique (a b : Value) : Reading Bool := do
  let leftX ← item a 0
  let rightX ← item b 0
  if ← equal leftX rightX then pure false
  else do
    let leftY ← item a 1
    let rightY ← item b 1
    let same ← equal leftY rightY
    pure !same

/-- Whether no side of a ring is oblique. -/
def alongAxes : List Value → Reading Bool
  | a :: b :: rest => do
      if ← oblique a b then pure false else alongAxes (b :: rest)
  | _ => .ok true

/-- The box of two different longitudes and two different latitudes. -/
def ofEdges? (xs ys : List Float) : Option Box :=
  match xs, ys with
  | [x1, x2], [y1, y2] =>
      some ⟨.float (if x2 < x1 then x2 else x1), .float (if y2 < y1 then y2 else y1),
        .float (if x1 < x2 then x2 else x1), .float (if y1 < y2 then y2 else y1)⟩
  | _, _ => none

/-- The box of a ring of five points. -/
def ofRing (points : List Value) : Reading Box := do
  let xs ← points.mapM fun p => item p 0 >>= coordinate
  let ys ← points.mapM fun p => item p 1 >>= coordinate
  match ofEdges? (distinct xs) (distinct ys) with
  | none => .error .unsuitable
  | some box => do
      let corners := (xs.zip ys).take 4
      let apart := corners.foldl
        (fun seen (x, y) => if seen.any (fun (u, v) => u == x && v == y) then seen else seen ++ [(x, y)])
        ([] : List (Float × Float))
      if apart.length ≠ 4 then .error .unsuitable
      else if ← alongAxes points then pure box
      else .error .unsuitable

/-- How many items a value has. -/
def size? : Value → Option Nat
  | .list items => some items.length
  | .str s => some (Text.size s)
  | .object members => some members.length
  | .keyed entries => some entries.length
  | .bytes bs => some bs.length
  | _ => none

/-- The last item of a value: the one before the start of a text or a list. -/
def lastItem (v : Value) : Reading Value :=
  match v with
  | .keyed entries =>
      match entries.find? fun (key, _) => key.sameScalar (.int (-1)) with
      | some (_, value) => .ok value
      | none => .error (.failed .unknownName)
  | v => item v ((size? v).getD 1 - 1)

/-- The box of the only ring of a polygon: five points, the last one equal to the first. -/
def ofPolygon (coordinates : Value) : Reading Box :=
  match coordinates with
  | .list [ring] =>
      if size? ring = some 5 then do
        let first ← item ring 0
        let last ← lastItem ring
        if ← equal first last then walk ring >>= ofRing else .error .unsuitable
      else .error .unsuitable
  | _ => .error .unsuitable

/-- The box of a geometry object, if it is a rectangle. -/
def ofGeometry? (geometry : Value) : Except Error (Option Box) :=
  let coordinates := (geometry.get? "coordinates").getD .null
  let reading : Reading Box :=
    match geometry.get? "type" with
    | some (.str "envelope") => ofCorners coordinates
    | some (.str "Polygon") => ofPolygon coordinates
    | _ => .error .unsuitable
  match reading with
  | .ok box => .ok (some box)
  | .error .unsuitable => .ok none
  | .error (.failed e) => .error e

end Box

end SearchTables
