import SearchTables.Geometry.Wkt
import SearchTables.Json.Reader
import SearchTables.Value
import SearchTables.Error

/-! # Normal forms of geometries

Documents spell geometries in many ways. A **shape** is a GeoJSON object or well-known text; a **point**
may also be an object with latitude and longitude, a pair with the longitude first, or a text with the
latitude first. The normal form is a GeoJSON object whose type, and the type of every geometry inside it,
is spelled as `geometryTypes` says. -/

namespace SearchTables.Shape

/-- The spelling of a type; an unknown type stays as it is. -/
def canonicalType (type : String) : String :=
  (geometryTypes.lookup (Text.lowerAscii type)).getD type

mutual

/-- The normal form of a shape. Objects without a type and other kinds of values have none. -/
def decode : Value → Option Value
  | .object members =>
      match members.lookup "type" with
      | some (.str type) => some (.object (decodeMembers type members))
      | _ => none
  | .keyed entries =>
      match (Value.keyed entries).get? "type" with
      | some (.str type) => some (.keyed (decodeEntries type entries))
      | _ => none
  | .str s => (Wkt.read? s).map fun g => .ofJson g.toJson
  | _ => none

/-- The members of a normal form: the type is respelled, the geometries inside are normalised, and all
else stays. -/
def decodeMembers (type : String) : List (String × Value) → List (String × Value)
  | [] => []
  | (name, value) :: rest =>
      (name,
        if name = "type" then .str (canonicalType type)
        else if name = "geometries" then decodeInner value
        else value) :: decodeMembers type rest

/-- The entries of a normal form whose keys are not all texts. -/
def decodeEntries (type : String) : List (Value × Value) → List (Value × Value)
  | [] => []
  | (key, value) :: rest =>
      (key,
        if key.sameScalar (.str "type") then .str (canonicalType type)
        else if key.sameScalar (.str "geometries") then decodeInner value
        else value) :: decodeEntries type rest

/-- The normal form of the member that holds the geometries of a collection. -/
def decodeInner : Value → Value
  | .list items => .list (decodeItems items)
  | v => v

/-- The normal forms of those items that have one. -/
def decodeItems : List Value → List Value
  | [] => []
  | item :: rest =>
      match decode item with
      | some shape => shape :: decodeItems rest
      | none => decodeItems rest

end

/-- The number that a coordinate is given as. An integer past the largest double is out of range. -/
def coordinate? : Value → Except Error (Option Float)
  | .int n =>
      match floatOfInt? n with
      | some x => .ok (some x)
      | none => .error .outOfRange
  | .float x => .ok (some x)
  | .str s => .ok (readFloat? s)
  | _ => .ok none

/-- The normal form of a point. -/
def pointValue (longitude latitude : Float) : Value :=
  .ofJson (Geometry.point [longitude, latitude]).toJson

/-- The point of two optional numbers. -/
def pointOf (longitude latitude : Option Float) : Option Value :=
  match longitude, latitude with
  | some x, some y => some (pointValue x y)
  | _, _ => none

/-- The normal form of a point in a text: well-known text, or latitude and longitude with a comma. -/
def decodePointText (s : String) : Option Value :=
  let text := Text.trim s
  if Text.upperAscii (String.ofList (text.toList.take 5)) = "POINT" then
    (Wkt.read? text).map fun g => .ofJson g.toJson
  else
    match text.splitOn "," with
    | [latitude, longitude] => pointOf (readFloat? (Text.trim longitude)) (readFloat? (Text.trim latitude))
    | _ => none

/-- Whether a value has members at all. -/
def hasMembers : Value → Bool
  | .object _ | .keyed _ => true
  | _ => false

/-- The normal form of a point in any of its encodings. -/
def decodePoint (v : Value) : Except Error (Option Value) :=
  match v with
  | .list (first :: second :: _) => do
      let longitude ← coordinate? first
      let latitude ← coordinate? second
      pure (pointOf longitude latitude)
  | .str s => .ok (decodePointText s)
  | v =>
      if !hasMembers v then .ok none
      -- a geometry goes before a pair of coordinates
      else if (v.get? "type").isSome && (v.get? "coordinates").isSome then .ok (decode v)
      else do
        let latitude ← coordinate? ((v.get? "lat").getD .null)
        let longitude ← coordinate? ((v.get? "lon").getD .null)
        pure (pointOf longitude latitude)

/-! ## Constant geometries -/

/-- The normal form of a constant geometry: a GeoJSON object, GeoJSON text, or well-known text. -/
def ofConstant : Value → Option Value
  | .str s =>
      let text := Text.trim s
      if text.startsWith "\x7b" then
        (Json.read? text).bind fun j => decode (.ofJson j)
      else (Wkt.read? text).map fun g => .ofJson g.toJson
  | v => decode v

end SearchTables.Shape
