import SearchTables.Json.Basic

/-! # Geometries

A geometry that was written as well-known text, and its GeoJSON form. A **coordinate** is a list of
numbers, longitude first; it is empty only in an empty point. -/

namespace SearchTables

/-- The numbers of one coordinate. -/
abbrev Coordinate := List Float

/-- A geometry. -/
inductive Geometry where
  | point (coordinate : Coordinate)
  | lineString (line : List Coordinate)
  | polygon (rings : List (List Coordinate))
  | multiPoint (points : List Coordinate)
  | multiLineString (lines : List (List Coordinate))
  | multiPolygon (polygons : List (List (List Coordinate)))
  | collection (members : List Geometry)
  | envelope (minX maxX maxY minY : Float)
deriving Inhabited

namespace Geometry

/-- A coordinate as a JSON array. -/
def coordinateJson (c : Coordinate) : Json := .arr (c.map .float)

/-- A list of coordinates as a JSON array. -/
def lineJson (line : List Coordinate) : Json := .arr (line.map coordinateJson)

/-- A list of lines as a JSON array. -/
def linesJson (lines : List (List Coordinate)) : Json := .arr (lines.map lineJson)

/-- An object with a type and one more member. -/
def tagged (type member : String) (value : Json) : Json := .obj [("type", .str type), (member, value)]

mutual

/-- The GeoJSON form. An envelope is given by its upper left and its lower right corner. -/
def toJson : Geometry → Json
  | .point c => tagged "Point" "coordinates" (coordinateJson c)
  | .lineString line => tagged "LineString" "coordinates" (lineJson line)
  | .polygon rings => tagged "Polygon" "coordinates" (linesJson rings)
  | .multiPoint points => tagged "MultiPoint" "coordinates" (lineJson points)
  | .multiLineString lines => tagged "MultiLineString" "coordinates" (linesJson lines)
  | .multiPolygon polygons =>
      tagged "MultiPolygon" "coordinates" (.arr (polygons.map linesJson))
  | .collection members => tagged "GeometryCollection" "geometries" (.arr (toJsonAll members))
  | .envelope minX maxX maxY minY =>
      tagged "envelope" "coordinates" (lineJson [[minX, maxY], [maxX, minY]])

/-- The GeoJSON forms of several geometries. -/
def toJsonAll : List Geometry → List Json
  | [] => []
  | g :: rest => toJson g :: toJsonAll rest

end

end Geometry

/-- The spelling of each geometry type, by its name in lower case. -/
def geometryTypes : List (String × String) := [
  ("point", "Point"), ("linestring", "LineString"), ("polygon", "Polygon"),
  ("multipoint", "MultiPoint"), ("multilinestring", "MultiLineString"),
  ("multipolygon", "MultiPolygon"), ("geometrycollection", "GeometryCollection"),
  ("envelope", "envelope")]

end SearchTables
