import SearchTables.Geometry.Basic
import SearchTables.Geometry.WktToken

/-! # Reading well-known text

A geometry is a keyword in any letter case, an optional dimension mark, and either `EMPTY` or a body in
parentheses. Every reading function takes the tokens that are left and returns those that it leaves. -/

namespace SearchTables.Wkt

/-- The tokens that are left. -/
abbrev Tokens := List WktToken

/-- Take a given sign. -/
def expectSign (sign : Char) : Tokens → Except WktFault (Tokens)
  | [] => .error .atEnd
  | .sign c :: rest =>
      if c = sign then .ok rest
      else .error (.expectedSign (String.singleton sign) (String.singleton c))
  | token :: _ => .error (.expectedSign (String.singleton sign) token.text)

/-- Take a number. -/
def number : Tokens → Except WktFault (Float × Tokens)
  | [] => .error .atEnd
  | .number _ value :: rest => .ok (value, rest)
  | token :: _ => .error (.expectedNumber token.text)

/-- Take as many numbers as there are. -/
def numbers : Tokens → List Float × Tokens
  | .number _ value :: rest => let (values, rest) := numbers rest; (value :: values, rest)
  | tokens => ([], tokens)

/-- Take a coordinate: two numbers or more. -/
def coordinate (tokens : Tokens) : Except WktFault (Coordinate × Tokens) := do
  let (x, tokens) ← number tokens
  let (y, tokens) ← number tokens
  let (more, tokens) := numbers tokens
  pure (x :: y :: more, tokens)

/-- Take the items of a list after its first one, up to the closing parenthesis. -/
def moreItems {α : Type} (item : Tokens → Except WktFault (α × Tokens)) :
    Nat → Tokens → Except WktFault (List α × Tokens)
  | 0, _ => .error .atEnd
  | steps + 1, tokens =>
      match tokens with
      | .sign ',' :: tokens => do
          let (x, tokens) ← item tokens
          let (xs, tokens) ← moreItems item steps tokens
          pure (x :: xs, tokens)
      | tokens => do
          let tokens ← expectSign ')' tokens
          pure ([], tokens)

/-- Take a list of one item or more in parentheses. -/
def listOf {α : Type} (item : Tokens → Except WktFault (α × Tokens)) (tokens : Tokens) :
    Except WktFault (List α × Tokens) := do
  let tokens ← expectSign '(' tokens
  let (x, tokens) ← item tokens
  let (xs, tokens) ← moreItems item (tokens.length + 1) tokens
  pure (x :: xs, tokens)

/-- Take a list of coordinates. -/
def line : Tokens → Except WktFault (List Coordinate × Tokens) := listOf coordinate

/-- Take a list of lines. -/
def lines : Tokens → Except WktFault (List (List Coordinate) × Tokens) := listOf line

/-- Take a coordinate with or without parentheses around it. -/
def pointMember : Tokens → Except WktFault (Coordinate × Tokens)
  | .sign '(' :: tokens => do
      let (c, tokens) ← coordinate tokens
      let tokens ← expectSign ')' tokens
      pure (c, tokens)
  | tokens => coordinate tokens

/-- Take the body of a point. -/
def pointBody (tokens : Tokens) : Except WktFault (Coordinate × Tokens) := do
  let tokens ← expectSign '(' tokens
  let (c, tokens) ← coordinate tokens
  let tokens ← expectSign ')' tokens
  pure (c, tokens)

/-- Take the body of an envelope: least and greatest longitude, greatest and least latitude. -/
def envelopeBody (tokens : Tokens) : Except WktFault (Geometry × Tokens) := do
  let tokens ← expectSign '(' tokens
  let (minX, tokens) ← number tokens
  let tokens ← expectSign ',' tokens
  let (maxX, tokens) ← number tokens
  let tokens ← expectSign ',' tokens
  let (maxY, tokens) ← number tokens
  let tokens ← expectSign ',' tokens
  let (minY, tokens) ← number tokens
  let tokens ← expectSign ')' tokens
  pure (.envelope minX maxX maxY minY, tokens)

/-- The empty geometry of a keyword in upper case. -/
def emptyGeometry (name : String) : Except WktFault Geometry :=
  if name = "POINT" then .ok (.point [])
  else if name = "LINESTRING" then .ok (.lineString [])
  else if name = "POLYGON" then .ok (.polygon [])
  else if name = "MULTIPOINT" then .ok (.multiPoint [])
  else if name = "MULTILINESTRING" then .ok (.multiLineString [])
  else if name = "MULTIPOLYGON" then .ok (.multiPolygon [])
  else if name = "GEOMETRYCOLLECTION" then .ok (.collection [])
  else .error (.unsupportedType name)

/-- The dimension marks, which say nothing that the coordinates do not. -/
def dimensionMarks : List String := ["Z", "M", "ZM"]

/-- Drop a dimension mark. -/
def skipDimension : Tokens → Tokens
  | .word w :: rest => if dimensionMarks.contains (Text.upperAscii w) then rest else .word w :: rest
  | tokens => tokens

/-- Drop the word for emptiness, if it comes next. -/
def takeEmpty? : Tokens → Option (Tokens)
  | .word w :: rest => if Text.upperAscii w = "EMPTY" then some rest else none
  | _ => none

/-- Take the body that follows a keyword. The members of a collection are taken by a given function. -/
def body (member : Tokens → Except WktFault (Geometry × Tokens)) (word : String)
    (tokens : Tokens) : Except WktFault (Geometry × Tokens) :=
  let name := Text.upperAscii word
  if name = "POINT" then do
    let (c, tokens) ← pointBody tokens
    pure (.point c, tokens)
  else if name = "LINESTRING" then do
    let (cs, tokens) ← line tokens
    pure (.lineString cs, tokens)
  else if name = "POLYGON" then do
    let (rings, tokens) ← lines tokens
    pure (.polygon rings, tokens)
  else if name = "MULTIPOINT" then do
    let (points, tokens) ← listOf pointMember tokens
    pure (.multiPoint points, tokens)
  else if name = "MULTILINESTRING" then do
    let (ls, tokens) ← lines tokens
    pure (.multiLineString ls, tokens)
  else if name = "MULTIPOLYGON" then do
    let (polygons, tokens) ← listOf lines tokens
    pure (.multiPolygon polygons, tokens)
  else if name = "GEOMETRYCOLLECTION" then do
    let (members, tokens) ← listOf member tokens
    pure (.collection members, tokens)
  else if name = "BBOX" ∨ name = "ENVELOPE" then envelopeBody tokens
  else .error (.unsupportedType word)

/-- Take a geometry that nests at most a given number of levels. -/
def geometry : Nat → Tokens → Except WktFault (Geometry × Tokens)
  | 0, _ => .error .atEnd
  | _ + 1, [] => .error .atEnd
  | levels + 1, .word word :: tokens =>
      let tokens := skipDimension tokens
      match takeEmpty? tokens with
      | some tokens => (emptyGeometry (Text.upperAscii word)).map (·, tokens)
      | none => body (geometry levels) word tokens
  | _ + 1, token :: _ => .error (.expectedKeyword token.text)

/-- Read a whole text. Every level of nesting takes a token, so there are no more levels than tokens. -/
def read (s : String) : Except WktFault Geometry := do
  let ts ← tokens s
  let (g, rest) ← geometry (ts.length + 1) ts
  if rest.isEmpty then pure g else .error .trailing

/-- Read a whole text, or nothing when it is not well-known text. -/
def read? (s : String) : Option Geometry := (read s).toOption

end SearchTables.Wkt
