import SearchTables.Json.Basic
import SearchTables.Decimal.Shortest
import SearchTables.Text.Quoted

/-! # JSON text

Printing JSON in the three layouts in use: spaced and ASCII for request bodies, tight and ASCII for
geometries, tight with every character kept for residual content. In every layout the quote, the backslash
and the controls below the space are escaped. -/

namespace SearchTables

/-- How JSON is laid out. -/
structure JsonLayout where
  itemSeparator : String
  nameSeparator : String
  /-- Whether every character outside the printable ASCII range is escaped. -/
  ascii : Bool

namespace JsonLayout

/-- Request bodies and cache keys. -/
def spaced : JsonLayout := ⟨", ", ": ", true⟩

/-- Geometries. -/
def tightAscii : JsonLayout := ⟨",", ":", true⟩

/-- Columns that hold JSON text. -/
def tight : JsonLayout := ⟨",", ":", false⟩

end JsonLayout

namespace Json

/-- One UTF-16 unit as an escape. -/
def escapeUnit (n : Nat) : List Char := '\\' :: 'u' :: Text.hexDigits 4 n

/-- A code point as escapes of its UTF-16 units. -/
def escapeCode (n : Nat) : List Char :=
  if n < 0x10000 then escapeUnit n
  else escapeUnit (0xd800 + (n - 0x10000) / 0x400) ++ escapeUnit (0xdc00 + (n - 0x10000) % 0x400)

/-- A code point inside a JSON string. -/
def stringCode (ascii : Bool) (n : Nat) : List Char :=
  let c := Char.ofNat n
  if c = '"' ∨ c = '\\' then ['\\', c]
  else if c = '\n' then ['\\', 'n']
  else if c = '\r' then ['\\', 'r']
  else if c = '\t' then ['\\', 't']
  else if c = '\x08' then ['\\', 'b']
  else if c = '\x0c' then ['\\', 'f']
  else if n < 0x20 ∨ (ascii ∧ 0x7f ≤ n) then escapeCode n
  else Text.written n

/-- A text as a JSON string. -/
def quote (ascii : Bool) (s : String) : String :=
  String.ofList ('"' :: (Text.codePoints s).flatMap (stringCode ascii) ++ ['"'])

/-- Texts with a separator between each two. -/
def joinWith (separator : String) (texts : List String) : String := separator.intercalate texts

mutual

/-- The text of a JSON value. -/
def render (layout : JsonLayout) : Json → String
  | .null => "null"
  | .bool b => if b then "true" else "false"
  | .int n => toString n
  | .float x => numberLayout.render x
  | .str s => quote layout.ascii s
  | .arr items => "[" ++ joinWith layout.itemSeparator (renderItems layout items) ++ "]"
  | .obj members =>
      "\x7b" ++ joinWith layout.itemSeparator (renderMembers layout members) ++ "\x7d"

/-- The texts of the items of an array. -/
def renderItems (layout : JsonLayout) : List Json → List String
  | [] => []
  | item :: rest => render layout item :: renderItems layout rest

/-- The texts of the members of an object. -/
def renderMembers (layout : JsonLayout) : List (String × Json) → List String
  | [] => []
  | (name, value) :: rest =>
      (quote layout.ascii name ++ layout.nameSeparator ++ render layout value) ::
        renderMembers layout rest

end

/-- Insert a member before the first one whose name is larger. -/
def insertSorted (name : String) (value : Json) : List (String × Json) → List (String × Json)
  | [] => [(name, value)]
  | (n, v) :: rest =>
      if Text.precedes name n then (name, value) :: (n, v) :: rest else (n, v) :: insertSorted name value rest

mutual

/-- The same value with the members of every object in the order of their names. -/
def sortNames : Json → Json
  | .arr items => .arr (sortNamesItems items)
  | .obj members => .obj (sortNamesMembers members)
  | j => j

/-- `sortNames` on the items of an array. -/
def sortNamesItems : List Json → List Json
  | [] => []
  | item :: rest => sortNames item :: sortNamesItems rest

/-- The members of an object in the order of their names, sorted inside. -/
def sortNamesMembers : List (String × Json) → List (String × Json)
  | [] => []
  | (name, value) :: rest => insertSorted name (sortNames value) (sortNamesMembers rest)

end

end Json

end SearchTables
