import SearchTables.Json.Printer
import SearchTables.Calendar.Reader
import SearchTables.Decimal.Exact

/-! # Values

The constants of predicates and the cells of rows. Every JSON value is a value; beyond those there are
timestamps, dates, times, exact decimals, byte strings, and maps with keys that are not texts. -/

namespace SearchTables

/-- A constant or a cell. -/
inductive Value where
  | null
  | bool (value : Bool)
  | int (value : Int)
  | float (value : Float)
  | str (value : String)
  | list (items : List Value)
  | object (members : List (String × Value))
  | keyed (entries : List (Value × Value))
  | timestamp (value : DateTime)
  | date (value : Date)
  | time (value : TimeOfDay) (offset : Option Int)
  | decimal (value : DecimalConstant)
  | bytes (value : List UInt8)
deriving Inhabited

namespace Value

mutual

/-- A JSON value as a value. -/
def ofJson : Json → Value
  | .null => .null
  | .bool b => .bool b
  | .int n => .int n
  | .float x => .float x
  | .str s => .str s
  | .arr items => .list (ofJsonItems items)
  | .obj members => .object (ofJsonMembers members)

/-- The items of an array as values. -/
def ofJsonItems : List Json → List Value
  | [] => []
  | item :: rest => ofJson item :: ofJsonItems rest

/-- The members of an object as values. -/
def ofJsonMembers : List (String × Json) → List (String × Value)
  | [] => []
  | (name, value) :: rest => (name, ofJson value) :: ofJsonMembers rest

end

@[simp] theorem ofJsonItems_eq_map (items : List Json) : ofJsonItems items = items.map ofJson := by
  induction items with
  | nil => rfl
  | cons item rest ih => simp [ofJsonItems, ih]

@[simp] theorem ofJsonMembers_eq_map (members : List (String × Json)) :
    ofJsonMembers members = members.map fun (name, value) => (name, ofJson value) := by
  induction members with
  | nil => rfl
  | cons m rest ih => simp [ofJsonMembers, ih]

/-- The exact number that a value is; truth values count as zero and one. -/
def number? : Value → Option Extended
  | .bool b => some (.ofInt (if b then 1 else 0))
  | .int n => some (.ofInt n)
  | .float x => some (.ofFloat x)
  | .decimal d => some d.extended
  | _ => none

/-- Equality of scalars: numbers by value across their kinds, texts and times by content. Two timestamps
are equal at the same instant if both are zoned, or at the same reading if neither is. -/
def sameScalar (a b : Value) : Bool :=
  match a.number?, b.number? with
  | some x, some y => x.eq y
  | none, none =>
      match a, b with
      | .null, .null => true
      | .str s, .str t => s == t
      | .timestamp t, .timestamp u => t.offset.isSome == u.offset.isSome && t.instant == u.instant
      | .date d, .date e => d == e
      | .time t none, .time u none => t == u
      | .time t (some o), .time u (some p) => t.micros - o == u.micros - p
      | .bytes x, .bytes y => x == y
      | _, _ => false
  | _, _ => false

mutual

/-- Equality of values: lists item by item, objects by their members in any order. -/
def same : Value → Value → Bool
  | .list xs, .list ys => sameItems xs ys
  | .object xs, .object ys => xs.length == ys.length && sameMembers xs ys
  | .keyed xs, .keyed ys => xs.length == ys.length && sameEntries xs ys
  | a, b => sameScalar a b

/-- Equality of lists. -/
def sameItems : List Value → List Value → Bool
  | [], [] => true
  | x :: xs, y :: ys => same x y && sameItems xs ys
  | _, _ => false

/-- Whether every member has an equal member of the same name on the other side. -/
def sameMembers : List (String × Value) → List (String × Value) → Bool
  | [], _ => true
  | (name, x) :: xs, ys =>
      (match ys.lookup name with
        | some y => same x y
        | none => false) && sameMembers xs ys

/-- Whether every entry has an equal entry with an equal key on the other side. -/
def sameEntries : List (Value × Value) → List (Value × Value) → Bool
  | [], _ => true
  | (key, x) :: xs, ys =>
      (match ys.find? fun (k, _) => sameScalar key k with
        | some (_, y) => same x y
        | none => false) && sameEntries xs ys

end

/-- Whether a value is `null`. -/
def isNull : Value → Bool
  | .null => true
  | _ => false

/-- Whether a value may be a key of a map: collections may not. -/
def isKey : Value → Bool
  | .list _ | .object _ | .keyed _ => false
  | _ => true

/-- Put an entry into a map: an equal key that is there stays and takes the new value. -/
def insertEntry (key value : Value) : List (Value × Value) → List (Value × Value)
  | [] => [(key, value)]
  | (k, v) :: rest =>
      if sameScalar k key then (k, value) :: rest else (k, v) :: insertEntry key value rest

/-- The members of a map all of whose keys are texts. -/
def textMembers? : List (Value × Value) → Option (List (String × Value))
  | [] => some []
  | (.str name, value) :: rest => (textMembers? rest).map ((name, value) :: ·)
  | _ => none

/-- The map that a list of entries stands for, if every key may be one: an object when all keys are
texts. -/
def ofEntries? (entries : List (Value × Value)) : Option Value :=
  if entries.all fun (key, _) => key.isKey then
    let entries := entries.foldl (fun found (key, value) => insertEntry key value found) []
    match textMembers? entries with
    | some members => some (.object members)
    | none => some (.keyed entries)
  else none

/-- The member of an object or of a map with other keys. -/
def get? (v : Value) (name : String) : Option Value :=
  match v with
  | .object members => members.lookup name
  | .keyed entries => (entries.find? fun (key, _) => sameScalar key (.str name)).map (·.2)
  | _ => none

/-! ## Values as JSON -/

/-- The name under which an entry is sent, for the keys that have one. -/
def keyName? : Value → Option String
  | .str s => some s
  | .int n => some (toString n)
  | .bool b => some (if b then "true" else "false")
  | .float x => some (numberLayout.render x)
  | .null => some "null"
  | _ => none

mutual

/-- The JSON value that a value is sent as; times, decimals and byte strings cannot be sent. -/
def toJson? : Value → Option Json
  | .null => some .null
  | .bool b => some (.bool b)
  | .int n => some (.int n)
  | .float x => some (.float x)
  | .str s => some (.str s)
  | .list items => (toJsonItems? items).map .arr
  | .object members => (toJsonMembers? members).map .obj
  | .keyed entries => (toJsonEntries? entries).map .obj
  | _ => none

/-- `toJson?` on the items of a list. -/
def toJsonItems? : List Value → Option (List Json)
  | [] => some []
  | item :: rest =>
      match toJson? item, toJsonItems? rest with
      | some j, some js => some (j :: js)
      | _, _ => none

/-- `toJson?` on the members of an object. -/
def toJsonMembers? : List (String × Value) → Option (List (String × Json))
  | [] => some []
  | (name, value) :: rest =>
      match toJson? value, toJsonMembers? rest with
      | some j, some js => some ((name, j) :: js)
      | _, _ => none

/-- `toJson?` on the entries of a map, whose keys become names. -/
def toJsonEntries? : List (Value × Value) → Option (List (String × Json))
  | [] => some []
  | (key, value) :: rest =>
      match keyName? key, toJson? value, toJsonEntries? rest with
      | some name, some j, some js => some ((name, j) :: js)
      | _, _, _ => none

end

end Value

end SearchTables
