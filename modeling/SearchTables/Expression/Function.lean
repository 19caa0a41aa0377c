import SearchTables.Expression.Comparison
import SearchTables.Expression.Arithmetic
import SearchTables.Expression.ClockField
import SearchTables.Regex.Reader
import SearchTables.Text.LikePattern

/-! # Logic, parts and functions of data

A function may be called by its name or as a method of its first argument. Where there is no function of that
name, or not for these arguments, a call has no value; and only a number out of every range is at fault. -/

namespace SearchTables.Datum

/-! ## Logic -/

/-- The opposite of a truth value. -/
def not? : Datum → Option Datum
  | .bool b => some (.bool !b)
  | _ => none

/-- Conjunction: `false` settles the matter, whatever the other side is; `true` leaves it to the other side;
and two sides that are no truth values have no conjunction. -/
def and? : Option Datum → Option Datum → Option Datum
  | some (.bool a), v => if a then v else some (.bool false)
  | v, some (.bool b) => if b then v else some (.bool false)
  | _, _ => none

/-- Disjunction, in the same way. -/
def or? : Option Datum → Option Datum → Option Datum
  | some (.bool a), v => if a then some (.bool true) else v
  | v, some (.bool b) => if b then some (.bool true) else v
  | _, _ => none

/-! ## Parts -/

/-- The item of a list at a position; negative positions count from the end. -/
def itemAt? {α : Type} (items : List α) (position : Int) : Option α :=
  if 0 ≤ position then items[position.toNat]?
  else if -position ≤ items.length then items[(items.length + position).toNat]?
  else none

/-- The part of a collection at an index: an item, letter or byte at a whole number, a value under a key. A
name beneath another one is found as its place only. -/
def index? (d position : Datum) : Option Datum :=
  match d with
  | .list _ items => position.whole?.bind (itemAt? items ·)
  | .text _ s => position.whole?.bind fun n => (itemAt? (Text.letters s) n).map (.text .derived)
  | .bytes _ bs => position.whole?.bind fun n => (itemAt? bs n).map fun (b : Nat) => .int .derived b
  | .map entries => if position.isKey then valueAt? position entries else none
  | .names entries =>
      match position with
      | .text _ name => (entries.lookup name).map fun _ => .symbol ("place of " ++ name)
      | _ => none
  | _ => none

/-- The member of a map, or the name beneath a name. -/
def memberNamed? (d : Datum) (name : String) : Option Datum :=
  match d with
  | .map entries => valueAt? (.text .given name) entries
  | .names entries => entries.lookup name
  | _ => none

/-! ## Functions of collections and texts -/

/-- The number of characters, bytes, items or entries; `null` has none. -/
def size? : Datum → Option Datum
  | .null => some (.int .given 0)
  | d => d.elements?.map fun elements => .int .given elements.length

/-- Whether an item occurs in a list. A comparison that fails spoils the search. -/
def occurs? (item : Datum) : List Datum → Option Bool
  | [] => some false
  | c :: rest =>
      match equal? c item with
      | some true => some true
      | some false => occurs? item rest
      | none => none

/-- Whether a run of items occurs in another one. -/
def hasPart (part : List Nat) : List Nat → Bool
  | [] => part.isEmpty
  | c :: rest => part.isPrefixOf (c :: rest) || hasPart part rest

/-- Whether a given text or byte string has a part, a given list an item, or a map a key. -/
def contains? : Datum → Datum → Option Bool
  | .text .given s, .text _ part => some (hasPart (Text.codePoints part) (Text.codePoints s))
  | .bytes .given bs, .bytes _ part => some (hasPart part bs)
  | .bytes .given bs, item => item.byte?.map bs.contains
  | .list .given items, item => occurs? item items
  | .map entries, key => if key.hasPlace then (findKey? key entries).map Option.isSome else none
  | _, _ => none

/-- Whether a text or byte string starts (or ends) with another one. -/
def bounds? (test : List Nat → List Nat → Bool) : Datum → Datum → Option Bool
  | .text _ s, .text _ part => some (test (Text.codePoints part) (Text.codePoints s))
  | .bytes _ bs, .bytes _ part => some (test part bs)
  | _, _ => none

/-- Whether a pattern occurs in a text. Texts that have no bytes take no part. -/
def matchesPattern? : Datum → Datum → Option Bool
  | .text _ s, .text _ pattern =>
      match Text.utf8? s, Text.characters? pattern with
      | some bs, some cs => (Regex.read? cs).map fun r => r.occursIn bs
      | _, _ => none
  | _, _ => none

/-- Whether a text matches a LIKE pattern; anything else does not. -/
def like (ignoreCase : Bool) : Datum → Datum → Bool
  | .text _ value, .text _ pattern => Text.like pattern Text.defaultEscape ignoreCase value
  | _, _ => false

/-- The functions of two data. -/
def pairFunctions : List (String × (Datum → Datum → Option Bool)) := [
  ("contains", contains?), ("startsWith", bounds? List.isPrefixOf), ("endsWith", bounds? List.isSuffixOf),
  ("matches", matchesPattern?), ("like", fun a b => some (like false a b)),
  ("ilike", fun a b => some (like true a b))]

/-! ## Conversions by name -/

/-- Convert to a map: a map, or pairs of a key and a value with every key once. -/
def mapOfPairs? : List (Datum × Datum) → List Datum → Option Datum
  | found, [] => some (.map found)
  | found, pair :: rest =>
      match pair.elements? with
      | some [key, value] =>
          if key.hasPlace ∧ (findKey? key found) matches some none then
            mapOfPairs? (found ++ [(key, value)]) rest
          else none
      | _ => none

/-- Convert to a map. -/
def toMap? : Datum → Option Datum
  | .null => some (.map [])
  | .map entries => some (.map entries)
  | .names entries => some (.map (entries.map fun (name, d) => (.text .derived name, d)))
  | .list _ items => mapOfPairs? [] items
  | .text _ "" | .bytes _ [] => some (.map [])
  | _ => none

/-- The conversions that ignore further arguments. -/
def looseConversions : List (String × (Datum → Except Error (Option Datum))) := [
  ("int", toInt), ("uint", toUint), ("string", fun d => .ok d.toText?), ("bytes", fun d => .ok d.toBytes?)]

/-- The conversions of one argument only. -/
def strictConversions : List (String × (Datum → Option Datum)) := [
  ("bool", toBool?), ("double", toDouble?), ("list", toList?), ("map", toMap?),
  ("type", fun d => some (.symbol d.kind))]

/-- The value of a conversion without an argument. -/
def emptyOf? (name : String) : Option Datum :=
  if name = "list" then some (.list .given [])
  else if name = "map" then some (.map [])
  else if name = "null_type" then some .null
  else none

/-- The moment that the arguments of a conversion name. -/
def momentFrom? : List Datum → Option Datum
  | .text _ s :: _ => toMoment? (.text .given s)
  | .moment t :: _ => some (.moment t)
  | parts => (parts.mapM whole?).bind momentOf?

/-- The length of time that the arguments of a conversion name: a second one counts nanoseconds. -/
def durationFrom? : List Datum → Option Datum
  | [d] => d.toDuration?
  | [.text _ s, _] => toDuration? (.text .given s)
  | [d, nanos] =>
      match d.whole?, nanos.whole? with
      | some n, some m => ofMicros? (n * 1000000 + m / 1000)
      | _, _ => none
  | _ => none

/-- The value of a conversion by its name. -/
def convert (name : String) (arguments : List Datum) : Except Error (Option Datum) :=
  if name = "timestamp" then .ok (momentFrom? arguments)
  else if name = "duration" then .ok (durationFrom? arguments)
  else
    match arguments with
    | [] => .ok (emptyOf? name)
    | d :: rest =>
        match looseConversions.lookup name, strictConversions.lookup name with
        | some f, _ => f d
        | none, some f => .ok (if rest.isEmpty then f d else none)
        | none, none => .ok none

/-! ## Calls -/

/-- Whether a name is the name of a function. -/
def isFunction (name : String) : Bool :=
  name = "size" || (pairFunctions.lookup name).isSome || (ClockField.functions.lookup name).isSome ||
    kinds.contains name

/-- The value of a function call. -/
def call (name : String) (arguments : List Datum) : Except Error (Option Datum) :=
  match arguments, pairFunctions.lookup name, ClockField.functions.lookup name with
  | [a, b], some f, _ => .ok ((f a b).map .bool)
  | d :: zone, none, some field => field.of d zone
  | [d], none, none => if name = "size" then .ok d.size? else convert name [d]
  | arguments, none, none => convert name arguments
  | _, _, _ => .ok none

/-- The value of a call whose arguments may have failed. -/
def callAll (name : String) (arguments : List (Option Datum)) : Except Error (Option Datum) :=
  match arguments.mapM id with
  | some arguments => call name arguments
  | none => .ok none

end SearchTables.Datum
