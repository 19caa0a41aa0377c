import SearchTables.Expression.Shown
import SearchTables.Decimal.Remainder
import SearchTables.Calendar.Moment

/-! # Conversions between kinds

Every kind of data has a function of its own name that converts other data to it. A conversion without a
meaning has no value; only the whole number of an infinite double is out of range altogether. Conversions
give given data, whatever the origin of what they convert. -/

namespace SearchTables.Datum

/-! ## Numbers -/

/-- The whole number that a text names: hexadecimal when it starts with a mark, decimal otherwise. -/
def wholeOfText? (s : String) : Option Int :=
  match s.toList with
  | '-' :: '0' :: c :: rest =>
      if c = 'x' ∨ c = 'X' then (readWhole? true rest).map fun n => -n
      else readWhole? false ('-' :: '0' :: c :: rest)
  | '0' :: c :: rest =>
      if c = 'x' ∨ c = 'X' then readWhole? true rest else readWhole? false ('0' :: c :: rest)
  | cs => readWhole? false cs

/-- Seconds since the start of 1970 as the nearest double. -/
def epochSeconds (t : DateTime) : Float := floatOfFraction (t.instant - Calendar.epoch) 1000000

/-- The whole number that a datum converts to, before its range is checked. -/
def toWhole (d : Datum) : Except Error (Option Int) :=
  match d with
  | .null => .ok (some 0)
  | .double _ x =>
      match truncated? x with
      | some n => .ok (some n)
      | none => if isNotANumber x then .ok none else .error .outOfRange
  | .text _ s => .ok (wholeOfText? s)
  | .moment t => .ok (truncated? (epochSeconds t))
  | d => .ok d.whole?

/-- Convert to an integer. -/
def toInt (d : Datum) : Except Error (Option Datum) := d.toWhole.map (·.bind ofInt?)

/-- Convert to an unsigned integer. -/
def toUint (d : Datum) : Except Error (Option Datum) := d.toWhole.map (·.bind ofUint?)

/-- Convert to a double. -/
def toDouble? : Datum → Option Datum
  | .null => some (.double .given 0.0)
  | .text _ s => (readFloat? s).map (.double .given)
  | d => d.float?.map (.double .given)

/-! ## Truth values -/

/-- The texts that mean true. -/
def trueWords : List String := ["True", "t", "TRUE", "true"]

/-- The texts that mean false. -/
def falseWords : List String := ["False", "f", "FALSE", "false"]

/-- Convert to a truth value. -/
def toBool? : Datum → Option Datum
  | .null => some (.bool false)
  | .text _ s =>
      if trueWords.contains s then some (.bool true)
      else if falseWords.contains s then some (.bool false)
      else (readWhole? false s.toList).map fun n => .bool (n != 0)
  | .double _ x => some (.bool (x != 0.0))
  | d => d.whole?.map fun n => .bool (n != 0)

/-! ## Texts and byte strings -/

/-- The text that bytes are the UTF-8 form of. -/
def textOfBytes? (bytes : List Nat) : Option String :=
  (String.fromUTF8? ⟨(bytes.map UInt8.ofNat).toArray⟩).map Text.ofCharacters

/-- Convert to a text. -/
def toText? : Datum → Option Datum
  | .text _ s => some (.text .given s)
  | .null => some (.text .given "None")
  | .bool b => some (.text .given (if b then "true" else "false"))
  | .int _ n => some (.text .given (toString n))
  | .uint n => some (.text .given (toString n))
  | .double _ x => some (.text .given (Json.shownNumbers.render x))
  | .bytes _ bs => (textOfBytes? bs).map (.text .given)
  | .moment t => some (.text .given (momentText t))
  | .duration _ n => some (.text .given (durationText n))
  | d => d.shown?.map (.text .given)

/-- A datum as a byte. -/
def byte? (d : Datum) : Option Nat :=
  d.whole?.bind fun n => if 0 ≤ n ∧ n < 0x100 then some n.toNat else none

/-- Convert to a byte string. -/
def toBytes? : Datum → Option Datum
  | .null => some (.bytes .given [])
  | .text _ s => (Text.utf8? s).map (.bytes .given)
  | .bytes _ bs => some (.bytes .given bs)
  | .list _ items => (items.mapM byte?).map (.bytes .given)
  | _ => none

/-! ## Collections -/

/-- Convert to a list. -/
def toList? (d : Datum) : Option Datum := d.elements?.map (.list .given)

/-! ## Lengths of time -/

/-- The units of time in nanoseconds. -/
def timeUnits : List (String × Nat) := [
  ("ns", 1), ("us", 1000), ("ms", 1000000), ("s", 1000000000), ("m", 60000000000),
  ("h", 3600000000000), ("d", 86400000000000)]

/-- Whether a character may stand in the name of a unit. -/
def isUnitLetter (c : Char) : Bool := 'a' ≤ c && c ≤ 'z'

/-- Digits with an optional point among them, and the rest of the text. -/
def takePointed (cs : List Char) : Numeral × List Char :=
  let (whole, rest) := takeDigits Text.asciiDigit? cs
  match rest with
  | '.' :: rest =>
      let (fraction, rest) := takeDigits Text.asciiDigit? rest
      (⟨false, whole, fraction, 0⟩, rest)
  | rest => (⟨false, whole, [], 0⟩, rest)

/-- Numbers with units: the sum of their nanoseconds as a fraction. The steps bound their number. -/
def unitsFrom? : Nat → List Char → Option (Nat × Nat)
  | 0, _ => none
  | steps + 1, cs =>
      let (numeral, rest) := takePointed cs
      match timeUnits.lookup (String.ofList (rest.takeWhile isUnitLetter)) with
      | none => none
      | some unit =>
          if numeral.whole ++ numeral.fraction = [] then none
          else
            let first := numeral.digits * unit
            let den := Nat.pow 10 numeral.fraction.length
            match rest.dropWhile isUnitLetter with
            | [] => some (first, den)
            | rest =>
                (unitsFrom? steps rest).map fun (num, other) => (first * other + num * den, den * other)

/-- The microseconds that a text like `1h30m` names. -/
def microsOfText? (s : String) : Option Int :=
  let (negative, body) := splitSign s.toList
  (unitsFrom? body.length body).map fun (num, den) =>
    let micros : Int := roundHalfEven num (1000 * den)
    if negative then -micros else micros

/-- The largest length of time in microseconds. -/
def maxDuration : Int := 315576000000000000

/-- A given length of time, if it is in range. -/
def ofMicros? (micros : Int) : Option Datum :=
  if -maxDuration ≤ micros ∧ micros ≤ maxDuration then some (.duration .given micros) else none

/-- Convert to a length of time; whole numbers are seconds. -/
def toDuration? : Datum → Option Datum
  | .text _ s => (microsOfText? s).bind ofMicros?
  | .duration _ n => ofMicros? n
  | .double _ _ => none
  | d => d.whole?.bind fun n => ofMicros? (n * 1000000)

/-! ## Moments -/

/-- Convert to a moment. -/
def toMoment? : Datum → Option Datum
  | .text _ s => (Calendar.readMoment? s).map .moment
  | .moment t => some (.moment t)
  | _ => none

/-- The moment of year, month, day and parts of a clock reading. -/
def momentOf? (parts : List Int) : Option Datum :=
  if parts.length < 3 ∨ 7 < parts.length ∨ parts.any (· < 0) then none
  else
    match parts.map Int.toNat with
    | year :: month :: day :: clock =>
        let time : TimeOfDay :=
          ⟨clock.getD 0 0, clock.getD 1 0, clock.getD 2 0, clock.getD 3 0⟩
        (Calendar.existing? year month day).bind fun date =>
          if time.Valid then some (.moment ⟨date, time, some 0⟩) else none
    | _ => none

/-! ## Kinds -/

/-- The name of a kind of data; derived data are of kinds of their own. -/
def originName (origin : Origin) (name : String) : String :=
  match origin with
  | .given => name
  | .derived => "derived " ++ name

/-- The functions that are kinds at the same time. -/
def kinds : List String := [
  "bool", "bytes", "double", "duration", "int", "list", "map", "null_type", "string", "timestamp", "uint",
  "type"]

/-- The kind of a datum. -/
def kind : Datum → String
  | .null => "null_type"
  | .bool _ => "bool"
  | .int origin _ => originName origin "int"
  | .uint _ => "uint"
  | .double origin _ => originName origin "double"
  | .text origin _ => originName origin "string"
  | .bytes origin _ => originName origin "bytes"
  | .list origin _ => originName origin "list"
  | .map _ => "map"
  | .names _ => "names"
  | .symbol name => if kinds.contains name then "type" else "function"
  | .moment _ => "timestamp"
  | .duration origin _ => originName origin "duration"
  | .failed => "failure"

end SearchTables.Datum
