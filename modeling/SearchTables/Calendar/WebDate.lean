import SearchTables.Calendar.Date
import SearchTables.Decimal.Numeral
import SearchTables.Text.Blank
import SearchTables.Text.Cut

/-! # Dates of the web

Dates such as `Wed, 21 Oct 2015 07:28:00 GMT` tell when a cookie expires. Beside this **strict** form many
loose ones are in use: with hyphens, with years of two digits, without a weekday, a clock or a zone. -/

namespace SearchTables.Calendar

/-- What a text says as a date of the web. -/
inductive WebDate where
  /-- A moment, in seconds since 1970. -/
  | moment (seconds : Int)
  /-- No date, or none that has a moment. -/
  | none
  /-- A date in the strict form in a month that there is not. -/
  | noMonth
deriving DecidableEq, Repr

namespace WebDate

/-- The year that years of few digits are close to. -/
def presentYear : Int := presentDay.year

/-- The names of the months. -/
def monthNames : List String :=
  ["jan", "feb", "mar", "apr", "may", "jun", "jul", "aug", "sep", "oct", "nov", "dec"]

/-- The names of the weekdays. -/
def weekdayNames : List String := ["sun", "mon", "tue", "wed", "thu", "fri", "sat"]

/-- The number of a month of this name, from one on. -/
def monthOfName? (name : String) : Option Nat :=
  (monthNames.findIdx? (· == Text.lowerAscii name)).map (· + 1)

/-- The value of decimal digits. -/
def decimalValue (cs : List Char) : Nat := natOfDigits (cs.filterMap Text.asciiDigit?)

/-- A date and a clock, as they are written. -/
structure Reading where
  year : Int
  month : Nat
  day : Nat
  hour : Nat
  minute : Nat
  second : Nat

/-- The seconds since 1970, for a reading that may be one: days that a month does not have run on into the
next one. -/
def Reading.seconds? (r : Reading) : Option Int :=
  if 1970 ≤ r.year ∧ 1 ≤ r.month ∧ r.month ≤ 12 ∧ 1 ≤ r.day ∧ r.day ≤ 31 ∧ r.hour ≤ 24 ∧ r.minute ≤ 59 ∧
      r.second ≤ 61 then
    let firstDay : Date := ⟨r.year.toNat, r.month, 1⟩
    let days : Int := firstDay.dayNumber + (r.day - 1 : Nat) - epochDay
    some (days * 86400 + (r.hour * 3600 + r.minute * 60 + r.second : Nat))
  else Option.none

/-! ## The strict form -/

/-- Whether a text is one of some capitals and two small letters. -/
def isAbbreviation (capitals : String) (cs : List Char) : Bool :=
  match cs with
  | [a, b, c] => capitals.toList.contains a && b.isLower && c.isLower
  | _ => false

/-- Whether a text is in the strict form. -/
def isStrict (cs : List Char) : Bool :=
  let part (start count : Nat) := (cs.drop start).take count
  let isNumber (start count : Nat) := (part start count).all Char.isDigit
  cs.length = 29 && isAbbreviation "SMTWF" (part 0 3) && part 3 2 == [',', ' '] && isNumber 5 2 &&
    part 7 1 == [' '] && isAbbreviation "JFMASOND" (part 8 3) && part 11 1 == [' '] && isNumber 12 4 &&
    part 16 1 == [' '] && isNumber 17 2 && part 19 1 == [':'] && isNumber 20 2 && part 22 1 == [':'] &&
    isNumber 23 2 && part 25 4 == " GMT".toList

/-- Read a text in the strict form. -/
def readStrict (cs : List Char) : WebDate :=
  let number (start count : Nat) := decimalValue ((cs.drop start).take count)
  match monthOfName? (String.ofList ((cs.drop 8).take 3)) with
  | Option.none => .noMonth
  | some month =>
      match Reading.seconds? ⟨number 12 4, month, number 5 2, number 17 2, number 20 2, number 23 2⟩ with
      | some seconds => .moment seconds
      | Option.none => .none

/-! ## Loose forms -/

/-- Whether a character is blank in ASCII. -/
def isSpace (c : Char) : Bool := c = ' ' || ('\t' ≤ c && c ≤ '\r')

/-- Whether a character may stand in a name. -/
def isWordChar (c : Char) : Bool := c.isAlphanum || c = '_'

/-- A run of characters at the start of a text, and what follows it. -/
def run (p : Char → Bool) (cs : List Char) : List Char × List Char := (cs.takeWhile p, cs.dropWhile p)

/-- Skip blanks, of which there is one at least, or one of some marks. -/
def skipSeparator? (marks : List Char) (cs : List Char) : Option (List Char) :=
  match cs with
  | c :: rest => if isSpace c then some (rest.dropWhile isSpace) else if marks.contains c then some rest else .none
  | [] => .none

/-- Skip a weekday, the comma after it, and blanks. -/
def skipWeekday (cs : List Char) : List Char :=
  if weekdayNames.contains (Text.lowerAscii (String.ofList (cs.take 3))) then
    let rest := (cs.drop 3).dropWhile Char.isAlpha
    let rest := if rest.head? = some ',' then rest.drop 1 else rest
    rest.dropWhile isSpace
  else cs

/-- A number of two digits after a colon. -/
def takeColonPair? (cs : List Char) : Option (Nat × List Char) :=
  match cs with
  | ':' :: a :: b :: rest =>
      if a.isDigit && b.isDigit then some (decimalValue [a, b], rest) else .none
  | _ => .none

/-- The clock after a separator: hours and minutes, and seconds if they follow. -/
def takeClock? (cs : List Char) : Option ((Nat × Nat × Nat) × List Char) := do
  let rest ← skipSeparator? [':'] cs
  let (hour, rest) := run Char.isDigit rest
  if hour.isEmpty || 2 < hour.length then .none
  else
    let (minute, rest) ← takeColonPair? rest
    let (second, rest) := (takeColonPair? rest).getD (0, rest)
    some ((decimalValue hour, minute, second), rest)

/-- Whether a text is a half of the day. -/
def isDayHalf (cs : List Char) : Bool := ["am", "pm"].contains (Text.lowerAscii (String.ofList cs))

/-- The zone at the start of a text, if there is one. -/
def takeZone (cs : List Char) : List Char × List Char :=
  let (letters, rest) := run Char.isAlpha cs
  if !letters.isEmpty then if isDayHalf letters then ([], cs) else (letters, rest)
  else
    let sign := cs.take (if cs.head? = some '-' ∨ cs.head? = some '+' then 1 else 0)
    let (digits, rest) := run Char.isDigit (cs.drop sign.length)
    if 2 ≤ digits.length ∧ digits.length ≤ 4 then (sign ++ digits, rest) else ([], cs)

/-- Skip a name in parentheses. -/
def skipRemark (cs : List Char) : List Char :=
  match cs with
  | '(' :: rest =>
      match run isWordChar rest with
      | (_ :: _, ')' :: rest) => rest
      | _ => cs
  | _ => cs

/-- The zone that ends a text, which may be missing. -/
def readZone? (cs : List Char) : Option (List Char) :=
  let (zone, rest) := takeZone (cs.dropWhile isSpace)
  if ((skipRemark (rest.dropWhile isSpace)).dropWhile isSpace).isEmpty then some zone else .none

/-- How far a zone is ahead, in seconds; of the named ones only the universal one is known. -/
def zoneOffset? (zone : List Char) : Option Int :=
  if zone.isEmpty || ["GMT", "UTC", "UT", "Z"].contains (Text.upperAscii (String.ofList zone)) then some 0
  else
    let digits := zone.filter Char.isDigit
    let hours := digits.take (if digits.length = 3 then 1 else 2)
    let seconds : Int := decimalValue hours * 3600 + decimalValue (digits.drop hours.length) * 60
    if digits.isEmpty then .none else some (if zone.head? = some '-' then -seconds else seconds)

/-- A year of few digits is the one with these last digits that is closest to the present. -/
def fullYear (year : Nat) : Int :=
  if 1000 ≤ year then year
  else
    let century := presentYear - presentYear % 100
    let gap := presentYear % 100 - year
    year + century + (if 50 < gap then 100 else if gap < -50 then -100 else 0)

/-- The month of a name or of a number. -/
def readMonth? (cs : List Char) : Option Nat :=
  (monthOfName? (String.ofList cs)).or
    ((readWhole? false cs).bind fun n => if 1 ≤ n ∧ n ≤ 12 then some n.toNat else .none)

/-- Read a text in a loose form. -/
def readLoose? (cs : List Char) : Option Int := do
  let (day, rest) := run Char.isDigit cs
  let (month, rest) := run isWordChar (← skipSeparator? ['-', '/'] rest)
  let (year, rest) := run Char.isDigit (← skipSeparator? ['-', '/'] rest)
  if day.isEmpty || 2 < day.length || month.isEmpty || year.isEmpty then .none
  else
    let ((hour, minute, second), rest) := (takeClock? rest).getD ((0, 0, 0), rest)
    let zone ← readZone? rest
    let month ← readMonth? month
    if lastYear < decimalValue year then .none
    else
      let reading : Reading := ⟨fullYear (decimalValue year), month, decimalValue day, hour, minute, second⟩
      some ((← reading.seconds?) - (← zoneOffset? zone))

/-- Read a text as a date of the web. -/
def read (s : String) : WebDate :=
  let cs := s.toList
  if isStrict cs then readStrict cs
  else
    match readLoose? (skipWeekday (Text.trimStartChars cs)) with
    | some seconds => .moment seconds
    | Option.none => .none

end WebDate

end SearchTables.Calendar
