import SearchTables.Calendar.DateTime
import SearchTables.Decimal.Numeral
import SearchTables.Text.Utf8

/-! # Reading timestamps

A timestamp is a date, one separating character and a clock reading. Dates are written `YYYY-MM-DD`,
`YYYYMMDD`, `YYYY-Www[-D]` or `YYYYWww[D]`; clock readings `HH[:MM[:SS[.f]]]` with all colons or none, and
an optional distance from universal time. Where the date stops is decided by its fifth and sixth
characters before it is read. Everything after the first NUL that stands at the end of a fraction, or after
a `Z`, is ignored.

The reader works on the bytes of a text, each of them as one character. -/

namespace SearchTables.Calendar

/-- A given number of ASCII digits at the start of a text. -/
def takeNat? : Nat → List Char → Option (Nat × List Char)
  | 0, cs => some (0, cs)
  | _ + 1, [] => none
  | n + 1, c :: cs =>
      match Text.asciiDigit? c, takeNat? n cs with
      | some d, some (m, rest) => some (d * Nat.pow 10 n + m, rest)
      | _, _ => none

/-- Whether a character is an ASCII digit. -/
def isAsciiDigit (c : Char) : Bool := (Text.asciiDigit? c).isSome

/-- The length of the date at the start of a text of seven characters at least. A hyphen after
`YYYY-Www` belongs to the date unless two characters follow of which the second is a digit; the digits
after `YYYYWww` hold a weekday when their number is odd. -/
def dateLength? (cs : List Char) : Option Nat :=
  let size := cs.length
  if size = 7 then some 7
  else if cs[4]? = some '-' then
    if cs[5]? = some 'W' then
      if cs[8]? = some '-' then
        if size = 9 then none
        else if (cs[10]?.map isAsciiDigit).getD false then some 8
        else some 10
      else some 8
    else some 10
  else if cs[4]? = some 'W' then
    -- without hyphens the number of digits tells whether the last one is a weekday
    let run := ((cs.drop 7).takeWhile isAsciiDigit).length + 7
    if run < 9 then some run else if run % 2 = 0 then some 7 else some 8
  else some 8

/-- Drop one given character at the start. -/
def dropChar? (c : Char) : List Char → Option (List Char)
  | d :: rest => if d = c then some rest else none
  | [] => none

/-- The date of a week date whose year and `W` were read. -/
def readWeek? (year : Nat) (hyphens : Bool) (cs : List Char) : Option Date :=
  match takeNat? 2 cs with
  | none => none
  | some (week, []) => Date.ofWeek? year week 1
  | some (week, rest) =>
      match if hyphens then dropChar? '-' rest else some rest with
      | none => none
      | some rest =>
          match takeNat? 1 rest with
          | some (day, _) => Date.ofWeek? year week day
          | none => none

/-- The date of a month date whose year was read. -/
def readMonth? (year : Nat) (hyphens : Bool) (cs : List Char) : Option Date :=
  match takeNat? 2 cs with
  | none => none
  | some (month, rest) =>
      match if hyphens then dropChar? '-' rest else some rest with
      | none => none
      | some rest =>
          match takeNat? 2 rest with
          | some (day, []) =>
              let date : Date := ⟨year, month, day⟩
              if date.Valid then some date else none
          | _ => none

/-- A whole text as a date. -/
def readDate? (cs : List Char) : Option Date :=
  match takeNat? 4 cs with
  | none => none
  | some (year, rest) =>
      let hyphens := rest.head? = some '-'
      match if hyphens then rest.drop 1 else rest with
      | 'W' :: rest => readWeek? year hyphens rest
      | rest => readMonth? year hyphens rest

/-- A clock reading before its ranges are checked. -/
structure ClockReading where
  hour : Nat
  minute : Nat
  second : Nat
  microsecond : Nat
  /-- Whether characters were left over. -/
  leftover : Bool

/-- Whether a text is over: at its end, or at a NUL. -/
def isOver : List Char → Bool
  | [] => true
  | c :: _ => c = '\x00'

/-- The fraction of a second: six places count, and the digits after them are dropped. -/
def readFraction? (hour minute second : Nat) (cs : List Char) : Option ClockReading :=
  let places := min cs.length 6
  match takeNat? places cs with
  | none => none
  | some (n, rest) =>
      some ⟨hour, minute, second, n * Nat.pow 10 (6 - places), !isOver (rest.dropWhile isAsciiDigit)⟩

/-- How a clock reading goes on after two digits: it is over (with a character left over or not), or the
next pair of digits or the fraction follows. -/
inductive ClockStep where
  | done (leftover : Bool)
  | pair (rest : List Char)
  | fraction (rest : List Char)

/-- What follows two digits of a clock reading. A last character is left over, whatever it is. -/
def clockStep? (colons : Bool) : List Char → Option ClockStep
  | [] => some (.done false)
  | [c] => some (.done (c != '\x00'))
  | c :: rest =>
      if colons && c = ':' then some (.pair rest)
      else if c = '.' ∨ c = ',' then some (.fraction rest)
      else if colons then none
      else some (.pair (c :: rest))

/-- `HH[:MM[:SS[.f]]]` or `HH[MM[SS[.f]]]`. -/
def readClock? (cs : List Char) : Option ClockReading :=
  match takeNat? 2 cs with
  | none => none
  | some (hour, rest) =>
      -- the first separator decides for all of them
      let colons := rest.head? = some ':'
      match clockStep? colons rest with
      | none => none
      | some (.done leftover) => some ⟨hour, 0, 0, 0, leftover⟩
      | some (.fraction rest) => readFraction? hour 0 0 rest
      | some (.pair rest) =>
          match takeNat? 2 rest with
          | none => none
          | some (minute, rest) =>
              match clockStep? colons rest with
              | none => none
              | some (.done leftover) => some ⟨hour, minute, 0, 0, leftover⟩
              | some (.fraction rest) => readFraction? hour minute 0 rest
              | some (.pair rest) =>
                  match takeNat? 2 rest with
                  | none => none
                  | some (second, rest) =>
                      match clockStep? colons rest with
                      | none => none
                      | some (.done leftover) => some ⟨hour, minute, second, 0, leftover⟩
                      | some (.fraction rest) => readFraction? hour minute second rest
                      | some (.pair rest) => readFraction? hour minute second rest

/-- The time of day of a clock reading that is in range. -/
def ClockReading.time? (r : ClockReading) : Option TimeOfDay :=
  let t : TimeOfDay := ⟨r.hour, r.minute, r.second, r.microsecond⟩
  if t.Valid then some t else none

/-- The distance from universal time after its sign: less than a day, its parts unchecked. A reading of no
whole seconds is universal time. -/
def readOffset? (negative : Bool) (cs : List Char) : Option Int :=
  match readClock? cs with
  | none => none
  | some r =>
      let seconds := (r.hour * 60 + r.minute) * 60 + r.second
      let micros : Int := (seconds * 1000000 + r.microsecond : Nat)
      if r.leftover then none
      else if seconds = 0 then some 0
      else if micros < dayMicros then some (if negative then -micros else micros)
      else none

/-- Whether a character starts a distance from universal time. -/
def startsOffset (c : Char) : Bool := c = '+' || c = '-' || c = 'Z'

/-- A time of day with an optional distance from universal time. Characters left over are ignored when a
distance follows. -/
def readTime? (cs : List Char) : Option (TimeOfDay × Option Int) :=
  match readClock? (cs.takeWhile (!startsOffset ·)) with
  | none => none
  | some r =>
      match r.time?, cs.dropWhile (!startsOffset ·) with
      | none, _ => none
      | some t, [] => if r.leftover then none else some (t, none)
      | some t, 'Z' :: rest => if isOver rest then some (t, some 0) else none
      | some t, c :: rest => (readOffset? (c = '-') rest).map fun offset => (t, some offset)

/-- The places in which the separator of date and time can stand. -/
def separatorPlaces : List Nat := [7, 8, 10]

/-- The code points of a text in which half of a surrogate pair that separates date and time, and so does
not matter, is replaced by a `T`. -/
def plainCodes (codes : List Nat) : List Nat :=
  match separatorPlaces.find? fun place => (codes[place]?.map Text.isHalf).getD false with
  | some place => codes.set place 'T'.toNat
  | none => codes

/-- How many bytes the character has that starts with a byte. -/
def bytesFrom (c : Char) : Nat :=
  if c.toNat < 0x80 then 1 else if c.toNat < 0xe0 then 2 else if c.toNat < 0xf0 then 3 else 4

/-- Read bytes as a timestamp; a date alone is its midnight. -/
def readBytes? (cs : List Char) : Option DateTime :=
  match dateLength? cs with
  | none => none
  | some n =>
      match readDate? (cs.take n), cs.drop n with
      | none, _ => none
      | some date, [] => some ⟨date, .midnight, none⟩
      | some date, c :: rest =>
          (readTime? (rest.drop (bytesFrom c - 1))).map fun (time, offset) => ⟨date, time, offset⟩

/-- Read a whole text as a timestamp. -/
def readDateTime? (s : String) : Option DateTime :=
  let codes := plainCodes (Text.codePoints s)
  if codes.length < 7 ∨ codes.any Text.isHalf then none
  else readBytes? ((codes.flatMap Text.utf8Code).map Char.ofNat)

end SearchTables.Calendar
