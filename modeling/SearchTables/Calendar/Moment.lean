import SearchTables.Calendar.Date
import SearchTables.Calendar.Reader

/-! # Moments in expressions

Expressions name moments more freely than rows do. The **standard notation** is a calendar, ordinal or week
date, then `T` or a space, a clock reading and an optional distance from universal time; a date with hyphens
goes with a clock reading with colons, and one without with one without. The **common notation** is
`YYYY[[/:]MM[/:]DD]` with an optional clock reading with colons after it, in digits of any script. A clock reading
alone is one of the present day, and its distance from universal time does not count. -/

namespace SearchTables.Calendar

/-- The date of a day of a year, which is counted from the first of January as one and may lie in the year
before or after. -/
def ofOrdinal? (year : Nat) (ordinal : Int) : Option Date :=
  let number := daysBeforeYear year + ordinal
  if 1 ≤ year ∧ year ≤ lastYear ∧ 1 ≤ number ∧ number ≤ lastDayNumber then
    some (Date.ofDayNumber number.toNat)
  else none

/-- The date of a day in a week of a year. The week before the first one counts as week zero, and the day
before a Monday as day zero. -/
def ofLooseWeek? (year week day : Nat) : Option Date :=
  if 1 ≤ year ∧ week ≤ Date.weeksInYear year ∧ day ≤ 7 then
    ofOrdinal? year (week * 7 + day - (Date.weekday ⟨year, 1, 4⟩ + 4 : Nat))
  else none

/-- The date of a day of a year, which must have that day. -/
def ofDayOfYear? (year day : Nat) : Option Date :=
  if 1 ≤ day ∧ day ≤ daysInYear year then ofOrdinal? year day else none

/-- A date that exists. -/
def existing? (year month day : Nat) : Option Date :=
  let date : Date := ⟨year, month, day⟩
  if date.Valid then some date else none

/-! ## Standard notation -/

/-- A week date after its `W`, and the rest of the text. -/
def takeWeek? (year : Nat) (hyphens : Bool) (cs : List Char) : Option (Date × List Char) :=
  match takeNat? 2 cs with
  | none => none
  | some (week, rest) =>
      match takeNat? 1 (if hyphens then (dropChar? '-' rest).getD [] else rest) with
      | some (day, rest) => (ofLooseWeek? year week day).map fun date => (date, rest)
      | none =>
          if hyphens ∧ rest.head? = some '-' then none
          else (ofLooseWeek? year week 1).map fun date => (date, rest)

/-- A date after its year and a hyphen, and the rest of the text. -/
def takeHyphenated? (year : Nat) (cs : List Char) : Option (Date × List Char) :=
  match cs with
  | 'W' :: rest => takeWeek? year true rest
  | cs =>
      -- three digits are a day of the year; with fewer the month comes first
      match takeNat? 3 cs with
      | some (day, rest) => (ofDayOfYear? year day).map fun date => (date, rest)
      | none =>
          match takeNat? 2 cs with
          | none => none
          | some (month, '-' :: rest) =>
              match takeNat? 2 rest with
              | none => none
              | some (day, rest) => (existing? year month day).map fun date => (date, rest)
          | some (month, rest) => (existing? year month 1).map fun date => (date, rest)

/-- A date after its year, without hyphens, and the rest of the text. -/
def takeCompact? (year : Nat) (cs : List Char) : Option (Date × List Char) :=
  match cs with
  | 'W' :: rest => takeWeek? year false rest
  | cs =>
      match takeNat? 4 cs with
      | some (n, rest) => (existing? year (n / 100) (n % 100)).map fun date => (date, rest)
      | none =>
          match takeNat? 3 cs with
          | some (day, rest) => (ofDayOfYear? year day).map fun date => (date, rest)
          | none => none

/-- A date, whether it has hyphens, and the rest of the text. -/
def takeDate? (cs : List Char) : Option (Date × Bool × List Char) :=
  match takeNat? 4 cs with
  | none => none
  | some (year, '-' :: rest) =>
      (takeHyphenated? year rest).map fun (date, rest) => (date, true, rest)
  | some (year, rest) => (takeCompact? year rest).map fun (date, rest) => (date, false, rest)

/-- The two digits of the next part of a clock reading; none when nothing of it follows. -/
def takePart? (colons : Bool) (cs : List Char) : Option (Nat × List Char) :=
  if colons then (dropChar? ':' cs).bind (takeNat? 2) else takeNat? 2 cs

/-- The microseconds of a fraction of a second: its first six digits. -/
def microsOfDigits (digits : List Nat) : Nat :=
  let kept := digits.take 6
  natOfDigits kept * Nat.pow 10 (6 - kept.length)

/-- The fraction of a second after its point or comma, and the rest of the text. -/
def takeFraction? (marks : List Char) (digit? : Char → Option Nat) (cs : List Char) :
    Option (Nat × List Char) :=
  match cs with
  | c :: rest =>
      if marks.contains c then
        match takeDigits digit? rest with
        | ([], _) => none
        | (digits, rest) => some (microsOfDigits digits, rest)
      else some (0, c :: rest)
  | [] => some (0, [])

/-- A clock reading and the rest of the text. -/
def takeClock? (colons : Bool) (cs : List Char) : Option (TimeOfDay × List Char) :=
  match takeNat? 2 cs with
  | none => none
  | some (hour, rest) =>
      match takePart? colons rest with
      | none => some (⟨hour, 0, 0, 0⟩, rest)
      | some (minute, rest) =>
          match takePart? colons rest with
          | none => some (⟨hour, minute, 0, 0⟩, rest)
          | some (second, rest) =>
              (takeFraction? ['.', ','] Text.asciiDigit? rest).map fun (micros, rest) =>
                (⟨hour, minute, second, micros⟩, rest)

/-- The distance from universal time at the end of a text, at most a day. -/
def readZone? : List Char → Option (Option Int)
  | [] => some none
  | ['Z'] => some (some 0)
  | sign :: rest =>
      if sign ≠ '+' ∧ sign ≠ '-' then none
      else
        match takeNat? 2 rest with
        | none => none
        | some (hours, rest) =>
            -- the minutes may be left out, and so may the colon before them
            let minutes? : Option Nat :=
              match rest, takeNat? 2 (if rest.head? = some ':' then rest.drop 1 else rest) with
              | [], _ => some 0
              | _, some (minutes, []) => some minutes
              | _, _ => none
            match minutes? with
            | none => none
            | some minutes =>
                let micros : Int := ((hours * 60 + minutes) * 60000000 : Nat)
                if micros ≤ dayMicros then some (some (if sign = '-' then -micros else micros)) else none

/-- A clock reading of the present day. -/
def today? (time : TimeOfDay) : Option DateTime := if time.Valid then some ⟨presentDay, time, none⟩ else none

/-- Read a clock reading alone, with colons or after a `T`. -/
def readStandardClock? (cs : List Char) : Option DateTime :=
  let clock := if cs.head? = some 'T' then cs.drop 1 else cs
  let colons := (clock.drop 2).head? = some ':'
  if cs.head? = some 'T' ∨ colons then
    match takeClock? colons clock with
    | none => none
    | some (time, rest) => (readZone? rest).bind fun _ => today? time
  else none

/-- Read a whole text in standard notation that starts with a date. -/
def readStandardDate? (cs : List Char) : Option DateTime :=
  match takeDate? cs with
  | none => none
  | some (date, _, []) => some ⟨date, .midnight, none⟩
  | some (date, hyphens, sign :: rest) =>
      if sign ≠ 'T' ∧ sign ≠ ' ' then none
      else
        match takeClock? hyphens rest with
        | none => none
        | some (time, rest) =>
            if time.Valid then (readZone? rest).map fun offset => ⟨date, time, offset⟩ else none

/-- Read a whole text in standard notation. -/
def readStandard? (cs : List Char) : Option DateTime := (readStandardClock? cs).or (readStandardDate? cs)

/-! ## Common notation -/

/-- The value of a number of digits of any script, and the rest of the text. -/
def takeAnyNat? : Nat → List Char → Option (Nat × List Char)
  | 0, cs => some (0, cs)
  | _ + 1, [] => none
  | n + 1, c :: cs =>
      match Text.digitValue? c, takeAnyNat? n cs with
      | some d, some (m, rest) => some (d * Nat.pow 10 n + m, rest)
      | _, _ => none

/-- One or two digits of any script. -/
def takeShortNat? (cs : List Char) : Option (Nat × List Char) :=
  (takeAnyNat? 2 cs).or (takeAnyNat? 1 cs)

/-- Drop one of the signs that may stand in a common date. -/
def dropDateSign : List Char → List Char
  | c :: rest => if c = '/' ∨ c = ':' then rest else c :: rest
  | [] => []

/-- The clock reading at the end of a common text, with nothing but a line feed after it; midnight when
there is none. Its ranges are not checked. -/
def readCommonClock? (cs : List Char) : Option TimeOfDay :=
  if cs = [] ∨ cs = ['\n'] then some .midnight
  else do
    let (hour, rest) ← takeShortNat? (if cs.head? = some ' ' then cs.drop 1 else cs)
    let rest ← dropChar? ':' rest
    let (minute, rest) ← takeShortNat? rest
    let (second, rest) := ((dropChar? ':' rest).bind takeShortNat?).getD (0, rest)
    let (micros, rest) ← takeFraction? ['.', '|', ','] Text.digitValue? rest
    if rest = [] ∨ rest = ['\n'] then some ⟨hour, minute, second, micros⟩ else none

/-- A month, a day and a clock reading after the year of a common text. -/
def readMonthDay? (cs : List Char) : Option (Nat × Nat × TimeOfDay) := do
  let (month, rest) ← takeAnyNat? 2 (dropDateSign cs)
  let (day, rest) ← takeAnyNat? 2 (dropDateSign rest)
  let time ← readCommonClock? rest
  some (month, day, time)

/-- Read a whole text in common notation that starts with a year. A month and a day follow the year if the text
can be read so, otherwise it is the first of January. -/
def readCommonDate? (cs : List Char) : Option DateTime := do
  let (year, rest) ← takeAnyNat? 4 cs
  let (month, day, time) ←
    (readMonthDay? rest).or ((readCommonClock? rest).map fun time => (1, 1, time))
  let date ← existing? year month day
  if time.Valid then some ⟨date, time, none⟩ else none

/-- Read a whole text in common notation. -/
def readCommon? (cs : List Char) : Option DateTime :=
  (readCommonDate? cs).or
    (if cs = [] ∨ cs = ['\n'] then none else (readCommonClock? cs).bind today?)

/-- Read a whole text as a moment; without a zone it is meant in universal time. One word names the present. -/
def readMoment? (s : String) : Option DateTime :=
  let read? := if s = "now" then today? .midnight else (readStandard? s.toList).or (readCommon? s.toList)
  read?.map fun t => { t with offset := some (t.offset.getD 0) }

end SearchTables.Calendar
