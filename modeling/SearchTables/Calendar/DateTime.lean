import SearchTables.Calendar.Date
import SearchTables.Decimal.Shortest

/-! # Times and timestamps

A **timestamp** is a date with a time of day and, when it is zoned, the distance of its local time from
universal time in microseconds. An **instant** counts microseconds from the start of year 1, so two zoned
timestamps denote the same moment when their instants agree. -/

namespace SearchTables

/-- A time of day, to the microsecond. -/
structure TimeOfDay where
  hour : Nat
  minute : Nat
  second : Nat
  microsecond : Nat
deriving DecidableEq, Repr, Inhabited

namespace TimeOfDay

/-- Whether a time exists. -/
def Valid (t : TimeOfDay) : Prop :=
  t.hour < 24 ∧ t.minute < 60 ∧ t.second < 60 ∧ t.microsecond < 1000000

instance (t : TimeOfDay) : Decidable t.Valid := inferInstanceAs (Decidable (_ ∧ _))

/-- Microseconds since midnight. -/
def micros (t : TimeOfDay) : Nat :=
  ((t.hour * 60 + t.minute) * 60 + t.second) * 1000000 + t.microsecond

/-- The time that lies a number of microseconds after midnight. -/
def ofMicros (n : Nat) : TimeOfDay :=
  ⟨n / 3600000000, n / 60000000 % 60, n / 1000000 % 60, n % 1000000⟩

/-- Midnight. -/
def midnight : TimeOfDay := ⟨0, 0, 0, 0⟩

/-- Taking a time apart undoes putting it together. -/
theorem ofMicros_micros {t : TimeOfDay} (h : t.Valid) : ofMicros t.micros = t := by
  obtain ⟨hour, minute, second, microsecond⟩ := t
  obtain ⟨_, _, _, _⟩ := h
  simp only [ofMicros, micros, mk.injEq] at *
  omega

end TimeOfDay

/-- A date with a time of day, and its distance from universal time when it is zoned. -/
structure DateTime where
  date : Date
  time : TimeOfDay
  offset : Option Int
deriving DecidableEq, Repr, Inhabited

namespace Calendar

/-- Microseconds in a day. -/
def dayMicros : Nat := 86400000000

/-- The instant of the first of January 1970. -/
def epoch : Int := 719163 * 86400000000

end Calendar

namespace DateTime

/-- Microseconds from day number zero to the local reading of a timestamp. -/
def localMicros (t : DateTime) : Int := t.date.dayNumber * Calendar.dayMicros + t.time.micros

/-- The moment that a timestamp denotes; one without a zone is taken as universal time. -/
def instant (t : DateTime) : Int := t.localMicros - t.offset.getD 0

/-- Whether a timestamp is a whole day away from universal time. Such a distance can be written down, but
not computed with. -/
def isOnEdge (t : DateTime) : Bool := decide ((t.offset.getD 0).natAbs = Calendar.dayMicros)

/-- The unzoned timestamp at an instant, if it lies in the calendar. -/
def ofInstant? (n : Int) : Option DateTime :=
  let day := n / Calendar.dayMicros
  let rest := n % Calendar.dayMicros
  if 1 ≤ day ∧ day ≤ Calendar.lastDayNumber then
    some ⟨Date.ofDayNumber day.toNat, TimeOfDay.ofMicros rest.toNat, none⟩
  else none

/-- The universal-time reading of a timestamp, if it lies in the calendar. A timestamp without a zone is
its own reading. -/
def toUniversal? (t : DateTime) : Option DateTime :=
  match t.offset with
  | none => some t
  | some _ => ofInstant? t.instant

/-- A timestamp without a zone is its own universal reading. -/
@[simp] theorem toUniversal?_unzoned (date : Date) (time : TimeOfDay) :
    toUniversal? ⟨date, time, none⟩ = some ⟨date, time, none⟩ := rfl

end DateTime

/-! ## Text -/

namespace Calendar

/-- Two digits. -/
def two (n : Nat) : String := paddedNat 2 n

/-- A fraction of a second, left out when it is zero. -/
def fractionText (microsecond : Nat) : String :=
  if microsecond = 0 then "" else "." ++ paddedNat 6 microsecond

/-- A distance from universal time; the seconds are left out when there are none. -/
def offsetText (offset : Int) : String :=
  let t := TimeOfDay.ofMicros offset.natAbs
  let seconds :=
    if t.second = 0 ∧ t.microsecond = 0 then "" else ":" ++ two t.second ++ fractionText t.microsecond
  (if offset < 0 then "-" else "+") ++ two t.hour ++ ":" ++ two t.minute ++ seconds

end Calendar

/-- `YYYY-MM-DD`. -/
def Date.text (d : Date) : String :=
  paddedNat 4 d.year ++ "-" ++ Calendar.two d.month ++ "-" ++ Calendar.two d.day

/-- `HH:MM:SS`, with six places when there is a fraction. -/
def TimeOfDay.text (t : TimeOfDay) : String :=
  Calendar.two t.hour ++ ":" ++ Calendar.two t.minute ++ ":" ++ Calendar.two t.second ++
    Calendar.fractionText t.microsecond

/-- The text of an optional distance from universal time. -/
def Calendar.zoneText : Option Int → String
  | none => ""
  | some offset => Calendar.offsetText offset

/-- Date, `T`, time and zone. -/
def DateTime.text (t : DateTime) : String :=
  t.date.text ++ "T" ++ t.time.text ++ Calendar.zoneText t.offset

end SearchTables
