import SearchTables.Calendar.ZoneTable

/-! # Time zones

The distance of a zone's clocks from universal time at a moment, by the rule of the zone. -/

namespace SearchTables.Calendar

/-- The seconds in a day. -/
def daySeconds : Int := 86400

/-- The number of the day in a year. The last week of a month is the fourth or the fifth one. -/
def YearDay.dayNumber (d : YearDay) (year : Nat) : Nat :=
  let first := Date.dayNumber ⟨year, d.month, 1⟩
  let day := (d.weekday + 7 - first % 7) % 7 + 7 * (d.week - 1)
  first + (if day < daysInMonth year d.month then day else day - 7)

/-- The clock reading on the day in a year, in seconds. -/
def YearDay.second (d : YearDay) (year : Nat) : Int := d.dayNumber year * daySeconds + d.clock

namespace ZoneRule

/-- Whether summer time is in force at a moment in seconds, in a zone that has it. Where summer begins late in the
year it lasts into the next one. -/
def isSummer (r : ZoneRule) (s : SummerTime) (second : Int) : Bool :=
  let year := (Date.ofDayNumber (Int.fdiv (second + r.offset) daySeconds).toNat).year
  let start := s.start.second year - r.offset
  let stop := s.stop.second year - s.offset
  if start < stop then start ≤ second && second < stop else second < stop || start ≤ second

/-- How far the clocks are ahead at a moment in seconds. -/
def offsetAt (r : ZoneRule) (second : Int) : Int :=
  match r.summer with
  | none => r.offset
  | some s => if r.isSummer s second then s.offset else r.offset

/-- Without summer time the distance never changes. -/
theorem offsetAt_even (offset second : Int) : offsetAt ⟨offset, none⟩ second = offset := rfl

/-- The rule of the zone of a name. -/
def ofName? (name : String) : Option ZoneRule :=
  ((evenZones ++ summerZones).find? fun (_, names) => names.contains name).map (·.1)

end ZoneRule

end SearchTables.Calendar
