import SearchTables.Calendar.DateTime
import SearchTables.Decimal.Nearest

/-! # Epoch milliseconds

A number stands for the moment that many milliseconds after the start of 1970. The number of seconds is
first rounded to a double, then its fraction to whole microseconds through a double again; both roundings
send ties to the even neighbour. -/

namespace SearchTables.Calendar

/-- Whole microseconds in a number of seconds: the fraction is scaled as a double and rounded. -/
def microsOfSeconds (seconds : Dyadic) : Nat :=
  let whole := seconds.num / seconds.den
  let rest := seconds.num % seconds.den
  let scaled := nearestDyadic (rest * 1000000) seconds.den
  whole * 1000000 + roundHalfEven scaled.num scaled.den

/-- The unzoned timestamp a fraction of milliseconds after the epoch, if it lies in the calendar. -/
def ofEpochMillis? (negative : Bool) (num den : Nat) : Option DateTime :=
  let seconds := nearestDyadic num (den * 1000)
  if seconds.overflows then none
  else
    let micros : Int := microsOfSeconds seconds
    DateTime.ofInstant? (epoch + if negative then -micros else micros)

/-- The timestamp of an integer number of milliseconds. -/
def ofEpochInt? (n : Int) : Option DateTime := ofEpochMillis? (decide (n < 0)) n.natAbs 1

/-- The timestamp of a double number of milliseconds; none for infinities and the not-a-number value. -/
def ofEpochFloat? (x : Float) : Option DateTime :=
  (magnitude? x).bind fun d => ofEpochMillis? (isNegative x) d.num d.den

end SearchTables.Calendar
