import SearchTables.Calendar.Zone
import SearchTables.Expression.Datum

/-! # Fields of moments

The functions that take a moment apart, in universal time or in a zone. Days of the month, of the
week (from Sunday) and of the year and the months are counted from zero, except by `getDate`. Lengths of time
have totals under the same names. -/

namespace SearchTables

/-- A field of a moment. -/
inductive ClockField where
  | date | dayOfMonth | dayOfWeek | dayOfYear | month | fullYear
  | hours | minutes | seconds | milliseconds
deriving DecidableEq, Repr

namespace ClockField

/-- The names of the functions for the fields. -/
def functions : List (String × ClockField) := [
  ("getDate", .date), ("getDayOfMonth", .dayOfMonth), ("getDayOfWeek", .dayOfWeek),
  ("getDayOfYear", .dayOfYear), ("getFullYear", .fullYear), ("getMonth", .month), ("getHours", .hours),
  ("getMilliseconds", .milliseconds), ("getMinutes", .minutes), ("getSeconds", .seconds)]

/-- A field of a local reading. -/
def read (t : DateTime) : ClockField → Nat
  | .date => t.date.day
  | .dayOfMonth => t.date.day - 1
  | .dayOfWeek => (t.date.weekday + 1) % 7
  | .dayOfYear => Calendar.daysBeforeMonth t.date.year t.date.month + t.date.day - 1
  | .month => t.date.month - 1
  | .fullYear => t.date.year
  | .hours => t.time.hour
  | .minutes => t.time.minute
  | .seconds => t.time.second
  | .milliseconds => t.time.microsecond / 1000

/-- The microseconds in a unit of which lengths of time have totals. -/
def unit? : ClockField → Option Int
  | .hours => some 3600000000
  | .minutes => some 60000000
  | .seconds => some 1000000
  | .milliseconds => some 1000
  | _ => none

/-- The zone at the distance from universal time that a text gives: `[+-]H[H]:MM`, less than a day. -/
def zoneAtDistance? (s : String) : Option Calendar.ZoneRule :=
  let (negative, body) := splitSign s.toList
  match takeDigits Text.digitValue? body with
  | (whole, ':' :: rest) =>
      match takeDigits Text.digitValue? rest with
      | ([a, b], rest) =>
          let seconds : Int := ((natOfDigits whole * 60 + 10 * a + b) * 60 : Nat)
          if (whole.length = 1 ∨ whole.length = 2) ∧ (rest = [] ∨ rest = ['\n']) ∧
              seconds < Calendar.daySeconds then
            some ⟨if negative then -seconds else seconds, none⟩
          else none
      | _ => none
  | _ => none

/-- The zone that a text names. -/
def zone? (s : String) : Option Calendar.ZoneRule :=
  if s = "" ∨ Text.lowerAscii s = "utc" then some ⟨0, none⟩
  else (Calendar.ZoneRule.ofName? s).or (zoneAtDistance? s)

/-- The zone that an optional argument names. -/
def zoneOf? : List Datum → Option Calendar.ZoneRule
  | [] | [.null] => some ⟨0, none⟩
  | [.text _ s] => zone? s
  | _ => none

/-- A field of a moment in a zone. The moment must be in the calendar there, and in universal time. -/
def ofMoment (field : ClockField) (t : DateTime) (zone : Calendar.ZoneRule) : Except Error (Option Datum) :=
  let ahead := zone.offsetAt (Int.fdiv t.instant 1000000) * 1000000
  match DateTime.ofInstant? t.instant, DateTime.ofInstant? (t.instant + ahead) with
  | some _, some there => .ok (some (.int .given (field.read there)))
  | _, _ => .error .outOfRange

/-- A field of a datum; a zone may be given for moments only. -/
def of (field : ClockField) (d : Datum) (zone : List Datum) : Except Error (Option Datum) :=
  match d with
  | .moment t =>
      match zoneOf? zone with
      | some z => if t.isOnEdge then .ok none else field.ofMoment t z
      | none => .ok none
  | .duration .given n =>
      match field.unit?, zone with
      | some unit, [] | some unit, [.null] =>
          .ok (Datum.ofInt? (Int.tdiv n unit))
      | _, _ => .ok none
  | _ => .ok none

end ClockField

end SearchTables
