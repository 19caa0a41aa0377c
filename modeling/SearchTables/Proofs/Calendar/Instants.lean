import SearchTables.Calendar.Date
import SearchTables.Calendar.DateTime

/-! # Day numbers and instants — one unzoned timestamp for every moment

A year starts where the one before it ends (`daysBeforeYear_succ`), so a day number falls into one year
(`exists_year`) and there into one month (`exists_month`). From this dates and day numbers are two names of
the same days: the date of a day number has that number (`dayNumber_ofDayNumber`), and a date is the date
of its number (`ofDayNumber_dayNumber`).

An instant of the calendar splits into a day number and a time of that day, so it has exactly one unzoned
timestamp: `ofInstant?` finds it (`exists_ofInstant?`), and two of one instant are the same
(`eq_of_localMicros_eq`). From this the universal reading of a timestamp is the unzoned timestamp of its
instant (`exists_toUniversal?`), and it depends on nothing but the instant (`toUniversal?_eq_of_instant_eq`). -/

namespace SearchTables

namespace Calendar

/-! ## Years -/

/-- A year is a leap year when it is the last of four, and then the last of a hundred only if it is the last
of four hundred. -/
theorem isLeap_iff (year : Nat) :
    isLeap year = true ↔ year % 4 = 0 ∧ (year % 100 ≠ 0 ∨ year % 400 = 0) := by
  simp [isLeap]

/-- A leap year has 366 days. -/
theorem daysInYear_of_isLeap {year : Nat} (h : isLeap year = true) : daysInYear year = 366 := by
  rw [daysInYear, if_pos h]

/-- A year that is no leap year has 365 days. -/
theorem daysInYear_of_not_isLeap {year : Nat} (h : isLeap year = false) : daysInYear year = 365 := by
  rw [daysInYear, h]
  rfl

/-- Whole cycles end with the years that they divide. -/
theorem div_of_pred {year : Nat} (hyear : 1 ≤ year) (cycle : Nat) :
    year / cycle = (year - 1) / cycle + if year % cycle = 0 then 1 else 0 := by
  obtain ⟨past, rfl⟩ := Nat.exists_eq_add_of_le' hyear
  rw [Nat.succ_div, Nat.add_sub_cancel]
  simp only [Nat.dvd_iff_mod_eq_zero]

/-- **A year starts where the one before it ends.** -/
theorem daysBeforeYear_succ {year : Nat} (h : 1 ≤ year) :
    daysBeforeYear (year + 1) = daysBeforeYear year + daysInYear year := by
  unfold daysBeforeYear
  dsimp only
  rw [Nat.add_sub_cancel, div_of_pred h 4, div_of_pred h 100, div_of_pred h 400]
  have hle : (year - 1) / 100 ≤ (year - 1) / 4 := Nat.div_le_div_left (by omega) (by omega)
  cases hleap : isLeap year with
  | true =>
      obtain ⟨hfour, hlong⟩ := (isLeap_iff year).1 hleap
      rw [daysInYear_of_isLeap hleap, if_pos hfour]
      split <;> split <;> omega
  | false =>
      have hnot := mt (isLeap_iff year).2 (by simp [hleap])
      rw [daysInYear_of_not_isLeap hleap]
      -- the fourth part grows only where the hundredth part takes it back
      by_cases hfour : year % 4 = 0
      · have hhundred : year % 100 = 0 ∧ year % 400 ≠ 0 := by omega
        rw [if_pos hfour, if_pos hhundred.1, if_neg hhundred.2]
        omega
      · have hhundred : year % 100 ≠ 0 := by omega
        have hfourHundred : year % 400 ≠ 0 := by omega
        rw [if_neg hfour, if_neg hhundred, if_neg hfourHundred]
        omega

/-- Years come one after the other. -/
theorem daysBeforeYear_le {first year : Nat} (hfirst : 1 ≤ first) (h : first ≤ year) :
    daysBeforeYear first ≤ daysBeforeYear year := by
  induction h with
  | refl => exact Nat.le_refl _
  | @step year hle ih =>
      have hsucc := daysBeforeYear_succ (Nat.le_trans hfirst hle)
      show daysBeforeYear first ≤ daysBeforeYear (year + 1)
      omega

/-- No day falls into two years. -/
theorem year_unique {year year' rest rest' : Nat} (hyear : 1 ≤ year) (hyear' : 1 ≤ year')
    (hrest : rest < daysInYear year) (hrest' : rest' < daysInYear year')
    (h : daysBeforeYear year + rest = daysBeforeYear year' + rest') : year = year' ∧ rest = rest' := by
  rcases Nat.lt_trichotomy year year' with hlt | rfl | hlt
  · have hsucc := daysBeforeYear_succ hyear
    have hle := daysBeforeYear_le (by omega : 1 ≤ year + 1) hlt
    omega
  · exact ⟨rfl, by omega⟩
  · have hsucc := daysBeforeYear_succ hyear'
    have hle := daysBeforeYear_le (by omega : 1 ≤ year' + 1) hlt
    omega

/-- The days before a year that lies some cycles after the first one. -/
theorem daysBeforeYear_cycles (cycles400 : Nat) {cycles100 cycles4 years : Nat} (h100 : cycles100 ≤ 3)
    (h4 : cycles4 ≤ 24) (hyears : years ≤ 3) :
    daysBeforeYear (cycles400 * 400 + cycles100 * 100 + cycles4 * 4 + years + 1) =
      cycles400 * 146097 + cycles100 * 36524 + cycles4 * 1461 + years * 365 := by
  let past := cycles400 * 400 + cycles100 * 100 + cycles4 * 4 + years
  have hfours : past / 4 = cycles400 * 100 + cycles100 * 25 + cycles4 := by omega
  have hhundreds : past / 100 = cycles400 * 4 + cycles100 := by omega
  have hfourHundreds : past / 400 = cycles400 := by omega
  show past * 365 + past / 4 - past / 100 + past / 400 = _
  rw [hfours, hhundreds, hfourHundreds]
  omega

/-- Counting off some cycles at most leaves less than a cycle, or all of them were counted off. -/
theorem countOff (days most : Nat) {cycle : Nat} (h : 0 < cycle) :
    min (days / cycle) most * cycle + (days - min (days / cycle) most * cycle) = days ∧
      (days - min (days / cycle) most * cycle < cycle ∨ min (days / cycle) most = most) := by
  have hsplit := Nat.div_add_mod' days cycle
  have hlt := Nat.mod_lt days h
  by_cases hmost : days / cycle ≤ most
  · rw [Nat.min_eq_left hmost]
    omega
  · have hle : most * cycle ≤ days / cycle * cycle := Nat.mul_le_mul_right cycle (by omega)
    rw [Nat.min_eq_right (by omega)]
    omega

/-- Counting off cycles, a day number falls into a year. -/
theorem exists_year (number : Nat) :
    ∃ year rest, 1 ≤ year ∧ rest < daysInYear year ∧ number - 1 = daysBeforeYear year + rest ∧
      Date.ofDayNumber number =
        ⟨year, (monthOfDay (monthLengths year) 1 rest).1, (monthOfDay (monthLengths year) 1 rest).2 + 1⟩ := by
  unfold Date.ofDayNumber
  dsimp only
  generalize number - 1 = days
  -- each kind of cycle is counted in what the longer ones leave, and only its count and rest matter then
  have h400 := Nat.div_add_mod days 146097
  have hafter400 := Nat.mod_lt days (by omega : 146097 > 0)
  generalize days / 146097 = cycles400, days % 146097 = after400 at *
  have hmost100 : min (after400 / 36524) 3 ≤ 3 := Nat.min_le_right ..
  obtain ⟨h100, hafter100⟩ := countOff after400 3 (by omega : 0 < 36524)
  generalize min (after400 / 36524) 3 = cycles100 at *
  generalize after400 - cycles100 * 36524 = after100 at *
  have h4 := Nat.div_add_mod after100 1461
  have hafter4 := Nat.mod_lt after100 (by omega : 1461 > 0)
  generalize after100 / 1461 = cycles4, after100 % 1461 = after4 at *
  have hmost1 : min (after4 / 365) 3 ≤ 3 := Nat.min_le_right ..
  obtain ⟨h1, hafter1⟩ := countOff after4 3 (by omega : 0 < 365)
  generalize min (after4 / 365) 3 = years at *
  generalize after4 - years * 365 = rest at *
  have hmost4 : cycles4 ≤ 24 := by omega
  have hbefore := daysBeforeYear_cycles cycles400 hmost100 hmost4 hmost1
  refine ⟨_, rest, Nat.le_add_left 1 _, ?_, by omega, rfl⟩
  by_cases hlast : rest = 365
  · -- only the last day of four years is left over, and those end with a leap year
    have hleap : isLeap (cycles400 * 400 + cycles100 * 100 + cycles4 * 4 + years + 1) = true := by
      have hthree : years = 3 := by omega
      have hkept : cycles4 = 24 → cycles100 = 3 := by omega
      rw [isLeap_iff, hthree]
      clear h400 h100 h4 h1
      omega
    rw [daysInYear_of_isLeap hleap]
    omega
  · have hshort : rest < 365 := by omega
    unfold daysInYear
    split <;> omega

/-! ## Months -/

/-- The days of several months. -/
def daysOf : List Nat → Nat
  | [] => 0
  | length :: lengths => length + daysOf lengths

/-- The days of several months are those that are counted one month after the other. -/
theorem foldl_add_eq (lengths : List Nat) (n : Nat) : lengths.foldl (· + ·) n = n + daysOf lengths := by
  induction lengths generalizing n with
  | nil => rfl
  | cons length lengths ih => rw [List.foldl_cons, ih, daysOf, Nat.add_assoc]

/-- A year has the days of its months. -/
theorem daysOf_monthLengths (year : Nat) : daysOf (monthLengths year) = daysInYear year := by
  unfold monthLengths daysInYear
  split <;> rfl

/-- Before a month are the days of the months before it. -/
theorem daysBeforeMonth_eq (year month : Nat) :
    daysBeforeMonth year month = daysOf ((monthLengths year).take (month - 1)) := by
  rw [daysBeforeMonth, foldl_add_eq, Nat.zero_add]

/-- A day of a month is found in that month. -/
theorem monthOfDay_add {lengths : List Nat} {i day : Nat} (hi : i < lengths.length) (hday : day < lengths[i])
    (month : Nat) : monthOfDay lengths month (daysOf (lengths.take i) + day) = (month + i, day) := by
  induction lengths generalizing i month with
  | nil => cases hi
  | cons length lengths ih =>
      cases i with
      | zero =>
          have hlt : day < length := hday
          simp [monthOfDay, daysOf, hlt]
      | succ i =>
          have hlater := ih (Nat.lt_of_succ_lt_succ hi) hday (month + 1)
          have hnot : ¬length + daysOf (lengths.take i) + day < length := by omega
          have hrest : length + daysOf (lengths.take i) + day - length = daysOf (lengths.take i) + day := by omega
          have hmonth : month + 1 + i = month + (i + 1) := by omega
          rw [List.take_succ_cons, daysOf, monthOfDay, if_neg hnot, hrest, hlater, hmonth]

/-- Every day of a year falls into a month. -/
theorem exists_month {lengths : List Nat} {rest : Nat} (h : rest < daysOf lengths) :
    ∃ (i : Nat) (hi : i < lengths.length) (day : Nat), day < lengths[i] ∧ rest = daysOf (lengths.take i) + day := by
  induction lengths generalizing rest with
  | nil => cases h
  | cons length lengths ih =>
      rw [daysOf] at h
      by_cases hfirst : rest < length
      · exact ⟨0, Nat.zero_lt_succ _, rest, hfirst, (Nat.zero_add rest).symm⟩
      · obtain ⟨i, hi, day, hday, hrest⟩ := ih (by omega : rest - length < daysOf lengths)
        refine ⟨i + 1, Nat.succ_lt_succ hi, day, hday, ?_⟩
        rw [List.take_succ_cons, daysOf]
        omega

/-- The months before a day, and the days of its month, are no more than the year has. -/
theorem daysOf_take_add_lt {lengths : List Nat} {i day : Nat} (hi : i < lengths.length) (hday : day < lengths[i]) :
    daysOf (lengths.take i) + day < daysOf lengths := by
  induction lengths generalizing i with
  | nil => cases hi
  | cons length lengths ih =>
      cases i with
      | zero =>
          have hlt : day < length := hday
          rw [List.take_zero, daysOf, daysOf]
          omega
      | succ i =>
          have hlater := ih (Nat.lt_of_succ_lt_succ hi) hday
          rw [List.take_succ_cons, daysOf, daysOf]
          omega

end Calendar

/-! ## Dates -/

namespace Date

open Calendar

/-- A date lies in a month of its year: the day is one of those of the month. -/
theorem Valid.exists_place {d : Date} (h : d.Valid) :
    ∃ hi : d.month - 1 < (monthLengths d.year).length, d.day - 1 < (monthLengths d.year)[d.month - 1] ∧
      d.dayNumber - 1 =
        daysBeforeYear d.year + (daysOf ((monthLengths d.year).take (d.month - 1)) + (d.day - 1)) := by
  obtain ⟨-, -, hmonth, hmonths, hday, hdays⟩ := h
  have hi : d.month - 1 < (monthLengths d.year).length := by
    have hlength : (monthLengths d.year).length = 12 := rfl
    omega
  rw [daysInMonth, List.getElem?_eq_getElem hi, Option.getD_some] at hdays
  refine ⟨hi, by omega, ?_⟩
  rw [dayNumber, daysBeforeMonth_eq]
  omega

/-- **A date is the date of its day number.** -/
theorem ofDayNumber_dayNumber {d : Date} (h : d.Valid) : ofDayNumber d.dayNumber = d := by
  obtain ⟨hi, hday, hnumber⟩ := h.exists_place
  obtain ⟨year, rest, hyear, hrest, hsplit, hdate⟩ := exists_year d.dayNumber
  -- the day falls into its own year, so that is the year that counting off finds
  have hinside := daysOf_take_add_lt hi hday
  rw [daysOf_monthLengths] at hinside
  obtain ⟨rfl, rfl⟩ := year_unique hyear h.1 hrest hinside (hsplit.symm.trans hnumber)
  obtain ⟨-, -, hmonth, -, hfirst, -⟩ := h
  have hmonths : 1 + (d.month - 1) = d.month := by omega
  have hdays : d.day - 1 + 1 = d.day := by omega
  rw [hdate, monthOfDay_add hi hday, hmonths, hdays]

/-- The dates of the calendar have the day numbers of the calendar. -/
theorem Valid.dayNumber_mem {d : Date} (h : d.Valid) : 1 ≤ d.dayNumber ∧ d.dayNumber ≤ lastDayNumber := by
  obtain ⟨hi, hday, hnumber⟩ := h.exists_place
  have hinside := daysOf_take_add_lt hi hday
  rw [daysOf_monthLengths] at hinside
  have hsucc := daysBeforeYear_succ h.1
  have hend : daysBeforeYear 10000 = 3652059 := rfl
  have hlast : d.year + 1 ≤ 10000 := Nat.succ_le_succ h.2.1
  have hle : daysBeforeYear (d.year + 1) ≤ daysBeforeYear 10000 := daysBeforeYear_le (by omega) hlast
  have hfirst : d.day ≤ d.dayNumber := Nat.le_add_left ..
  have hpos := h.2.2.2.2.1
  unfold lastDayNumber
  omega

/-- A day number of the calendar is that of a date. -/
theorem exists_ofDayNumber {number : Nat} (hfirst : 1 ≤ number) (hlast : number ≤ lastDayNumber) :
    (ofDayNumber number).Valid ∧ (ofDayNumber number).dayNumber = number := by
  obtain ⟨year, rest, hyear, hrest, hsplit, hdate⟩ := exists_year number
  rw [← daysOf_monthLengths] at hrest
  obtain ⟨i, hi, day, hday, rfl⟩ := exists_month hrest
  rw [monthOfDay_add hi hday] at hdate
  have htwelve : i < 12 := hi
  have hlastYear : year ≤ lastYear := by
    -- the year after the last one starts too late
    have hend : daysBeforeYear 10000 = 3652059 := rfl
    have hle : 10000 ≤ year → daysBeforeYear 10000 ≤ daysBeforeYear year := daysBeforeYear_le (by omega)
    unfold lastDayNumber at hlast
    unfold lastYear
    omega
  have hmonth : 1 + i - 1 = i := by omega
  rw [hdate]
  constructor
  · refine ⟨hyear, hlastYear, Nat.le_add_right 1 i, (by omega : 1 + i ≤ 12), Nat.le_add_left 1 day, ?_⟩
    dsimp only
    rw [daysInMonth, hmonth, List.getElem?_eq_getElem hi, Option.getD_some]
    omega
  · rw [dayNumber, daysBeforeMonth_eq]
    dsimp only
    rw [hmonth]
    omega

/-- **The date of a day number exists.** -/
theorem valid_ofDayNumber {number : Nat} (hfirst : 1 ≤ number) (hlast : number ≤ lastDayNumber) :
    (ofDayNumber number).Valid :=
  (exists_ofDayNumber hfirst hlast).1

/-- **The date of a day number has that number.** -/
theorem dayNumber_ofDayNumber {number : Nat} (hfirst : 1 ≤ number) (hlast : number ≤ lastDayNumber) :
    (ofDayNumber number).dayNumber = number :=
  (exists_ofDayNumber hfirst hlast).2

end Date

/-! ## Times of day -/

namespace TimeOfDay

/-- Putting a time together undoes taking it apart. -/
theorem micros_ofMicros (n : Nat) : (ofMicros n).micros = n := by
  simp only [ofMicros, micros]
  omega

/-- The microseconds of a day are those of its times. -/
theorem valid_ofMicros {n : Nat} (h : n < Calendar.dayMicros) : (ofMicros n).Valid := by
  unfold Calendar.dayMicros at h
  simp only [Valid, ofMicros]
  omega

/-- A time is less than a day after midnight. -/
theorem Valid.micros_lt {t : TimeOfDay} (h : t.Valid) : t.micros < Calendar.dayMicros := by
  obtain ⟨hhour, hminute, hsecond, hmicrosecond⟩ := h
  unfold micros Calendar.dayMicros
  omega

end TimeOfDay

/-! ## Instants -/

namespace DateTime

/-- Whether a timestamp has a date of the calendar and a time of day. -/
def Valid (t : DateTime) : Prop := t.date.Valid ∧ t.time.Valid

instance (t : DateTime) : Decidable t.Valid := inferInstanceAs (Decidable (_ ∧ _))

/-- Whether the moment of a timestamp lies in the years of the calendar. -/
def InCalendar (t : DateTime) : Prop :=
  (Calendar.dayMicros : Int) ≤ t.instant ∧ t.instant < (Calendar.lastDayNumber + 1) * Calendar.dayMicros

instance (t : DateTime) : Decidable t.InCalendar := inferInstanceAs (Decidable (_ ∧ _))

/-- The local reading of a timestamp splits into its day number and its time. -/
theorem Valid.ediv_localMicros {t : DateTime} (h : t.Valid) :
    t.localMicros / Calendar.dayMicros = t.date.dayNumber ∧
      t.localMicros % Calendar.dayMicros = t.time.micros := by
  have hlt := h.2.micros_lt
  unfold localMicros
  unfold Calendar.dayMicros at *
  omega

/-- **Timestamps of one zone are equal when their local readings are.** -/
theorem eq_of_localMicros_eq {t u : DateTime} (ht : t.Valid) (hu : u.Valid) (hoffset : t.offset = u.offset)
    (h : t.localMicros = u.localMicros) : t = u := by
  obtain ⟨htday, httime⟩ := ht.ediv_localMicros
  obtain ⟨huday, hutime⟩ := hu.ediv_localMicros
  rw [h] at htday httime
  have hday : t.date.dayNumber = u.date.dayNumber := Int.ofNat.inj (htday.symm.trans huday)
  have htime : t.time.micros = u.time.micros := Int.ofNat.inj (httime.symm.trans hutime)
  have hdate : t.date = u.date := by
    rw [← Date.ofDayNumber_dayNumber ht.1, hday, Date.ofDayNumber_dayNumber hu.1]
  have hclock : t.time = u.time := by
    rw [← TimeOfDay.ofMicros_micros ht.2, htime, TimeOfDay.ofMicros_micros hu.2]
  cases t
  cases u
  simp only at hdate hclock hoffset
  rw [hdate, hclock, hoffset]

/-- **Every instant of the calendar has an unzoned timestamp.** -/
theorem exists_ofInstant? {n : Int} (hfirst : (Calendar.dayMicros : Int) ≤ n)
    (hlast : n < (Calendar.lastDayNumber + 1) * Calendar.dayMicros) :
    ∃ u, ofInstant? n = some u ∧ u.offset = none ∧ u.Valid ∧ u.localMicros = n := by
  have hday : 1 ≤ n / Calendar.dayMicros ∧ n / Calendar.dayMicros ≤ Calendar.lastDayNumber := by
    unfold Calendar.dayMicros at *
    omega
  have hnumber : ((n / Calendar.dayMicros).toNat : Int) = n / Calendar.dayMicros := by omega
  have hrest : (n % Calendar.dayMicros).toNat < Calendar.dayMicros ∧
      ((n % Calendar.dayMicros).toNat : Int) = n % Calendar.dayMicros := by
    unfold Calendar.dayMicros
    omega
  refine ⟨⟨Date.ofDayNumber (n / Calendar.dayMicros).toNat,
    TimeOfDay.ofMicros (n % Calendar.dayMicros).toNat, none⟩, if_pos hday, rfl, ⟨?_, ?_⟩, ?_⟩
  · exact Date.valid_ofDayNumber (by omega) (by omega)
  · exact TimeOfDay.valid_ofMicros hrest.1
  · have hdate := Date.dayNumber_ofDayNumber (by omega : 1 ≤ (n / Calendar.dayMicros).toNat) (by omega)
    rw [localMicros, hdate, TimeOfDay.micros_ofMicros, hnumber, hrest.2, Int.mul_comm]
    exact Int.mul_ediv_add_emod n _

/-- The moment of an unzoned timestamp is its local reading. -/
theorem instant_of_unzoned {t : DateTime} (h : t.offset = none) : t.instant = t.localMicros := by
  rw [instant, h, Option.getD_none, Int.sub_zero]

/-- **The universal reading of a timestamp is the unzoned timestamp of its instant**, and an unzoned
timestamp is its own. -/
theorem exists_toUniversal? {t : DateTime} (h : t.Valid) (hinside : t.InCalendar) :
    ∃ u, t.toUniversal? = some u ∧ u.offset = none ∧ u.Valid ∧ u.instant = t.instant ∧
      (t.offset = none → u = t) := by
  unfold toUniversal?
  cases hoffset : t.offset with
  | none => exact ⟨t, rfl, hoffset, h, rfl, fun _ => rfl⟩
  | some offset =>
      obtain ⟨u, hu, hunzoned, hvalid, hlocal⟩ := exists_ofInstant? hinside.1 hinside.2
      exact ⟨u, hu, hunzoned, hvalid, (instant_of_unzoned hunzoned).trans hlocal, nofun⟩

/-- The moment of an unzoned timestamp lies in the calendar. -/
theorem inCalendar_of_unzoned {t : DateTime} (h : t.Valid) (hoffset : t.offset = none) : t.InCalendar := by
  obtain ⟨hfirst, hlast⟩ := h.1.dayNumber_mem
  have htime := h.2.micros_lt
  rw [InCalendar, instant_of_unzoned hoffset, localMicros]
  unfold Calendar.dayMicros at *
  omega

/-- Timestamps of one moment of the calendar have one universal reading. -/
theorem toUniversal?_eq_of_inCalendar {t u : DateTime} (ht : t.Valid) (hu : u.Valid) (hinside : t.InCalendar)
    (h : t.instant = u.instant) : t.toUniversal? = u.toUniversal? := by
  have hinside' : u.InCalendar := by
    rw [InCalendar, ← h]
    exact hinside
  obtain ⟨t', ht', htzone, htvalid, htinstant, -⟩ := exists_toUniversal? ht hinside
  obtain ⟨u', hu', huzone, huvalid, huinstant, -⟩ := exists_toUniversal? hu hinside'
  have hlocal : t'.localMicros = u'.localMicros := by
    rw [← instant_of_unzoned htzone, ← instant_of_unzoned huzone, htinstant, huinstant, h]
  rw [ht', hu', eq_of_localMicros_eq htvalid huvalid (htzone.trans huzone.symm) hlocal]

/-- **Timestamps of one moment have one universal reading**, or both have none. -/
theorem toUniversal?_eq_of_instant_eq {t u : DateTime} (ht : t.Valid) (hu : u.Valid)
    (h : t.instant = u.instant) : t.toUniversal? = u.toUniversal? := by
  cases htoffset : t.offset with
  | none => exact toUniversal?_eq_of_inCalendar ht hu (inCalendar_of_unzoned ht htoffset) h
  | some offset =>
      cases huoffset : u.offset with
      | none => exact (toUniversal?_eq_of_inCalendar hu ht (inCalendar_of_unzoned hu huoffset) h.symm).symm
      | some offset' =>
          -- the readings of zoned timestamps are by definition those of their instants
          simp only [toUniversal?, htoffset, huoffset, h]

end DateTime

end SearchTables
