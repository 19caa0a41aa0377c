import SearchTables.Proofs.Calendar.Instants
import SearchTables.Proofs.Decimal.Rounding
import SearchTables.Row.Cell

/-! # Epoch milliseconds — what is lost on the way through a double

A number of milliseconds becomes a number of seconds, which is a double, and that is taken apart into whole
microseconds. Taking it apart loses nothing that counts: the milliseconds come back exactly when the double
is within half a microsecond of them (`microsOfSeconds_eq_iff`). A double of seconds has room for the
milliseconds of nearly three centuries on either side of the epoch (`loss_le_half`). Further out it is up to
fifteen microseconds off (`abs_signedMicros_sub_le`), which is less than half of what lies between two
numbers of milliseconds, so their order is kept and no moment leaves the calendar or gets into it. -/

namespace SearchTables

namespace Calendar

/-! ## Seconds into microseconds -/

/-- The microseconds of a number of seconds before they are rounded to whole ones. -/
def scaledMicros (seconds : Dyadic) : ℚ :=
  1000000 * (seconds.num / seconds.den : Nat) +
    (nearestDyadic (seconds.num % seconds.den * 1000000) seconds.den).value

section

variable (d : Dyadic)

/-- A number of seconds is its whole seconds and the rest. -/
theorem value_eq_whole_add_rest : d.value = (d.num / d.den : Nat) + (d.num % d.den : Nat) / (d.den : ℚ) := by
  have hpos : (d.den : ℚ) ≠ 0 := Nat.cast_ne_zero.2 d.den_pos.ne'
  have hsplit : (d.num : ℚ) = (d.num / d.den : Nat) * d.den + (d.num % d.den : Nat) := by
    exact_mod_cast (Nat.div_add_mod' d.num d.den).symm
  rw [← d.num_div_den, add_div' _ _ _ hpos, ← hsplit]

/-- The microseconds that come out are the even number within half a one of the scaled ones. -/
theorem microsOfSeconds_eq_iff_scaled {q : ℤ} (heven : q % 2 = 0) :
    (microsOfSeconds d : ℤ) = q ↔ |(q : ℚ) - scaledMicros d| ≤ 1 / 2 := by
  unfold microsOfSeconds scaledMicros
  dsimp only
  generalize d.num / d.den = whole, nearestDyadic (d.num % d.den * 1000000) d.den = rest
  have hshift : ((q - (whole * 1000000 : Nat) : ℤ) : ℚ) - rest.value = q - (1000000 * whole + rest.value) := by
    push_cast
    ring
  rw [Nat.cast_add, ← eq_sub_iff_add_eq', roundHalfEven_eq_iff rest.den_pos (by omega), Dyadic.num_div_den,
    hshift]

/-- The microseconds that come out are within half a one of the scaled ones. -/
theorem abs_microsOfSeconds_sub_scaled_le : |(microsOfSeconds d : ℚ) - scaledMicros d| ≤ 1 / 2 := by
  unfold microsOfSeconds scaledMicros
  dsimp only
  generalize d.num / d.den = whole, nearestDyadic (d.num % d.den * 1000000) d.den = rest
  have hround := abs_roundHalfEven_sub_le rest.num rest.den_pos
  rw [Dyadic.num_div_den] at hround
  rw [Nat.cast_add, Nat.cast_mul, Nat.cast_ofNat, mul_comm, add_sub_add_left_eq_sub]
  exact hround

/-- Scaling moves the microseconds by next to nothing. -/
theorem abs_scaledMicros_sub_le : |scaledMicros d - 1000000 * d.value| ≤ 1 / 2 ^ 32 := by
  have hpos : (0 : ℚ) < d.den := Nat.cast_pos.2 d.den_pos
  have hrest : ((d.num % d.den * 1000000 : Nat) : ℚ) / d.den ≤ 1000000 := by
    rw [div_le_iff₀ hpos]
    have hlt : d.num % d.den ≤ d.den := (Nat.mod_lt _ d.den_pos).le
    exact_mod_cast (by omega : d.num % d.den * 1000000 ≤ 1000000 * d.den)
  have hsmallest : (2 : ℚ) ^ Dyadic.minExponent ≤ 2 ^ (-34 : ℤ) :=
    zpow_le_zpow_right₀ (by norm_num) (by decide)
  have herror := abs_value_nearestDyadic_sub_le_relative (d.num % d.den * 1000000) d.den_pos
  have hsplit : scaledMicros d - 1000000 * d.value =
      (nearestDyadic (d.num % d.den * 1000000) d.den).value - (d.num % d.den * 1000000 : Nat) / (d.den : ℚ) := by
    rw [value_eq_whole_add_rest, scaledMicros]
    push_cast
    ring
  rw [hsplit]
  generalize ((d.num % d.den * 1000000 : Nat) : ℚ) / d.den = quotient at *
  norm_num at hsmallest herror ⊢
  linarith

/-- Scaling does not move the microseconds of a double with few places behind the point. -/
theorem scaledMicros_eq {d : Dyadic} (h : -38 ≤ d.exponent) : scaledMicros d = 1000000 * d.value := by
  have hden : d.den ≤ 2 ^ 38 := Nat.pow_le_pow_right (by decide) (by omega)
  have hrest : d.num % d.den < 2 ^ 38 := lt_of_lt_of_le (Nat.mod_lt _ d.den_pos) hden
  have hplaces : ((d.den : ℕ) : ℚ) = 2 ^ ((-d.exponent).toNat : ℤ) := by
    rw [Dyadic.den, Nat.pow_eq, zpow_natCast]
    push_cast
    rfl
  -- a million has fourteen bits before its zeros
  have hfits : ((d.num % d.den * 1000000 : Nat) : ℚ) / d.den =
      (d.num % d.den * 15625 : Nat) * 2 ^ (6 - ((-d.exponent).toNat : ℤ)) := by
    rw [hplaces, zpow_sub₀ (by norm_num)]
    push_cast
    ring
  have hscaled := value_nearestDyadic_of_fits d.den_pos (by omega)
    (by rw [Dyadic.minExponent]; omega) hfits
  rw [scaledMicros, hscaled, value_eq_whole_add_rest]
  push_cast
  ring

end

/-! ## Milliseconds into seconds -/

/-- The double nearest to the seconds in a number of milliseconds, without its sign. -/
def secondsOfMillis (m : Int) : Dyadic := nearestDyadic m.natAbs 1000

/-- How many microseconds that double is away from the milliseconds. -/
def lossOfMillis (m : Int) : ℚ := |1000000 * (secondsOfMillis m).value - 1000 * m.natAbs|

section

variable {m : Int}

/-- The loss is what the double is away from the quotient. -/
theorem lossOfMillis_eq (m : Int) :
    lossOfMillis m = 1000000 * |(nearestDyadic m.natAbs 1000).value - (m.natAbs : ℚ) / (1000 : Nat)| := by
  have hscaled : (1000000 : ℚ) = |1000000| := by norm_num
  rw [lossOfMillis, secondsOfMillis]
  conv_rhs => rw [hscaled, ← abs_mul]
  congr 1
  push_cast
  ring

/-- The exponent of the seconds is the unit of the quotient. -/
theorem exponent_secondsOfMillis (h : 0 < m.natAbs) :
    (secondsOfMillis m).exponent = unitExponent m.natAbs 1000 := by
  rw [secondsOfMillis, nearestDyadic, if_neg h.ne']

/-- **The loss is half a unit of the last place at most.** -/
theorem lossOfMillis_le_of_lt {p : Int} (hp : -1021 ≤ p) (h : (m.natAbs : ℚ) < 1000 * 2 ^ p) :
    lossOfMillis m ≤ 500000 * 2 ^ (p - 53) := by
  rcases Nat.eq_zero_or_pos m.natAbs with hzero | hpos
  · have hlost : lossOfMillis m = 0 := by simp [lossOfMillis_eq, hzero, nearestDyadic, Dyadic.value]
    rw [hlost]
    positivity
  · have hlt : ((m.natAbs : ℚ) / (1000 : Nat)) < 2 ^ p := by
      rw [div_lt_iff₀ (by norm_num), mul_comm]
      exact_mod_cast h
    have hunit : unitExponent m.natAbs 1000 ≤ p - 53 := by
      have hle := unitExponent_le hpos (by norm_num) hlt
      have hmax : max (p - 53) Dyadic.minExponent = p - 53 := max_eq_left (by rw [Dyadic.minExponent]; omega)
      omega
    have hpow : (2 : ℚ) ^ unitExponent m.natAbs 1000 ≤ 2 ^ (p - 53) := zpow_le_zpow_right₀ (by norm_num) hunit
    have herror := abs_value_nearestDyadic_sub_le hpos (by norm_num : 0 < 1000)
    rw [lossOfMillis_eq]
    linarith

/-- The loss is a small part of the milliseconds at most. -/
theorem lossOfMillis_le (m : Int) : lossOfMillis m ≤ 1000 * m.natAbs / 2 ^ 53 + 1 / 4 := by
  have herror := abs_value_nearestDyadic_sub_le_relative m.natAbs (by norm_num : 0 < 1000)
  have hsmallest : (2 : ℚ) ^ Dyadic.minExponent ≤ 2 ^ (-22 : ℤ) :=
    zpow_le_zpow_right₀ (by norm_num) (by decide)
  rw [lossOfMillis_eq]
  norm_num at hsmallest herror ⊢
  linarith

/-- **An eighth of a second is lost nowhere**, as doubles have room for its multiples. -/
theorem lossOfMillis_of_dvd (hm : m.natAbs < 2 ^ 53) (h : 125 ∣ m) : lossOfMillis m = 0 := by
  obtain ⟨k, hk⟩ : 125 ∣ m.natAbs := Int.natCast_dvd.1 h
  have hfits : (m.natAbs : ℚ) / (1000 : Nat) = k * 2 ^ (-3 : ℤ) := by
    rw [hk]
    push_cast
    norm_num
    ring
  have hexact := value_nearestDyadic_of_fits (by norm_num : 0 < 1000) (by omega : k < 2 ^ 53)
    (by decide) hfits
  rw [lossOfMillis_eq, hexact, sub_self, abs_zero, mul_zero]

/-- **Nothing that counts is lost in the first `2 ^ 33` seconds.** -/
theorem lossOfMillis_le_half (h : m.natAbs ≤ 2 ^ 33 * 1000) : lossOfMillis m ≤ 1 / 2 := by
  rcases Nat.lt_or_eq_of_le h with hlt | heq
  · have hrat : (m.natAbs : ℚ) < 1000 * 2 ^ (33 : ℤ) := by
      have hcast : (m.natAbs : ℚ) < 2 ^ 33 * 1000 := by exact_mod_cast hlt
      norm_num at hcast ⊢
      linarith
    refine (lossOfMillis_le_of_lt (by norm_num) hrat).trans ?_
    norm_num
  · rw [lossOfMillis_of_dvd (by omega) (by omega)]
    norm_num

/-- The scaled microseconds are as far off as the double, and next to nothing more. -/
theorem abs_scaledMicros_sub_millis_le (m : Int) :
    |scaledMicros (secondsOfMillis m) - 1000 * m.natAbs| ≤ 1 / 2 ^ 32 + lossOfMillis m :=
  (abs_sub_le _ (1000000 * (secondsOfMillis m).value) _).trans
    (add_le_add_left (abs_scaledMicros_sub_le _) _)

/-- **The milliseconds come back exactly when the double is within half a microsecond of them.** -/
theorem microsOfSeconds_eq_iff (m : Int) :
    (microsOfSeconds (secondsOfMillis m) : ℤ) = 1000 * m.natAbs ↔ lossOfMillis m ≤ 1 / 2 := by
  rw [microsOfSeconds_eq_iff_scaled _ (by omega), Int.cast_mul, Int.cast_ofNat, Int.cast_natCast, abs_sub_comm]
  by_cases hfew : -38 ≤ (secondsOfMillis m).exponent
  · rw [scaledMicros_eq hfew, lossOfMillis]
  · -- so few seconds have a double so near that both sides hold
    have hsmall : lossOfMillis m ≤ 500000 * 2 ^ ((14 : ℤ) - 53) := by
      refine lossOfMillis_le_of_lt (by norm_num) (lt_of_not_ge fun hle => hfew ?_)
      have hpos : 0 < m.natAbs := by
        rw [Nat.pos_iff_ne_zero]
        intro hzero
        rw [hzero] at hle
        norm_num at hle
      have hquotient : (2 : ℚ) ^ (14 : ℤ) ≤ m.natAbs / (1000 : Nat) := by
        rw [le_div_iff₀ (by norm_num), mul_comm]
        exact_mod_cast hle
      have hunit := le_unitExponent hpos (by norm_num) hquotient
      rw [exponent_secondsOfMillis hpos]
      omega
    have hnear := abs_scaledMicros_sub_millis_le m
    norm_num at hsmall
    exact iff_of_true (by linarith) (by linarith)

/-- The microseconds that come out are as far off as the double, and half a one more at most. -/
theorem abs_microsOfSeconds_sub_le (m : Int) :
    |(microsOfSeconds (secondsOfMillis m) : ℚ) - 1000 * m.natAbs| ≤
      1 / 2 + (1 / 2 ^ 32 + lossOfMillis m) :=
  (abs_sub_le _ (scaledMicros (secondsOfMillis m)) _).trans
    (add_le_add (abs_microsOfSeconds_sub_scaled_le _) (abs_scaledMicros_sub_millis_le m))

end

/-! ## Moments -/

/-- The moment a number of milliseconds after the epoch. -/
def instantOfMillis (m : Int) : Int := epoch + 1000 * m

/-- Whether a moment lies in the years of the calendar. -/
def Spans (n : Int) : Prop := (dayMicros : Int) ≤ n ∧ n < (lastDayNumber + 1) * dayMicros

instance (n : Int) : Decidable (Spans n) := inferInstanceAs (Decidable (_ ∧ _))

/-- The calendar in milliseconds. -/
theorem spans_instantOfMillis_iff {m : Int} :
    Spans (instantOfMillis m) ↔ -62135596800000 ≤ m ∧ m < 253402300800000 := by
  unfold Spans instantOfMillis epoch dayMicros lastDayNumber
  omega

/-- The microseconds after the epoch to which milliseconds are decoded. -/
def microsOfMillis (m : Int) : Int :=
  if m < 0 then -microsOfSeconds (secondsOfMillis m) else microsOfSeconds (secondsOfMillis m)

section

variable {m : Int}

/-- The sign makes no difference to what comes back. -/
theorem microsOfMillis_eq_iff (m : Int) : microsOfMillis m = 1000 * m ↔ lossOfMillis m ≤ 1 / 2 := by
  rw [← microsOfSeconds_eq_iff, microsOfMillis]
  split_ifs <;> omega

/-- The sign makes no difference to how far off they are. -/
theorem abs_microsOfMillis_sub_le (m : Int) :
    |(microsOfMillis m : ℚ) - 1000 * m| ≤ 1 / 2 + (1 / 2 ^ 32 + lossOfMillis m) := by
  have hnear := abs_microsOfSeconds_sub_le m
  rw [microsOfMillis]
  generalize microsOfSeconds (secondsOfMillis m) = micros at *
  rcases lt_or_ge m 0 with hneg | hpos
  · have habs : (m.natAbs : ℚ) = -m := by
      rw [← Int.cast_natCast, Int.natCast_natAbs, abs_of_neg hneg, Int.cast_neg]
    have hflip : ((-(micros : ℤ) : ℤ) : ℚ) - 1000 * m = -((micros : ℚ) - 1000 * -m) := by
      push_cast
      ring
    rw [habs] at hnear
    rw [if_pos hneg, hflip, abs_neg]
    exact hnear
  · have habs : (m.natAbs : ℚ) = m := by
      rw [← Int.cast_natCast, Int.natCast_natAbs, abs_of_nonneg hpos]
    rw [habs] at hnear
    rw [if_neg (not_lt.2 hpos), Int.cast_natCast]
    exact hnear

/-- **Multiples of an eighth of a second come back exactly.** -/
theorem microsOfMillis_of_dvd (hm : m.natAbs < 2 ^ 53) (h : 125 ∣ m) : microsOfMillis m = 1000 * m := by
  rw [microsOfMillis_eq_iff, lossOfMillis_of_dvd hm h]
  norm_num

/-- **In the calendar the milliseconds come back within fifteen microseconds.** -/
theorem abs_microsOfMillis_sub_le_fifteen (h : Spans (instantOfMillis m)) :
    (microsOfMillis m - 1000 * m).natAbs ≤ 15 := by
  rw [spans_instantOfMillis_iff] at h
  have hrat : (m.natAbs : ℚ) < 1000 * 2 ^ (38 : ℤ) := by
    have hcast : (m.natAbs : ℚ) < 253402300800000 := by exact_mod_cast (by omega : m.natAbs < 253402300800000)
    norm_num at hcast ⊢
    linarith
  have hloss := lossOfMillis_le_of_lt (by norm_num) hrat
  have hnear := abs_microsOfMillis_sub_le m
  have hlt : |(microsOfMillis m : ℚ) - 1000 * m| < 16 := by
    norm_num at hloss hnear ⊢
    linarith
  have hlt' : |microsOfMillis m - 1000 * m| < 16 := by exact_mod_cast hlt
  rw [Int.abs_eq_natAbs] at hlt'
  omega

/-- **From the end of the calendar on the milliseconds do not come back into it.** -/
theorem not_spans_microsOfMillis (h : ¬Spans (instantOfMillis m)) : ¬Spans (epoch + microsOfMillis m) := by
  rw [spans_instantOfMillis_iff] at h
  -- the end itself comes back exactly, and the loss grows more slowly than the milliseconds
  by_cases hend : m = 253402300800000
  · subst hend
    rw [microsOfMillis_of_dvd (by decide) (by decide)]
    decide
  · have hnear := (abs_microsOfMillis_sub_le m).trans (add_le_add_right (add_le_add_right (lossOfMillis_le m) _) _)
    have habs : ((m.natAbs : ℕ) : ℚ) = |(m : ℚ)| := by rw [Nat.cast_natAbs, Int.cast_abs]
    rw [habs, abs_le] at hnear
    unfold Spans epoch dayMicros lastDayNumber
    rcases lt_or_ge m 0 with hneg | hpos
    · have hfar : (m : ℚ) ≤ -62135596800001 := by exact_mod_cast (by omega : m ≤ -62135596800001)
      have hlt : (microsOfMillis m : ℚ) < -62135596800000000 := by
        have hsign : |(m : ℚ)| = -m := abs_of_neg (by exact_mod_cast hneg)
        rw [hsign] at hnear
        norm_num at hnear
        linarith [hnear.2]
      have hlt' : microsOfMillis m < -62135596800000000 := by exact_mod_cast hlt
      omega
    · have hfar : (253402300800001 : ℚ) ≤ m := by exact_mod_cast (by omega : 253402300800001 ≤ m)
      have hlt : (253402300800000000 : ℚ) < microsOfMillis m := by
        have hsign : |(m : ℚ)| = m := abs_of_nonneg (by exact_mod_cast hpos)
        rw [hsign] at hnear
        norm_num at hnear
        linarith [hnear.1]
      have hlt' : 253402300800000000 < microsOfMillis m := by exact_mod_cast hlt
      omega

/-- In the calendar the milliseconds come back into it. -/
theorem spans_microsOfMillis (h : Spans (instantOfMillis m)) : Spans (epoch + microsOfMillis m) := by
  have hnear := abs_microsOfMillis_sub_le_fifteen h
  have hbounds := spans_instantOfMillis_iff.1 h
  unfold Spans epoch dayMicros lastDayNumber
  -- the first moment of the calendar has none before it to be moved to, but it comes back exactly
  by_cases hfirst : m = -62135596800000
  · subst hfirst
    rw [microsOfMillis_of_dvd (by decide) (by decide)]
    decide
  · omega

/-- The seconds of the calendar are no end of the doubles. -/
theorem not_overflows_secondsOfMillis (h : Spans (instantOfMillis m)) : (secondsOfMillis m).overflows = false := by
  rw [spans_instantOfMillis_iff] at h
  rw [← Bool.not_eq_true, Dyadic.overflows_iff]
  rcases Nat.eq_zero_or_pos m.natAbs with hzero | hpos
  · rw [secondsOfMillis, hzero]
    decide
  · have hlt : (m.natAbs : ℚ) / (1000 : Nat) < 2 ^ (38 : ℤ) := by
      have hcast : (m.natAbs : ℚ) < 253402300800000 := by exact_mod_cast (by omega : m.natAbs < 253402300800000)
      rw [div_lt_iff₀ (by norm_num)]
      norm_num at hcast ⊢
      linarith
    have hunit := unitExponent_le hpos (by norm_num) hlt
    rw [Dyadic.minExponent] at hunit
    rw [exponent_secondsOfMillis hpos]
    omega

/-- Milliseconds are decoded to the moment to which they come back, unless the seconds are past the doubles. -/
theorem ofEpochInt?_eq (m : Int) :
    ofEpochInt? m = if (secondsOfMillis m).overflows then none else DateTime.ofInstant? (epoch + microsOfMillis m) := by
  rw [ofEpochInt?, ofEpochMillis?, microsOfMillis, Nat.one_mul]
  by_cases hneg : m < 0
  · simp only [hneg, decide_true, if_true, secondsOfMillis]
  · simp only [hneg, decide_false, if_false, Bool.false_eq_true, secondsOfMillis]

end

end Calendar

open Calendar

/-- No moment outside the calendar has a timestamp. -/
theorem DateTime.ofInstant?_of_not_spans {n : Int} (h : ¬Spans n) : ofInstant? n = none := by
  rw [ofInstant?]
  refine if_neg fun hday => h ?_
  unfold Spans dayMicros at *
  omega

namespace Cell

/-- What milliseconds are decoded to. -/
theorem primitive_timestamp_int (m : Int) :
    primitive "TIMESTAMP" (.int m) = .ok (((ofEpochInt? m).map Value.timestamp).getD .null) := rfl

/-- Outside the calendar milliseconds are decoded to nothing. -/
theorem primitive_timestamp_of_not_spans {m : Int} (h : ¬Spans (instantOfMillis m)) :
    primitive "TIMESTAMP" (.int m) = .ok .null := by
  rw [primitive_timestamp_int, ofEpochInt?_eq, DateTime.ofInstant?_of_not_spans (not_spans_microsOfMillis h),
    ite_self]
  rfl

/-- In the calendar milliseconds are decoded to the unzoned timestamp of the moment to which they come back. -/
theorem exists_primitive_timestamp {m : Int} (h : Spans (instantOfMillis m)) :
    ∃ t, primitive "TIMESTAMP" (.int m) = .ok (.timestamp t) ∧ t.offset = none ∧ t.Valid ∧
      t.instant = epoch + microsOfMillis m := by
  obtain ⟨hfirst, hlast⟩ := spans_microsOfMillis h
  obtain ⟨t, ht, hoffset, hvalid, hlocal⟩ := DateTime.exists_ofInstant? hfirst hlast
  refine ⟨t, ?_, hoffset, hvalid, (DateTime.instant_of_unzoned hoffset).trans hlocal⟩
  rw [primitive_timestamp_int, ofEpochInt?_eq, not_overflows_secondsOfMillis h, if_neg Bool.false_ne_true, ht]
  rfl

/-- **Epoch milliseconds are decoded nearly exactly.** In the calendar they are decoded to the unzoned
timestamp of a moment no further off than fifteen microseconds, and of the moment itself exactly when the
double nearest to the seconds is within half a microsecond: so it is in the first `2 ^ 33` seconds on either
side of the epoch, and at every eighth of a second. Outside the calendar there is nothing, and later
milliseconds are decoded to later moments. -/
theorem millis_nearly_exact (m : Int) :
    (¬Spans (instantOfMillis m) → primitive "TIMESTAMP" (.int m) = .ok .null) ∧
      (Spans (instantOfMillis m) →
        ∃ t, primitive "TIMESTAMP" (.int m) = .ok (.timestamp t) ∧ t.offset = none ∧ t.Valid ∧
          (t.instant - instantOfMillis m).natAbs ≤ 15 ∧
          (t.instant = instantOfMillis m ↔ lossOfMillis m ≤ 1 / 2) ∧
          (m.natAbs ≤ 2 ^ 33 * 1000 ∨ 125 ∣ m → t.instant = instantOfMillis m)) ∧
      ∀ m' t t', m < m' → primitive "TIMESTAMP" (.int m) = .ok (.timestamp t) →
        primitive "TIMESTAMP" (.int m') = .ok (.timestamp t') → t.instant < t'.instant := by
  refine ⟨primitive_timestamp_of_not_spans, fun h => ?_, fun m' t t' hlt ht ht' => ?_⟩
  · obtain ⟨t, ht, hoffset, hvalid, hinstant⟩ := exists_primitive_timestamp h
    have hexact : t.instant = instantOfMillis m ↔ lossOfMillis m ≤ 1 / 2 := by
      rw [hinstant, instantOfMillis, add_right_inj, microsOfMillis_eq_iff]
    refine ⟨t, ht, hoffset, hvalid, ?_, hexact, ?_⟩
    · rw [hinstant, instantOfMillis, add_sub_add_left_eq_sub]
      exact abs_microsOfMillis_sub_le_fifteen h
    · rintro (hnear | heighth)
      · exact hexact.2 (lossOfMillis_le_half hnear)
      · have hbounds := spans_instantOfMillis_iff.1 h
        rw [hexact, lossOfMillis_of_dvd (by omega) heighth]
        norm_num
  · -- a timestamp is only there for a moment of the calendar, and two of them are fifteen microseconds off at most
    have hspans : ∀ {n : Int} {u : DateTime}, primitive "TIMESTAMP" (.int n) = .ok (.timestamp u) →
        Spans (instantOfMillis n) ∧ u.instant = epoch + microsOfMillis n := by
      intro n u hu
      by_cases h : Spans (instantOfMillis n)
      · obtain ⟨v, hv, -, -, hinstant⟩ := exists_primitive_timestamp h
        rw [hu] at hv
        injection hv with hv
        injection hv with hv
        exact ⟨h, hv ▸ hinstant⟩
      · rw [primitive_timestamp_of_not_spans h] at hu
        cases hu
    obtain ⟨h, hinstant⟩ := hspans ht
    obtain ⟨h', hinstant'⟩ := hspans ht'
    have hnear := abs_microsOfMillis_sub_le_fifteen h
    have hnear' := abs_microsOfMillis_sub_le_fifteen h'
    omega

/-- The millisecond before the epoch comes back exactly, and before one that lies outside the first `2 ^ 33`
seconds. -/
theorem millis_nearly_exact_before_epoch :
    Spans (instantOfMillis (-1)) ∧ (-1 : Int).natAbs ≤ 2 ^ 33 * 1000 ∧
      primitive "TIMESTAMP" (.int (-1)) = .ok (.timestamp ⟨⟨1969, 12, 31⟩, ⟨23, 59, 59, 999000⟩, none⟩) ∧
      ∃ t, primitive "TIMESTAMP" (.int 8589934592001) = .ok (.timestamp t) ∧
        (⟨⟨1969, 12, 31⟩, ⟨23, 59, 59, 999000⟩, none⟩ : DateTime).instant < t.instant ∧
        (t.instant - instantOfMillis 8589934592001).natAbs ≤ 15 := by
  have hspans : Spans (instantOfMillis (-1)) := by decide
  obtain ⟨-, hdecoded, hordered⟩ := millis_nearly_exact (-1)
  obtain ⟨t, ht, hoffset, hvalid, -, -, hexact⟩ := hdecoded hspans
  have heq : t = ⟨⟨1969, 12, 31⟩, ⟨23, 59, 59, 999000⟩, none⟩ := by
    refine DateTime.eq_of_localMicros_eq hvalid (by decide) hoffset ?_
    rw [← DateTime.instant_of_unzoned hoffset, hexact (.inl (by decide))]
    decide
  obtain ⟨u, hu, -, -, hnear, -⟩ := (millis_nearly_exact 8589934592001).2.1 (by decide)
  exact ⟨hspans, by decide, heq ▸ ht, u, hu, heq ▸ hordered _ t u (by decide) ht hu, hnear⟩

/-- **Epoch milliseconds are not decoded exactly**: the last millisecond of the calendar is decoded to a moment
seven microseconds before it. -/
theorem not_millis_exact :
    ¬∀ m, Spans (instantOfMillis m) →
      ∃ t, primitive "TIMESTAMP" (.int m) = .ok (.timestamp t) ∧ t.instant = instantOfMillis m := by
  intro h
  obtain ⟨t, ht, hinstant⟩ := h 253402300799999 (by decide)
  have hdecoded : ofEpochInt? 253402300799999 = some ⟨⟨9999, 12, 31⟩, ⟨23, 59, 59, 998993⟩, none⟩ := by
    decide +kernel
  rw [primitive_timestamp_int, hdecoded] at ht
  cases ht
  revert hinstant
  decide

end Cell

end SearchTables
