import SearchTables.Decimal.Nearest

/-! # Quotients and remainders of doubles

The remainder of a division with a whole quotient is exact for doubles, so it is computed on their exact
values and only then turned back into a double. -/

namespace SearchTables

/-- The whole number on the side of zero of a finite double. -/
def truncated? (x : Float) : Option Int := (exactValue? x).map fun (num, den) => Int.tdiv num den

/-- The double nearest to a signed fraction. -/
def floatOfFraction (num : Int) (den : Nat) : Float := nearestFloat (decide (num < 0)) num.natAbs den

/-- The remainder with the sign of the dividend. -/
def remainderLikeDividend (x y : Float) : Float :=
  match exactValue? x, exactValue? y with
  | some (n, d), some (m, e) =>
      if m = 0 then 0.0 / 0.0
      else
        let rest := Int.tmod (n * e) (m * d)
        if rest = 0 then (if isNegative x then -0.0 else 0.0) else floatOfFraction rest (d * e)
  | some _, none => if isNotANumber y then y else x
  | none, _ => 0.0 / 0.0

/-- The remainder with the sign of the divisor; there is none for a divisor of zero. -/
def floatMod? (x y : Float) : Option Float :=
  if y == 0.0 then none
  else
    let rest := remainderLikeDividend x y
    if rest == 0.0 then some (if isNegative y then -0.0 else 0.0)
    else if isNegative y != isNegative rest && !isNotANumber rest then some (rest + y)
    else some rest

/-- The largest whole double not above the quotient of doubles that are not negative; there is none for a
divisor of zero. -/
def floatFloorDiv? (x y : Float) : Option Float :=
  if y == 0.0 then none
  else
    let quotient := (x - remainderLikeDividend x y) / y
    let below := quotient.floor
    some (if quotient - below > 0.5 then below + 1.0 else below)

/-- A whole double is its own truncation. -/
theorem truncated?_of_integral {x : Float} {n : Int} (h : integralValue? x = some n) :
    truncated? x = some n := by
  unfold integralValue? at h
  unfold truncated?
  obtain ⟨⟨num, den⟩, value, whole⟩ := Option.bind_eq_some_iff.1 h
  simp only [Option.ite_none_right_eq_some, Option.some.injEq] at whole
  obtain ⟨divides, rfl⟩ := whole
  rw [value]
  simp only [Option.map_some, Option.some.injEq]
  exact Int.tdiv_eq_ediv_of_dvd (Int.dvd_of_emod_eq_zero divides)

end SearchTables
