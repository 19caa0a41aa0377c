/-! # The double nearest to a fraction

A finite double has the value `mantissa * 2 ^ exponent`. This module rounds an exact fraction of natural
numbers to the nearest double, a tie going to the even mantissa, and moves between doubles and their
exact values. Everything happens in `Nat` and `Int`; `Float` appears only as sixty-four bits. -/

namespace SearchTables

/-- The magnitude of a finite double: `mantissa * 2 ^ exponent`. -/
structure Dyadic where
  mantissa : Nat
  exponent : Int
deriving DecidableEq, Repr

namespace Dyadic

/-- Numerator of the value, over `Dyadic.den`. -/
def num (d : Dyadic) : Nat := d.mantissa * Nat.pow 2 d.exponent.toNat

/-- Denominator of the value. -/
def den (d : Dyadic) : Nat := Nat.pow 2 (-d.exponent).toNat

theorem den_pos (d : Dyadic) : 0 < d.den := Nat.two_pow_pos _

/-- The smallest exponent of a double. -/
def minExponent : Int := -1074

/-- The largest exponent of a double. -/
def maxExponent : Int := 971

end Dyadic

/-- A quotient rounded to the nearest natural number, a tie going to the even one. -/
def roundHalfEven (num den : Nat) : Nat :=
  let quotient := num / den
  let rest := num % den
  if 2 * rest < den then quotient
  else if den < 2 * rest then quotient + 1
  else if quotient % 2 = 0 then quotient else quotient + 1

/-- A multiple of the denominator is rounded to itself. -/
@[simp] theorem roundHalfEven_mul {den : Nat} (n : Nat) (h : 0 < den) :
    roundHalfEven (n * den) den = n := by
  simp [roundHalfEven, Nat.mul_div_cancel n h, h]

/-- The floor of the binary logarithm of a positive fraction. -/
def binaryOrder (num den : Nat) : Int :=
  let guess : Int := (num.log2 : Int) - den.log2
  if den * Nat.pow 2 guess.toNat ≤ num * Nat.pow 2 (-guess).toNat then guess else guess - 1

/-- The exponent of the doubles around a positive fraction: fifty-three bits of mantissa, unless that
leaves the range. -/
def unitExponent (num den : Nat) : Int := max (binaryOrder num den - 52) Dyadic.minExponent

/-- The double nearest to a fraction, disregarding the largest exponent. -/
def nearestDyadic (num den : Nat) : Dyadic :=
  if num = 0 then ⟨0, Dyadic.minExponent⟩
  else
    let e := unitExponent num den
    ⟨roundHalfEven (num * Nat.pow 2 (-e).toNat) (den * Nat.pow 2 e.toNat), e⟩

namespace Dyadic

/-- The same value with a mantissa that fits fifty-three bits: rounding up may reach the next power of
two. -/
def fit (d : Dyadic) : Dyadic :=
  if d.mantissa = Nat.pow 2 53 then ⟨Nat.pow 2 52, d.exponent + 1⟩ else d

/-- Whether the value is past the largest double. -/
def overflows (d : Dyadic) : Bool := decide (maxExponent < d.fit.exponent)

/-- The double with a given sign and magnitude; infinite past the largest double. -/
def toFloat (d : Dyadic) (negative : Bool) : Float :=
  let d := d.fit
  let magnitude : Nat :=
    if d.exponent > maxExponent then 0x7ff * Nat.pow 2 52
    else if d.mantissa < Nat.pow 2 52 then d.mantissa
    else (d.exponent - minExponent + 1).toNat * Nat.pow 2 52 + (d.mantissa - Nat.pow 2 52)
  Float.ofBits (UInt64.ofNat (magnitude + if negative then Nat.pow 2 63 else 0))

end Dyadic

/-- The infinite double of a sign. -/
def infinity (negative : Bool) : Float :=
  Float.ofBits (if negative then 0xfff0000000000000 else 0x7ff0000000000000)

/-- The double nearest to a signed fraction; infinite past the largest double. -/
def nearestFloat (negative : Bool) (num den : Nat) : Float :=
  (nearestDyadic num den).toFloat negative

/-- The double nearest to an integer, or nothing when the integer is past the largest double. -/
def floatOfInt? (n : Int) : Option Float :=
  let d := nearestDyadic n.natAbs 1
  if d.overflows then none else some (d.toFloat (decide (n < 0)))

/-- The sign bit of a double. -/
def isNegative (x : Float) : Bool := decide (Nat.pow 2 63 ≤ x.toBits.toNat)

/-- The magnitude of a finite double. -/
def magnitude? (x : Float) : Option Dyadic :=
  let bits := x.toBits.toNat % Nat.pow 2 63
  let order := bits / Nat.pow 2 52
  let fraction := bits % Nat.pow 2 52
  if order = 0x7ff then none
  else if order = 0 then some ⟨fraction, Dyadic.minExponent⟩
  else some ⟨fraction + Nat.pow 2 52, Dyadic.minExponent + (order - 1 : Nat)⟩

/-- Whether a double is not a number. -/
def isNotANumber (x : Float) : Bool := x != x

/-- The exact value of a finite double as a fraction. -/
def exactValue? (x : Float) : Option (Int × Nat) :=
  (magnitude? x).map fun d => (if isNegative x then -(d.num : Int) else d.num, d.den)

/-- The integer that a double stands for, if it is integral. -/
def integralValue? (x : Float) : Option Int :=
  (exactValue? x).bind fun (num, den) => if num % den = 0 then some (num / den) else none

end SearchTables
