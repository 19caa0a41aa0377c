import SearchTables.Decimal.Nearest

/-! # The shortest decimal that reads back

A double is written with the fewest significant digits that identify it: the shortest decimal inside the
interval of numbers that round to the double, and among those of equal length the nearest one. The digits
are found on the grids of one, two, … seventeen digits in exact arithmetic. -/

namespace SearchTables

/-- A positive decimal `0.d₁d₂… * 10 ^ point`, its digits without trailing zeros. -/
structure DecimalDigits where
  digits : List Char
  point : Int
deriving DecidableEq, Repr

/-- The numbers that round to one double, as `low / den ≤ _ ≤ high / den` around `value / den`; the ends
belong to the interval when `closed`. -/
structure RoundingInterval where
  low : Nat
  value : Nat
  high : Nat
  den : Nat
  closed : Bool

/-- The interval of a positive double. The gap below a power of two is half the gap above it. -/
def Dyadic.interval (d : Dyadic) : RoundingInterval :=
  let halfBelow := d.mantissa = Nat.pow 2 52 ∧ Dyadic.minExponent < d.exponent
  let e := d.exponent - 2
  let scale := Nat.pow 2 e.toNat
  { low := (4 * d.mantissa - if halfBelow then 1 else 2) * scale
    value := 4 * d.mantissa * scale
    high := (4 * d.mantissa + 2) * scale
    den := Nat.pow 2 (-e).toNat
    closed := d.mantissa % 2 = 0 }

namespace RoundingInterval

/-- How many decimal places stand before the point: `10 ^ (point - 1) ≤ value < 10 ^ point`. -/
def point (r : RoundingInterval) : Int :=
  ((Nat.toDigits 10 (r.value * Nat.pow 10 400 / r.den)).length : Int) - 400

/-- The neighbours of the value on the grid of `count` digits that lie in the interval; of two the
nearer, and the even one at a tie. -/
def candidate? (r : RoundingInterval) (point : Int) (count : Nat) : Option Nat :=
  let grid := point - count
  let unit := r.den * Nat.pow 10 grid.toNat
  let scale := Nat.pow 10 (-grid).toNat
  let low := r.low * scale
  let value := r.value * scale
  let high := r.high * scale
  let below := value / unit
  let inside (n : Nat) : Bool :=
    if r.closed then decide (low ≤ n * unit) && decide (n * unit ≤ high)
    else decide (low < n * unit) && decide (n * unit < high)
  match inside below, inside (below + 1) with
  | true, true =>
      let toBelow := value - below * unit
      let toAbove := (below + 1) * unit - value
      if toBelow < toAbove then some below
      else if toAbove < toBelow then some (below + 1)
      else if below % 2 = 0 then some below else some (below + 1)
  | true, false => some below
  | false, true => some (below + 1)
  | false, false => none

end RoundingInterval

/-- Digits of `n * 10 ^ exponent`, trailing zeros dropped. -/
def DecimalDigits.ofNat (n : Nat) (exponent : Int) : DecimalDigits :=
  let digits := Nat.toDigits 10 n
  ⟨(digits.reverse.dropWhile (· = '0')).reverse, exponent + digits.length⟩

/-- The shortest digits of a positive double. -/
def Dyadic.shortest (d : Dyadic) : DecimalDigits :=
  let r := d.interval
  let point := r.point
  match (List.range 17).findSome? fun i => (r.candidate? point (i + 1)).map (·, i + 1) with
  | some (n, count) => .ofNat n (point - count)
  | none => .ofNat (d.num / d.den) 0

/-- How a double is spelled once its digits are known. -/
structure FloatLayout where
  /-- Positional notation starts at this decimal exponent. -/
  leastPositional : Int
  /-- Exponent notation starts at this decimal exponent. -/
  leastScientific : Int
  /-- The least number of digits in an exponent. -/
  exponentWidth : Nat
  notANumber : String
  infinity : String

/-- Pad a numeral with zeros on the left. -/
def padZeros (width : Nat) (cs : List Char) : List Char := List.replicate (width - cs.length) '0' ++ cs

/-- A numeral of at least `width` digits. -/
def paddedNat (width n : Nat) : String := String.ofList (padZeros width (Nat.toDigits 10 n))

namespace FloatLayout

/-- The digits of a positive double in positional or exponent notation. -/
def spell (layout : FloatLayout) (d : DecimalDigits) : List Char :=
  let exponent := d.point - 1
  if layout.leastPositional ≤ exponent ∧ exponent < layout.leastScientific then
    if d.point ≤ 0 then '0' :: '.' :: List.replicate (-d.point).toNat '0' ++ d.digits
    else
      let whole := d.digits.take d.point.toNat
      let zeros := List.replicate (d.point.toNat - d.digits.length) '0'
      let rest := d.digits.drop d.point.toNat
      whole ++ zeros ++ '.' :: (if rest.isEmpty then ['0'] else rest)
  else
    let mark := if exponent < 0 then '-' else '+'
    let tail := 'e' :: mark :: padZeros layout.exponentWidth (Nat.toDigits 10 exponent.natAbs)
    match d.digits with
    | [] => tail
    | [lead] => lead :: tail
    | lead :: rest => lead :: '.' :: rest ++ tail

/-- The text of a double. -/
def render (layout : FloatLayout) (x : Float) : String :=
  let sign := if isNegative x then "-" else ""
  match magnitude? x with
  | none => if isNotANumber x then layout.notANumber else sign ++ layout.infinity
  | some d =>
      if d.mantissa = 0 then sign ++ "0.0" else sign ++ String.ofList (layout.spell d.shortest)

end FloatLayout

/-- Doubles are positional from `0.0001` up to sixteen places before the point; an exponent has a sign
and at least two digits. -/
def numberLayout : FloatLayout := ⟨-4, 16, 2, "NaN", "Infinity"⟩

end SearchTables
