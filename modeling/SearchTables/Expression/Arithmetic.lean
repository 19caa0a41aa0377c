import SearchTables.Expression.Conversion

/-! # Arithmetic of data

Given integers take numbers of other kinds only where the result is still an integer; truth values count as
zero and one, and what they give together is derived. Texts, byte strings and lists are joined by `+`.
Moments move by lengths of time. -/

namespace SearchTables.Datum

/-! ## Kinds of results -/

/-- A whole number of the kind that two whole numbers give together, in range. A derived or a truth value on
the left leaves the choice to a given integer on the right, unless it is a truth value. -/
def wholeResult? (a b : Datum) (n : Int) : Option Datum :=
  match a, b with
  | .int .given _, _ => ofInt? n
  | .uint _, _ => ofUint? n
  | .int .derived _, .int .given _ => ofInt? n
  | .int .derived _, .uint _ => ofUint? n
  | _, _ => some (.int .derived n)

/-- A derived double, for two numbers of which one is a double and the left one is no given whole number. -/
def floatResult? (operation : Float → Float → Float) (a b : Datum) : Option Datum :=
  match a with
  | .int .given _ | .uint _ => none
  | _ =>
      match a.float?, b.float? with
      | some x, some y => some (.double .derived (operation x y))
      | _, _ => none

/-- Add, subtract or multiply two numbers. -/
def onNumbers? (wholes : Int → Int → Int) (floats : Float → Float → Float) (a b : Datum) :
    Option Datum :=
  match a.whole?, b.whole? with
  | some n, some m => wholeResult? a b (wholes n m)
  | _, _ => floatResult? floats a b

/-! ## Sums, differences and products -/

/-- A moment later by a number of microseconds, if it is in the calendar. -/
def laterBy? (t : DateTime) (micros : Int) : Option Datum :=
  (DateTime.ofInstant? (t.localMicros + micros)).map fun u => .moment { u with offset := t.offset }

/-- The sum; texts, byte strings and lists are joined. -/
def add? (a b : Datum) : Option Datum :=
  match a, b with
  | .text _ s, .text _ t => some (.text .derived (s ++ t))
  | .bytes _ x, .bytes _ y => some (.bytes .derived (x ++ y))
  | .list _ xs, .list _ ys => some (.list .derived (xs ++ ys))
  | .moment t, .duration _ n | .duration _ n, .moment t => laterBy? t n
  | .duration .derived n, .duration .derived m => some (.duration .derived (n + m))
  | .duration _ n, .duration _ m => ofMicros? (n + m)
  | a, b => onNumbers? (· + ·) (· + ·) a b

/-- The difference. -/
def sub? (a b : Datum) : Option Datum :=
  match a, b with
  | .moment t, .moment u => ofMicros? (t.instant - u.instant)
  | .moment t, .duration _ n => laterBy? t (-n)
  | .duration _ n, .duration _ m => some (.duration .derived (n - m))
  | a, b => onNumbers? (· - ·) (· - ·) a b

/-- How often a datum repeats another one: a truth value or a derived integer. -/
def times? : Datum → Option Nat
  | .bool b => some (if b then 1 else 0)
  | .int .derived n => some n.toNat
  | _ => none

/-- A text, byte string or list several times in a row. -/
def repeated? (count : Nat) : Datum → Option Datum
  | .text _ s => some (.text .derived (String.ofList (List.replicate count s.toList).flatten))
  | .bytes _ bs => some (.bytes .derived (List.replicate count bs).flatten)
  | .list _ items => some (.list .derived (List.replicate count items).flatten)
  | _ => none

/-- A length of time several times, or a fraction of it. -/
def scaled? (micros : Int) (factor : Datum) : Option Datum :=
  match factor.whole?, factor.number? with
  | some n, _ => some (.duration .derived (micros * n))
  | none, some (.finite num den) =>
      let total := micros * num
      let rounded : Int := roundHalfEven total.natAbs den
      some (.duration .derived (if total < 0 then -rounded else rounded))
  | _, _ => none

/-- The product. -/
def mul? (a b : Datum) : Option Datum :=
  match a, b with
  | .duration _ n, b => scaled? n b
  | .bool _, .duration _ n | .int .derived _, .duration _ n | .double _ _, .duration _ n => scaled? n a
  | a, b =>
      match onNumbers? (· * ·) (· * ·) a b with
      | some d => some d
      | none =>
          match a.times?, b.times? with
          | some count, _ => repeated? count b
          | none, some count => repeated? count a
          | none, none => none

/-! ## Quotients and remainders -/

/-- The whole number that a double without sign stands for, with a sign, in range. -/
def wholeOfFloat? (negative : Bool) (x : Float) : Option Datum :=
  (truncated? x).bind fun n => ofInt? (if negative then -n else n)

/-- A given integer by any number, cut towards zero. -/
def divInt? (n : Int) (b : Datum) : Option Datum :=
  match b with
  | .double _ y =>
      match floatOfInt? n.natAbs, floatFloorDiv? ((floatOfInt? n.natAbs).getD 0.0) y.abs with
      | some _, some quotient => wholeOfFloat? (decide (n < 0) != decide (y < 0.0)) quotient
      | _, _ => none
  | b => b.whole?.bind fun m => if m = 0 then none else ofInt? (Int.tdiv n m)

/-- A double by a double, infinite for a divisor of zero. -/
def divDouble (x y : Float) : Datum := .double .given (if y == 0.0 then infinity false else x / y)

/-- The quotient. Given integers are cut towards zero, unsigned ones towards zero too, and neither can be
divided by zero; a given double divided by zero is infinite, and cannot be divided by a given integer. -/
def div? (a b : Datum) : Option Datum :=
  match a, b with
  | .int .given n, b => divInt? n b
  | .uint n, b => b.whole?.bind fun m => if m = 0 then none else ofUint? (Int.fdiv n m)
  | .int .derived n, .int .given m => if m = 0 then none else ofInt? (Int.tdiv n m)
  | .int .derived n, .uint m => if m = 0 then none else ofUint? (Int.fdiv n m)
  | .double .given _, .int .given _ | .double .given _, .uint _ => none
  | .double .given x, b => b.float?.map (divDouble x)
  | a, .double .given y => a.float?.map (divDouble · y)
  | .duration _ n, .duration _ m =>
      if m = 0 then none
      else some (.double .derived (floatOfFraction (if m < 0 then -n else n) m.natAbs))
  | .duration _ n, b =>
      match b.number? with
      | some (.finite num den) =>
          if num = 0 then none
          else
            let top := n.natAbs * den
            let rounded : Int := roundHalfEven top num.natAbs
            some (.duration .derived (if decide (n < 0) != decide (num < 0) then -rounded else rounded))
      | _ => none
  | a, b =>
      match a.float?, b.float? with
      | some x, some y => if y == 0.0 then none else some (.double .derived (x / y))
      | _, _ => none

/-- The remainder: of given integers with the sign of the left one, of derived numbers with the sign of the
right one. Given doubles have none. -/
def mod? (a b : Datum) : Option Datum :=
  match a, b with
  | .double .given _, _ => none
  | .int .given n, .double _ y =>
      match floatOfInt? n.natAbs with
      | some x => (floatMod? x y.abs).bind (wholeOfFloat? (decide (n < 0)))
      | none => none
  | _, .double .given _ => none
  | .uint _, .double _ _ => none
  | a, b =>
      match a.whole?, b.whole? with
      | some n, some m =>
          if m = 0 then none
          else
            match a, b with
            | .int .given _, _ | .int .derived _, .int .given _ => ofInt? (Int.tmod n m)
            | _, _ => wholeResult? a b (Int.fmod n m)
      | _, _ =>
          match a.float?, b.float? with
          | some x, some y => (floatMod? x y).map (.double .derived)
          | _, _ => none

/-- The value of an arithmetic operation. -/
def arithmetic? : Arithmetic → Datum → Datum → Option Datum
  | .add => add?
  | .sub => sub?
  | .mul => mul?
  | .div => div?
  | .mod => mod?

/-- The value with the other sign. -/
def neg? : Datum → Option Datum
  | .int .given n => ofInt? (-n)
  | .int .derived n => some (.int .derived (-n))
  | .double origin x => some (.double origin (-x))
  | .duration _ n => some (.duration .derived (-n))
  | _ => none

end SearchTables.Datum
