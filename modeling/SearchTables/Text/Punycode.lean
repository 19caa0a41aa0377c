import SearchTables.Text.Digit

/-! # Punycode

A text of any code points written with ASCII letters, digits and hyphens: its ASCII characters first, then,
after a hyphen, where the other code points go. They are taken in ascending order, and each is given by its
distance from the one before: so many steps through all places and all code points. A distance is a number
of digits of base 36, the lowest first, whose last digit is the first one below a threshold; the thresholds
follow the distances that were met so far. -/

namespace SearchTables.Text.Punycode

/-- The digit of a value below 36. -/
def digit (n : Nat) : Char := if n < 26 then Char.ofNat (0x61 + n) else Char.ofNat (0x30 + (n - 26))

/-- The value of a digit, in either case. -/
def digitValue? (c : Char) : Option Nat :=
  if 'a' ≤ c ∧ c ≤ 'z' then some (c.toNat - 0x61)
  else if 'A' ≤ c ∧ c ≤ 'Z' then some (c.toNat - 0x41)
  else if '0' ≤ c ∧ c ≤ '9' then some (c.toNat - 0x30 + 26)
  else none

/-- A digit has the value that it was made of. -/
theorem digitValue?_digit {n : Nat} (h : n < 36) : digitValue? (digit n) = some n := by
  have all : ∀ m ∈ List.range 36, digitValue? (digit m) = some m := by decide
  exact all n (List.mem_range.mpr h)

/-- The bias before the first distance. -/
def firstBias : Nat := 72

/-- The threshold of the digit at a position, which is counted in steps of 36. -/
def threshold (bias position : Nat) : Nat := max 1 (min 26 (position - bias))

/-- A threshold lies between 1 and 26. -/
theorem threshold_bounds (bias position : Nat) :
    1 ≤ threshold bias position ∧ threshold bias position ≤ 26 := by
  unfold threshold
  omega

/-- Divide a number by 35 until it is small, and count the divisions in steps of 36. -/
def shrink (n divisions : Nat) : Nat × Nat :=
  if 455 < n then shrink (n / 35) (divisions + 36) else (n, divisions)
termination_by n
decreasing_by omega

/-- The bias after a distance, when so many code points have their place. -/
def nextBias (distance placed : Nat) (isFirst : Bool) : Nat :=
  let n := if isFirst then distance / 700 else distance / 2
  let (n, divisions) := shrink (n + n / placed) 0
  divisions + 36 * n / (n + 38)

/-! ## Writing -/

/-- The digits of a number from a position on. -/
def digits (bias position n : Nat) : List Char :=
  let t := threshold bias position
  if n < t then [digit n]
  else digit (t + (n - t) % (36 - t)) :: digits bias (position + 36) ((n - t) / (36 - t))
termination_by n
decreasing_by
  have := threshold_bounds bias position
  exact Nat.lt_of_le_of_lt (Nat.div_le_self _ _) (by omega)

/-- What is known while a text is written: the digits so far, the distance since the last code point that has
its place, the bias, and how many have one. -/
structure Writing where
  digits : List Char
  distance : Nat
  bias : Nat
  placed : Nat

/-- Pass one code point of the text while those that are `least` get their places. -/
def Writing.pass (basic least : Nat) (w : Writing) (n : Nat) : Writing :=
  if n < least then { w with distance := w.distance + 1 }
  else if n = least then
    { digits := w.digits ++ Punycode.digits w.bias 36 w.distance
      distance := 0
      bias := nextBias w.distance (w.placed + 1) (w.placed == basic)
      placed := w.placed + 1 }
  else w

/-- Give the code points above ASCII their places, in ascending order; those below `start` have theirs. -/
def place (codes : List Nat) (basic : Nat) : List Nat → Nat → Writing → Writing
  | [], _, w => w
  | least :: rest, start, w =>
      let w := { w with distance := w.distance + (least - start) * (w.placed + 1) }
      let w := codes.foldl (Writing.pass basic least) w
      place codes basic rest (least + 1) { w with distance := w.distance + 1 }

/-- The written form of a text. -/
def encode (codes : List Nat) : List Char :=
  let basic := codes.filter (· < 0x80)
  let others := ((codes.filter (0x80 ≤ ·)).mergeSort (· ≤ ·)).eraseDups
  basic.map Char.ofNat ++ (if basic.isEmpty then [] else ['-']) ++
    (place codes basic.length others 0x80 ⟨[], 0, firstBias, basic.length⟩).digits

/-! ## Reading -/

/-- Read one number from a position on, with what a digit there counts; the rest follows. -/
def takeNumber? (bias : Nat) : List Char → Nat → Nat → Option (Nat × List Char)
  | [], _, _ => none
  | c :: rest, position, weight =>
      match digitValue? c with
      | none => none
      | some d =>
          if d < threshold bias position then some (d * weight, rest)
          else
            (takeNumber? bias rest (position + 36) (weight * (36 - threshold bias position))).map
              fun (n, rest) => (d * weight + n, rest)

/-- A number takes up part of the text. -/
theorem length_takeNumber? {bias position weight n : Nat} {cs rest : List Char}
    (h : takeNumber? bias cs position weight = some (n, rest)) : rest.length < cs.length := by
  induction cs generalizing position weight n with
  | nil => simp [takeNumber?] at h
  | cons c cs ih =>
      simp only [takeNumber?] at h
      split at h
      · simp at h
      · split at h
        · simp only [Option.some.injEq, Prod.mk.injEq] at h
          simp [← h.2]
        · simp only [Option.map_eq_some_iff, Prod.mk.injEq, Prod.exists] at h
          obtain ⟨m, cs', inner, -, rfl⟩ := h
          have := ih inner
          simp only [List.length_cons]
          omega

/-- Numbers are read back from their digits. -/
theorem takeNumber?_digits (bias n position weight : Nat) (rest : List Char) :
    takeNumber? bias (digits bias position n ++ rest) position weight = some (n * weight, rest) := by
  induction n using Nat.strongRecOn generalizing position weight with
  | _ n ih =>
      have bounds := threshold_bounds bias position
      rw [digits]
      split
      · next small =>
          simp only [List.cons_append, List.nil_append, takeNumber?,
            digitValue?_digit (show n < 36 by omega), small, if_true]
      · next large =>
          have positive : 0 < 36 - threshold bias position := by omega
          have below := Nat.mod_lt (n - threshold bias position) positive
          have less : (n - threshold bias position) / (36 - threshold bias position) < n :=
            Nat.lt_of_le_of_lt (Nat.div_le_self _ _) (by omega)
          have whole := Nat.mod_add_div (n - threshold bias position) (36 - threshold bias position)
          simp only [List.cons_append, takeNumber?]
          rw [digitValue?_digit (by omega), ih _ less]
          simp only [Option.map_some]
          rw [if_neg (by omega)]
          simp only [Option.some.injEq, Prod.mk.injEq, and_true]
          rw [← Nat.mul_assoc, Nat.mul_right_comm, ← Nat.add_mul, Nat.mul_comm (_ / _), Nat.add_assoc,
            whole]
          congr 1
          omega

/-- Put a code point at a place. -/
def insertAt (codes : List Nat) (place n : Nat) : List Nat := codes.take place ++ n :: codes.drop place

/-- Put the code points that distances give into a text: at first with the bias, the last code point and the
place after it. -/
def fill (bias last next : Nat) (isFirst : Bool) (codes : List Nat) (cs : List Char) : Option (List Nat) :=
  match cs with
  | [] => some codes
  | c :: cs =>
      match taken : takeNumber? bias (c :: cs) 36 1 with
      | none => none
      | some (distance, rest) =>
          let room := codes.length + 1
          let n := last + (next + distance) / room
          let place := (next + distance) % room
          if 0x10ffff < n then none
          else fill (nextBias distance room isFirst) n (place + 1) false (insertAt codes place n) rest
termination_by cs.length
decreasing_by exact length_takeNumber? taken

/-- The text that a written form stands for. -/
def decode? (cs : List Char) : Option (List Nat) :=
  let others := (cs.reverse.takeWhile (· ≠ '-')).reverse
  let basic := cs.take (cs.length - others.length - 1)
  fill firstBias 0x80 0 true (basic.map Char.toNat) others

end SearchTables.Text.Punycode
