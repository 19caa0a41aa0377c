import SearchTables.Expression.Lexical
import SearchTables.Text.Utf8
import SearchTables.Value
import SearchTables.Error

/-! # Data of expressions

What an expression evaluates to. Integers have sixty-four bits. Numbers, texts and lists have an
**origin**: what is read from a row or a literal, or converted, is **given**; what comes out of an operation
between data of another kind, or by joining or taking apart, is **derived**. A derived number compares with
everything, a given one with its own kind only. An evaluation that fails has no datum, but a map may hold
such a failure as a value. -/

namespace SearchTables

/-- Where a datum comes from. -/
inductive Origin where
  | given
  | derived
deriving DecidableEq, Repr, Inhabited

/-- The value of an expression. -/
inductive Datum where
  | null
  | bool (value : Bool)
  | int (origin : Origin) (value : Int)
  | uint (value : Nat)
  | double (origin : Origin) (value : Float)
  | text (origin : Origin) (value : String)
  | bytes (origin : Origin) (value : List Nat)
  | list (origin : Origin) (items : List Datum)
  | map (entries : List (Datum × Datum))
  /-- The names beneath a name of the row. -/
  | names (entries : List (String × Datum))
  /-- A function that is not called, or the place of a name in the row. -/
  | symbol (name : String)
  | moment (value : DateTime)
  /-- A number of microseconds. -/
  | duration (origin : Origin) (micros : Int)
  /-- A value of a map whose evaluation failed. -/
  | failed
deriving Inhabited

/-- The smallest integer of expressions. -/
def minInt64 : Int := -9223372036854775808

/-- The largest integer of expressions. -/
def maxInt64 : Int := 9223372036854775807

/-- The largest unsigned integer of expressions. -/
def maxUint64 : Int := 18446744073709551615

namespace Datum

/-- An integer, if it is in range. -/
def ofInt? (n : Int) : Option Datum :=
  if minInt64 ≤ n ∧ n ≤ maxInt64 then some (.int .given n) else none

/-- An unsigned integer, if it is in range. -/
def ofUint? (n : Int) : Option Datum := if 0 ≤ n ∧ n ≤ maxUint64 then some (.uint n.toNat) else none

/-- The value of a map for an evaluation. -/
def ofOption : Option Datum → Datum
  | some d => d
  | none => .failed

/-- The evaluation that a value of a map stands for. -/
def toOption : Datum → Option Datum
  | .failed => none
  | d => some d

mutual

/-- The datum of a cell. An integer out of range and a value of another kind are refused. -/
def ofValue : Value → Except Error Datum
  | .null => .ok .null
  | .bool b => .ok (.bool b)
  | .int n =>
      match ofInt? n with
      | some d => .ok d
      | none => .error .refusedValue
  | .float x => .ok (.double .given x)
  | .str s => .ok (.text .given s)
  | .list items => (ofItems items).map (.list .given)
  | .object members => (ofMembers members).map .map
  | .timestamp t => .ok (.moment t)
  | _ => .error .refusedValue

/-- The data of several values. -/
def ofItems : List Value → Except Error (List Datum)
  | [] => .ok []
  | v :: rest => do
      let d ← ofValue v
      let ds ← ofItems rest
      pure (d :: ds)

/-- The entries of a map whose keys are names. -/
def ofMembers : List (String × Value) → Except Error (List (Datum × Datum))
  | [] => .ok []
  | (name, v) :: rest => do
      let d ← ofValue v
      let ds ← ofMembers rest
      pure ((.text .given name, d) :: ds)

end

/-! ## Views -/

/-- The exact number that a datum is; truth values count as zero and one. -/
def number? : Datum → Option Extended
  | .bool b => some (.ofInt (if b then 1 else 0))
  | .int _ n => some (.ofInt n)
  | .uint n => some (.ofInt n)
  | .double _ x => some (.ofFloat x)
  | _ => none

/-- The whole number that a datum is; truth values count as zero and one. -/
def whole? : Datum → Option Int
  | .bool b => some (if b then 1 else 0)
  | .int _ n => some n
  | .uint n => some n
  | _ => none

/-- The double nearest to the number that a datum is. -/
def float? : Datum → Option Float
  | .double _ x => some x
  | d => d.whole?.bind floatOfInt?

/-- Whether a datum counts as true where any datum may stand: not `null`, `false`, zero or empty. -/
def isGiven : Datum → Bool
  | .null => false
  | .bool b => b
  | .int _ n => n != 0
  | .uint n => n != 0
  | .double _ x => x != 0.0
  | .text _ s => s != ""
  | .bytes _ bs => !bs.isEmpty
  | .list _ items => !items.isEmpty
  | .map entries => !entries.isEmpty
  | .names entries => !entries.isEmpty
  | .duration _ n => n != 0
  | .moment _ | .symbol _ | .failed => true

/-- What one goes through in a collection: items, characters, bytes, or keys. -/
def elements? : Datum → Option (List Datum)
  | .list _ items => some items
  | .text _ s => some ((Text.letters s).map (.text .derived))
  | .bytes _ bs => some (bs.map fun (b : Nat) => .int .derived b)
  | .map entries => some (entries.map (·.1))
  | .names entries => some (entries.map fun (name, _) => .text .derived name)
  | _ => none

end Datum

/-! ## Texts between quotes -/

/-- The code points of the one-letter escapes. -/
def cookedEscapes : List (Char × Nat) := [
  ('a', 7), ('b', 8), ('f', 12), ('n', 10), ('r', 13), ('t', 9), ('v', 11), ('"', 34), ('\'', 39),
  ('\\', 92)]

/-- The value of exactly as many digits as asked for. -/
def exactDigits? (digit? : Char → Option Nat) (base : Nat) : Nat → Nat → List Char → Option Nat
  | 0, n, _ => some n
  | count + 1, n, c :: rest =>
      match digit? c with
      | some d => exactDigits? digit? base count (base * n + d) rest
      | none => none
  | _ + 1, _, [] => none

/-- The digits of an escape that follow a letter, by that letter: how many there are. -/
def cookedWidth? (c : Char) : Option Nat :=
  if c = 'x' then some 2 else if c = 'u' then some 4 else if c = 'U' then some 8 else none

/-- The value of a digit below eight. -/
def octalDigit? (c : Char) : Option Nat := (Text.digitValue? c).filter (· < 8)

/-- What an escape after a backslash means: a number and how many characters it takes; or nothing, when the
backslash stands for itself. Three digits must all be below eight to mean a number. -/
def cookedEscape? (cs : List Char) : Option (Option Nat × Nat) :=
  match cs with
  | [] => none
  | c :: rest =>
      match cookedEscapes.lookup c, cookedWidth? c with
      | some meant, _ => some (some meant, 1)
      | none, some width =>
          (exactDigits? Text.hexDigit? 16 width 0 rest).map fun n => (some n, 1 + width)
      | none, none =>
          (exactDigits? Text.digitValue? 10 3 0 (c :: rest)).map fun _ =>
            (exactDigits? octalDigit? 8 3 0 (c :: rest), 3)

/-- What the body of a quoted text means, piece by piece, after skipping characters that an escape has used
up: a character of its own, or the number of an escape. A line feed is left out. -/
def cookFrom : Nat → List Char → Option (List (Char ⊕ Nat))
  | _, [] => some []
  | skip + 1, _ :: rest => cookFrom skip rest
  | 0, c :: rest =>
      if c = '\n' then cookFrom 0 rest
      else if c ≠ '\\' then (cookFrom 0 rest).map (.inl c :: ·)
      else
        match cookedEscape? rest with
        | none => (cookFrom 0 rest).map (.inl c :: ·)
        | some (none, _) => none
        | some (some meant, taken) => (cookFrom taken rest).map (.inr meant :: ·)

/-- The characters of a text from its pieces; a number must be a code point. -/
def textOfPieces : List (Char ⊕ Nat) → Option (List Char)
  | [] => some []
  | .inl c :: rest => (textOfPieces rest).map (c :: ·)
  | .inr n :: rest =>
      match Text.written? n, textOfPieces rest with
      | some cs, some more => some (cs ++ more)
      | _, _ => none

/-- The bytes of a byte string from its pieces; a number must be a byte. -/
def bytesOfPieces : List (Char ⊕ Nat) → Option (List Nat)
  | [] => some []
  | .inl c :: rest => (bytesOfPieces rest).map (Text.utf8Code c.toNat ++ ·)
  | .inr n :: rest => if n < 0x100 then (bytesOfPieces rest).map (n :: ·) else none

/-- The bytes of a raw byte string, whose characters must be bytes. -/
def rawBytes? (body : List Char) : Option (List Nat) :=
  if body.all (·.toNat < 0x100) then some (body.map Char.toNat) else none

/-- The datum of a literal; nothing when it has none. -/
def Literal.datum? : Literal → Option Datum
  | .null => some .null
  | .bool b => some (.bool b)
  | .int negative hexadecimal digits => Datum.ofInt? (Expression.intOf negative hexadecimal digits)
  | .uint negative hexadecimal digits => Datum.ofUint? (Expression.intOf negative hexadecimal digits)
  | .double x => some (.double .given x)
  | .text raw body =>
      if raw then some (.text .given (String.ofList body))
      else ((cookFrom 0 body).bind textOfPieces).map fun cs => .text .given (String.ofList cs)
  | .bytes raw body =>
      (if raw then rawBytes? body else (cookFrom 0 body).bind bytesOfPieces).map (.bytes .given)

end SearchTables
