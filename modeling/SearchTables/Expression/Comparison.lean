import SearchTables.Expression.Datum

/-! # Comparing data

Comparisons are partial: most pairs of different kinds do not compare, and which ones do depends on the side
they stand on. The items of lists and the values of maps are compared one by one and their outcomes joined:
one outcome that is missing gives way to one that settles the matter, two missing ones spoil the whole. Lists
that were joined are compared more simply, up to the first difference. -/

namespace SearchTables.Datum

/-! ## Equality -/

/-- Equality as numbers. -/
def sameNumber (a b : Datum) : Bool :=
  match a.number?, b.number? with
  | some x, some y => x.eq y
  | _, _ => false

/-- Whether a datum refuses to be compared with data of other kinds. -/
def isStrict : Datum → Bool
  | .int .given _ | .uint _ | .double .given _ | .list .given _ | .map _ => true
  | _ => false

/-- Whether two numbers compare in this order. Given numbers compare with their own kind, on the left of a
derived double with everything, and on the right of a truth value if they are whole. -/
def areComparable (a b : Datum) : Bool :=
  match a, b with
  | .double .derived _, b => b.number?.isSome
  | a, .double .derived _ =>
      match a with
      | .bool _ | .double _ _ | .int .derived _ => true
      | _ => false
  | .double .given _, .double .given _ => true
  | .double .given _, _ | _, .double .given _ => false
  | .bool _, b => b.whole?.isSome
  | .int .derived _, b => b.whole?.isSome
  | .int .given _, .int _ _ => true
  | .uint _, .uint _ | .uint _, .int .derived _ => true
  | _, _ => false

/-- Equality of data of different kinds: they differ, unless one of them is strict. -/
def equalForeign? (a b : Datum) : Option Bool :=
  match a, b with
  | .null, .list .given _ | .null, .map _ | .list .given _, .null | .map _, .null => some false
  | a, b => if a.isStrict || b.isStrict then none else some false

/-- Equality of two data that are not both collections. -/
def equalScalars? (a b : Datum) : Option Bool :=
  match a.number?, b.number? with
  | some _, some _ => if areComparable a b then some (sameNumber a b) else none
  | _, _ =>
      match a, b with
      | .null, .null => some true
      | .text _ s, .text _ t => some (s == t)
      | .bytes _ x, .bytes _ y => some (x == y)
      | .symbol x, .symbol y => some (x == y)
      | .moment t, .moment u => some (t.instant == u.instant)
      | .duration _ n, .duration _ m => some (n == m)
      | .failed, .failed => some true
      | a, b => equalForeign? a b

/-- Whether two data have the same place in a map: their kinds aside, they are equal. -/
def samePlace (a b : Datum) : Bool :=
  match a, b with
  | .text _ s, .text _ t => s == t
  | .bytes _ x, .bytes _ y => x == y
  | .null, .null => true
  | .symbol x, .symbol y => x == y
  | .moment t, .moment u => t.instant == u.instant
  | .duration _ n, .duration _ m => n == m
  | a, b => sameNumber a b

/-- Whether a datum has a place in a map at all. -/
def hasPlace : Datum → Bool
  | .list _ _ | .map _ | .names _ | .failed => false
  | _ => true

/-- Whether a datum may be looked up as a key of a map. -/
def isKey : Datum → Bool
  | .text _ _ | .int .given _ | .uint _ | .bool _ => true
  | _ => false

/-- Look a key up: nothing when a key in its place cannot be compared with it. -/
def findKey? (key : Datum) : List (Datum × Datum) → Option (Option Datum)
  | [] => some none
  | (k, v) :: rest =>
      if samePlace k key then
        match equalScalars? k key with
        | some true => some (some v)
        | some false => findKey? key rest
        | none => none
      else findKey? key rest

/-- The value under a key, if it is there and its evaluation did not fail. -/
def valueAt? (key : Datum) (entries : List (Datum × Datum)) : Option Datum :=
  match findKey? key entries with
  | some (some d) => d.toOption
  | _ => none

/-- The values of two maps side by side, under the keys of the first; nothing when the keys are not the
same. The outer layer is missing when keys cannot be compared. -/
def pairValues? : List (Datum × Datum) → List (Datum × Datum) → Option (Option (List (Datum × Datum)))
  | [], _ => some (some [])
  | (k, x) :: rest, ys =>
      match findKey? k ys with
      | none => none
      | some none => some none
      | some (some y) =>
          match pairValues? rest ys with
          | some (some pairs) => some (some ((x, y) :: pairs))
          | other => other

/-- Two outcomes under conjunction: `false` settles the matter, `true` leaves it to the other. -/
def both? : Option Bool → Option Bool → Option Bool
  | some a, v => if a then v else some false
  | none, some b => if b then none else some false
  | none, none => none

/-- Two outcomes under disjunction: `true` settles the matter, `false` leaves it to the other. -/
def either? : Option Bool → Option Bool → Option Bool
  | some a, v => if a then some true else v
  | none, some b => if b then some true else none
  | none, none => none

/-- Join outcomes to an outcome so far; two missing ones in a row spoil the whole. -/
def joinOutcomes (join : Option Bool → Option Bool → Option Bool) :
    Option Bool → List (Option Bool) → Option Bool
  | found, [] => found
  | none, none :: _ => none
  | found, outcome :: rest => joinOutcomes join (join found outcome) rest

/-- Whether all outcomes are positive, looking no further than the first that is not. -/
def allInTurn? : List (Option Bool) → Option Bool
  | [] => some true
  | some true :: rest => allInTurn? rest
  | outcome :: _ => outcome

/-- Whether the names beneath a name equal a map: a place in the row equals no value. -/
def equalNames? : List (String × Datum) → List (Datum × Datum) → Option Bool
  | [], _ => some true
  | (name, _) :: _, entries =>
      match findKey? (.text .derived name) entries with
      | some (some v) => if v.isStrict then none else some false
      | some none => some false
      | none => none

/-- The outcomes for the values of a map that is compared with the names beneath a name. -/
def placesOf (entries : List (Datum × Datum)) : List (Option Bool) :=
  entries.map fun (_, v) => if v.isStrict then none else some false

/-- Whether a map has exactly the given names as its keys. -/
def hasNames (entries : List (Datum × Datum)) (names : List (String × Datum)) : Bool :=
  entries.length == names.length &&
    names.all fun (name, _) => (findKey? (.text .derived name) entries).join.isSome

/-- The steps that suffice to compare a datum with another one. -/
def depth : Datum → Nat
  | .list _ items => depths items + 1
  | .map entries => depthsOfEntries entries + 1
  | _ => 1
where
  /-- The steps for all items of a list. -/
  depths : List Datum → Nat
    | [] => 0
    | d :: rest => depth d + depths rest
  /-- The steps for all values of a map. -/
  depthsOfEntries : List (Datum × Datum) → Nat
    | [] => 0
    | (_, d) :: rest => depth d + depthsOfEntries rest

/-- Equality within a number of steps. -/
def equalWithin? : Nat → Datum → Datum → Option Bool
  | 0, _, _ => none
  | steps + 1, a, b =>
      match a, b with
      | .list .derived xs, .list .derived ys =>
          -- derived lists stop at the first items that are not equal, given ones look at all of them
          if xs.length = ys.length then allInTurn? (List.zipWith (equalWithin? steps) xs ys)
          else some false
      | .list _ xs, .list _ ys =>
          if xs.length = ys.length then
            joinOutcomes both? (some true) (List.zipWith (equalWithin? steps) xs ys)
          else some false
      | .map xs, .map ys =>
          if xs.length = ys.length then
            match pairValues? xs ys with
            | none => none
            | some none => some false
            | some (some pairs) =>
                if xs.all fun (k, _) => k.isKey then
                  joinOutcomes both? (some true) (pairs.map fun (x, y) => equalWithin? steps x y)
                else none
          else some false
      | .names xs, .map ys => if xs.length = ys.length then equalNames? xs ys else some false
      | .map xs, .names ys =>
          if hasNames xs ys then joinOutcomes both? (some true) (placesOf xs) else some false
      | .names xs, .names ys => some (xs.map (·.1) == ys.map (·.1))
      | a, b => equalScalars? a b

/-- Equality. -/
def equal? (a b : Datum) : Option Bool := equalWithin? a.depth a b

/-- Inequality of two data that are not both collections. A collection does not even differ from `null`. -/
def differScalars? (a b : Datum) : Option Bool :=
  match a, b with
  | .null, .list .given _ | .null, .map _ | .list .given _, .null | .map _, .null => none
  | a, b => (equalScalars? a b).map (!·)

/-- Inequality within a number of steps. -/
def differWithin? : Nat → Datum → Datum → Option Bool
  | 0, _, _ => none
  | steps + 1, a, b =>
      match a, b with
      | .list .derived _, .list .derived _ | .names _, .map _ | .names _, .names _ =>
          (equal? a b).map (!·)
      | .list _ xs, .list _ ys =>
          if xs.length = ys.length then
            joinOutcomes either? (some false) (List.zipWith (differWithin? steps) xs ys)
          else some true
      | .map xs, .map ys =>
          if xs.length = ys.length then
            match pairValues? xs ys with
            | none => none
            | some none => some true
            | some (some pairs) =>
                if xs.all fun (k, _) => k.isKey then
                  joinOutcomes either? (some false) (pairs.map fun (x, y) => differWithin? steps x y)
                else none
          else some true
      | .map xs, .names ys =>
          if hasNames xs ys then
            joinOutcomes either? (some false) ((placesOf xs).map fun outcome => outcome.map (!·))
          else some true
      | a, b => differScalars? a b

/-- Inequality. -/
def differ? (a b : Datum) : Option Bool := differWithin? a.depth a b

/-! ## Order -/

/-- Whether numbers compare in this order: a given integer on the left only with integers. -/
def isOrdered (a b : Datum) : Bool :=
  match a, b with
  | .int .given _, .int _ _ => true
  | .int .given _, _ => false
  | a, b => a.number?.isSome && b.number?.isSome

/-- How two data are ordered, given how it goes for numbers, texts, byte strings and lengths of time, and
for lists of different lengths. -/
structure Order where
  numbers : Extended → Extended → Bool
  texts : String → String → Bool
  bytes : List Nat → List Nat → Bool
  times : Int → Int → Bool

/-- The outcome of an ordering for two data that are not both lists. -/
def Order.scalars? (o : Order) (a b : Datum) : Option Bool :=
  match a, b with
  | .text _ s, .text _ t => some (o.texts s t)
  | .bytes _ x, .bytes _ y => some (o.bytes x y)
  | .moment t, .moment u => some (o.times t.instant u.instant)
  | .duration _ n, .duration _ m => some (o.times n m)
  | a, b =>
      if isOrdered a b then
        match a.number?, b.number? with
        | some x, some y => some (o.numbers x y)
        | _, _ => none
      else none

/-- The outcome for lists: their first different items decide, then their lengths. -/
def Order.items? (o : Order) : List Datum → List Datum → Option Bool
  | x :: xs, y :: ys =>
      match equal? x y with
      | some true => o.items? xs ys
      | some false => o.scalars? x y
      | none => none
  | xs, ys => some (o.times xs.length ys.length)

/-- The outcome of an ordering. Only joined lists are ordered. -/
def Order.run? (o : Order) (a b : Datum) : Option Bool :=
  match a, b with
  | .list .derived xs, .list .derived ys => o.items? xs ys
  | a, b => o.scalars? a b

/-- Strictly smaller. -/
def less? : Datum → Datum → Option Bool :=
  Order.run? ⟨Extended.lt, Text.precedes, fun x y => decide (x < y), fun n m => decide (n < m)⟩

/-- Smaller or equal. -/
def lessEqual? : Datum → Datum → Option Bool :=
  Order.run? ⟨Extended.le, fun s t => !Text.precedes t s, fun x y => !decide (y < x),
    fun n m => decide (n ≤ m)⟩

/-- Strictly greater. -/
def greater? : Datum → Datum → Option Bool :=
  Order.run? ⟨fun x y => y.lt x, fun s t => Text.precedes t s, fun x y => decide (y < x),
    fun n m => decide (m < n)⟩

/-- Greater or equal. -/
def greaterEqual? : Datum → Datum → Option Bool :=
  Order.run? ⟨fun x y => y.le x, fun s t => !Text.precedes s t, fun x y => !decide (x < y),
    fun n m => decide (m ≤ n)⟩

/-! ## Membership -/

/-- Whether one of several elements equals an item: yes if any does, undecided if a comparison was. -/
def memberAmong? (item : Datum) : Option Bool → List Datum → Option Bool
  | found, [] => found
  | found, c :: rest =>
      match equal? c item with
      | some true => some true
      | some false => memberAmong? item found rest
      | none => memberAmong? item none rest

/-- Whether an item is in a collection. -/
def member? (item container : Datum) : Option Bool :=
  container.elements?.bind (memberAmong? item (some false))

/-- The outcome of a comparison. -/
def compare? (relation : Relation) (a b : Datum) : Option Bool :=
  match relation with
  | .eq => equal? a b
  | .ne => differ? a b
  | .lt => less? a b
  | .le => lessEqual? a b
  | .gt => greater? a b
  | .ge => greaterEqual? a b
  | .isIn => member? a b

end SearchTables.Datum
