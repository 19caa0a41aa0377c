import SearchTables.Expression.Lexical

/-! # Reading expressions

From loose to tight: conditional, `||`, `&&`, comparisons, sums, products, signs, members, primary
expressions. The binary operators associate to the left. Each level is read by a function of its own; what
stands in brackets is read by a given function, so that the levels of brackets are the only recursion. -/

namespace SearchTables.Expression

/-- A reader takes the start of a text and leaves the rest. -/
abbrev Reader := List Char → Option (Expression × List Char)

/-- Expressions separated by commas, up to a closing sign. -/
def readItems (inner : Reader) (close : Char) : Nat → List Char → Option (List Expression × List Char)
  | 0, _ => none
  | steps + 1, cs =>
      match inner cs with
      | none => none
      | some (e, rest) =>
          match takeSign? [close] rest with
          | some rest => some ([e], rest)
          | none =>
              match takeSign? [','] rest with
              | none => none
              | some rest =>
                  (readItems inner close steps rest).map fun (es, rest) => (e :: es, rest)

/-- Possibly no expressions, up to a closing sign. -/
def readList (inner : Reader) (close : Char) (cs : List Char) :
    Option (List Expression × List Char) :=
  match takeSign? [close] cs with
  | some rest => some ([], rest)
  | none => readItems inner close (cs.length + 1) cs

/-- The entries of a map up to its closing brace. -/
def readEntries (inner : Reader) : Nat → List Char →
    Option (List (Expression × Expression) × List Char)
  | 0, _ => none
  | steps + 1, cs => do
      let (key, rest) ← inner cs
      let rest ← takeSign? [':'] rest
      let (value, rest) ← inner rest
      match takeSign? ['\x7d'] rest with
      | some rest => some ([(key, value)], rest)
      | none => do
          let rest ← takeSign? [','] rest
          let (entries, rest) ← readEntries inner steps rest
          some ((key, value) :: entries, rest)

/-- The fields of a message up to its closing brace. -/
def readFields (inner : Reader) : Nat → List Char → Option (List (String × Expression) × List Char)
  | 0, _ => none
  | steps + 1, cs => do
      let (name, rest) ← takeName? cs
      let rest ← takeSign? [':'] rest
      let (value, rest) ← inner rest
      match takeSign? ['\x7d'] rest with
      | some rest => some ([(name, value)], rest)
      | none => do
          let rest ← takeSign? [','] rest
          let (fields, rest) ← readFields inner steps rest
          some ((name, value) :: fields, rest)

/-- A word where an operand may begin: a truth value, `null`, a call or a name. -/
def readWord (inner : Reader) (word : String) (rest : List Char) :
    Option (Expression × List Char) :=
  if isTruthWord word then some (.literal (.bool (word = "true")), rest)
  else if word = "null" then some (.literal .null, rest)
  else
    match takeSign? ['('] rest with
    | none => some (.ident word, rest)
    | some rest => (readList inner ')' rest).map fun (es, rest) => (.call word es, rest)

/-- What follows a dot where an operand may begin. -/
def readRoot (inner : Reader) (cs : List Char) : Option (Expression × List Char) := do
  let (name, rest) ← takeName? cs
  match takeSign? ['('] rest with
  | none => some (.rootIdent name, rest)
  | some rest => (readList inner ')' rest).map fun (es, rest) => (.rootCall name es, rest)

/-- A primary expression. -/
def readPrimary (inner : Reader) (cs : List Char) : Option (Expression × List Char) :=
  let cs := skipBlanks cs
  match takeLiteral? cs with
  | some (value, rest) => some (.literal value, rest)
  | none =>
      match takeWord? cs with
      | some (word, rest) => readWord inner word rest
      | none =>
          match cs with
          | '(' :: rest => do
              let (e, rest) ← inner rest
              let rest ← takeSign? [')'] rest
              some (.group e, rest)
          | '[' :: rest => (readList inner ']' rest).map fun (es, rest) => (.list es, rest)
          | '\x7b' :: rest =>
              match takeSign? ['\x7d'] rest with
              | some rest => some (.map [], rest)
              | none =>
                  (readEntries inner (rest.length + 1) rest).map fun (entries, rest) =>
                    (.map entries, rest)
          | '.' :: rest => readRoot inner rest
          | _ => none

/-- Members, calls and indices attached to an operand. -/
def readAttached (inner : Reader) : Nat → Expression → List Char → Option (Expression × List Char)
  | 0, e, cs => some (e, cs)
  | steps + 1, e, cs =>
      match skipBlanks cs with
      | '.' :: rest => do
          let (name, rest) ← takeName? rest
          match takeSign? ['('] rest with
          | none => readAttached inner steps (.member e name) rest
          | some rest => do
              let (arguments, rest) ← readList inner ')' rest
              readAttached inner steps (.method e name arguments) rest
      | '[' :: rest => do
          let (position, rest) ← inner rest
          let rest ← takeSign? [']'] rest
          readAttached inner steps (.index e position) rest
      | '\x7b' :: rest =>
          match takeSign? ['\x7d'] rest with
          | some rest => readAttached inner steps (.message e []) rest
          | none => do
              let (fields, rest) ← readFields inner (rest.length + 1) rest
              readAttached inner steps (.message e fields) rest
      | _ => some (e, cs)

/-- An operand with what is attached to it. -/
def readMember (inner : Reader) (cs : List Char) : Option (Expression × List Char) := do
  let (e, rest) ← readPrimary inner cs
  readAttached inner (rest.length + 1) e rest

/-- Signs and negations before an operand. A minus that belongs to a number is none of them. -/
def readUnary (inner : Reader) : Nat → List Char → Option (Expression × List Char)
  | 0, _ => none
  | steps + 1, cs =>
      match skipBlanks cs with
      | '!' :: rest => (readUnary inner steps rest).map fun (e, rest) => (.not e, rest)
      | '-' :: rest =>
          if (takeUnsigned? true rest).isSome then readMember inner ('-' :: rest)
          else (readUnary inner steps rest).map fun (e, rest) => (.neg e, rest)
      | cs => readMember inner cs

/-- A chain of operands with binary operators of one level between them, associated to the left. -/
def readChain {α : Type} (operand : Reader) (operator : List Char → Option (α × List Char))
    (join : α → Expression → Expression → Expression) :
    Nat → Expression → List Char → Option (Expression × List Char)
  | 0, left, cs => some (left, cs)
  | steps + 1, left, cs =>
      match operator (skipBlanks cs) with
      | none => some (left, cs)
      | some (op, rest) =>
          match operand rest with
          | none => none
          | some (right, rest) => readChain operand operator join steps (join op left right) rest

/-- An operand and the chain that starts with it. -/
def readLevel {α : Type} (operand : Reader) (operator : List Char → Option (α × List Char))
    (join : α → Expression → Expression → Expression) (cs : List Char) :
    Option (Expression × List Char) := do
  let (e, rest) ← operand cs
  readChain operand operator join (rest.length + 1) e rest

/-- A multiplicative operator. -/
def takeProductSign? : List Char → Option (Arithmetic × List Char)
  | '*' :: rest => some (.mul, rest)
  | '/' :: rest => some (.div, rest)
  | '%' :: rest => some (.mod, rest)
  | _ => none

/-- An additive operator. -/
def takeSumSign? : List Char → Option (Arithmetic × List Char)
  | '+' :: rest => some (.add, rest)
  | '-' :: rest => some (.sub, rest)
  | _ => none

/-- A comparison operator. -/
def takeRelation? : List Char → Option (Relation × List Char)
  | '<' :: '=' :: rest => some (.le, rest)
  | '>' :: '=' :: rest => some (.ge, rest)
  | '=' :: '=' :: rest => some (.eq, rest)
  | '!' :: '=' :: rest => some (.ne, rest)
  | '<' :: rest => some (.lt, rest)
  | '>' :: rest => some (.gt, rest)
  | 'i' :: 'n' :: rest => some (.isIn, rest)
  | _ => none

/-- The sign of conjunction. -/
def takeAnd? : List Char → Option (Unit × List Char)
  | '&' :: '&' :: rest => some ((), rest)
  | _ => none

/-- The sign of disjunction. -/
def takeOr? : List Char → Option (Unit × List Char)
  | '|' :: '|' :: rest => some ((), rest)
  | _ => none

/-- Products, sums, comparisons, conjunctions and disjunctions, each made of those before. -/
def readOr (inner : Reader) : Reader :=
  let unary : Reader := fun cs => readUnary inner (cs.length + 1) cs
  let product := readLevel unary takeProductSign? .arithmetic
  let sum := readLevel product takeSumSign? .arithmetic
  let relation := readLevel sum takeRelation? .relation
  let conjunction := readLevel relation takeAnd? fun _ => .and
  readLevel conjunction takeOr? fun _ => .or

/-- A whole expression with at most a given number of levels of brackets. -/
def readAt : Nat → Reader
  | 0, _ => none
  | levels + 1, cs => do
      let inner := readAt levels
      let (e, rest) ← readOr inner cs
      match takeSign? ['?'] rest with
      | none => some (e, rest)
      | some rest => do
          let (yes, rest) ← readOr inner rest
          let rest ← takeSign? [':'] rest
          let (no, rest) ← inner rest
          some (.conditional e yes no, rest)

/-- Read a whole text as an expression. Every level of brackets takes a character, so there are no more
levels than characters. -/
def read? (s : String) : Option Expression :=
  let cs := s.toList
  match readAt (cs.length + 1) cs with
  | some (e, rest) => if (skipBlanks rest).isEmpty then some e else none
  | none => none

end SearchTables.Expression
