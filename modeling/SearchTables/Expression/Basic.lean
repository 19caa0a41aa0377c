/-! # Filter expressions

The language in which filters are written: comparisons, boolean and arithmetic operators, members, calls and
literals. An expression has a **rank**, the level of the grammar that it belongs to, from the conditional at
the top to the primary expressions at the bottom. -/

namespace SearchTables

/-- A literal as it is written. Numbers keep their digits and texts their escapes. -/
inductive Literal where
  | null
  | bool (value : Bool)
  | int (negative hexadecimal : Bool) (digits : List Nat)
  | uint (negative hexadecimal : Bool) (digits : List Nat)
  | double (value : Float)
  | text (raw : Bool) (body : List Char)
  | bytes (raw : Bool) (body : List Char)
deriving Inhabited

/-- A comparison operator of expressions. -/
inductive Relation where
  | lt | le | ge | gt | eq | ne | isIn
deriving DecidableEq, Repr, Inhabited

/-- An arithmetic operator. -/
inductive Arithmetic where
  | add | sub | mul | div | mod
deriving DecidableEq, Repr, Inhabited

/-- An expression. -/
inductive Expression where
  | literal (value : Literal)
  | ident (name : String)
  /-- A name with a dot before it. -/
  | rootIdent (name : String)
  | call (name : String) (arguments : List Expression)
  /-- A call with a dot before it. -/
  | rootCall (name : String) (arguments : List Expression)
  | group (inner : Expression)
  | list (items : List Expression)
  | map (entries : List (Expression × Expression))
  | member (object : Expression) (name : String)
  | method (object : Expression) (name : String) (arguments : List Expression)
  | index (object : Expression) (position : Expression)
  /-- A message with named fields. -/
  | message (type : Expression) (fields : List (String × Expression))
  | not (operand : Expression)
  | neg (operand : Expression)
  | arithmetic (operator : Arithmetic) (left right : Expression)
  | relation (relation : Relation) (left right : Expression)
  | and (left right : Expression)
  | or (left right : Expression)
  | conditional (condition yes no : Expression)
deriving Inhabited

namespace Arithmetic

/-- The rank of a sum, or of a product. -/
def rank : Arithmetic → Nat
  | .add | .sub => 4
  | .mul | .div | .mod => 5

end Arithmetic

namespace Expression

/-! ## Ranks -/

/-- The rank of a whole expression. -/
def topRank : Nat := 0

/-- The rank of disjunctions. -/
def orRank : Nat := 1

/-- The rank of conjunctions. -/
def andRank : Nat := 2

/-- The rank of comparisons. -/
def relationRank : Nat := 3

/-- The rank of sums. -/
def sumRank : Nat := 4

/-- The rank of signed and negated operands. -/
def unaryRank : Nat := 6

/-- The rank of operands to which a member or an index may be attached. -/
def memberRank : Nat := 7

/-- The rank of an expression: the level of the grammar at which it is an expression of its own. -/
def rank : Expression → Nat
  | .conditional _ _ _ => topRank
  | .or _ _ => orRank
  | .and _ _ => andRank
  | .relation _ _ _ => relationRank
  | .arithmetic operator _ _ => operator.rank
  | .not _ | .neg _ => unaryRank
  | .member _ _ | .method _ _ _ | .index _ _ | .message _ _ => 8
  | _ => 9

/-! ## Names -/

mutual

/-- All names in an expression: variables, functions, members, methods and fields. -/
def names : Expression → List String
  | .literal _ => []
  | .ident n | .rootIdent n => [n]
  | .call n arguments | .rootCall n arguments => n :: namesAll arguments
  | .group inner => names inner
  | .list items => namesAll items
  | .map entries => namesEntries entries
  | .member object n => names object ++ [n]
  | .method object n arguments => names object ++ n :: namesAll arguments
  | .index object position => names object ++ names position
  | .message type fields => names type ++ namesFields fields
  | .not operand | .neg operand => names operand
  | .arithmetic _ left right | .relation _ left right | .and left right | .or left right =>
      names left ++ names right
  | .conditional condition yes no => names condition ++ names yes ++ names no

/-- The names in several expressions. -/
def namesAll : List Expression → List String
  | [] => []
  | e :: rest => names e ++ namesAll rest

/-- The names in the entries of a map. -/
def namesEntries : List (Expression × Expression) → List String
  | [] => []
  | (key, value) :: rest => names key ++ names value ++ namesEntries rest

/-- The names in the fields of a message. -/
def namesFields : List (String × Expression) → List String
  | [] => []
  | (n, value) :: rest => n :: names value ++ namesFields rest

end

/-! ## Names that stand alone -/

mutual

/-- The names that stand alone in an expression, without a dot before or an argument list after them. -/
def mentioned : Expression → List String
  | .literal _ | .rootIdent _ => []
  | .ident n => [n]
  | .call _ arguments | .rootCall _ arguments => mentionedAll arguments
  | .group inner => mentioned inner
  | .list items => mentionedAll items
  | .map entries => mentionedEntries entries
  | .member object _ => mentioned object
  | .method object _ arguments => mentioned object ++ mentionedAll arguments
  | .index object position => mentioned object ++ mentioned position
  | .message type fields => mentioned type ++ mentionedFields fields
  | .not operand | .neg operand => mentioned operand
  | .arithmetic _ left right | .relation _ left right | .and left right | .or left right =>
      mentioned left ++ mentioned right
  | .conditional condition yes no => mentioned condition ++ mentioned yes ++ mentioned no

/-- The names that stand alone in several expressions. -/
def mentionedAll : List Expression → List String
  | [] => []
  | e :: rest => mentioned e ++ mentionedAll rest

/-- The names that stand alone in the entries of a map. -/
def mentionedEntries : List (Expression × Expression) → List String
  | [] => []
  | (key, value) :: rest => mentioned key ++ mentioned value ++ mentionedEntries rest

/-- The names that stand alone in the fields of a message. -/
def mentionedFields : List (String × Expression) → List String
  | [] => []
  | (_, value) :: rest => mentioned value ++ mentionedFields rest

end

end Expression

end SearchTables
