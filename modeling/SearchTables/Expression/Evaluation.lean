import SearchTables.Expression.Function
import SearchTables.Expression.Scope

/-! # Evaluating expressions

An expression is evaluated in a scope of names. An evaluation that fails has no value, and the operators
around it may still have one. A failure inside `map`, `filter` or `exists_one` **rejects** the whole
expression, and going through something that is no collection is a fault of its own. -/

namespace SearchTables

/-- Why a whole evaluation ends without a value. -/
inductive Abort where
  /-- The expression has no value. -/
  | rejected
  /-- The evaluation is at fault. -/
  | failed (error : Error)
deriving Inhabited

/-- The outcome of an evaluation: a value or none, unless everything is aborted. -/
abbrev Evaluation := Except Abort (Option Datum)

/-- The outcome of a function. -/
def Evaluation.ofFunction : Except Error (Option Datum) → Evaluation
  | .ok d => .ok d
  | .error e => .error (.failed e)

/-- A method that goes through a collection with a variable. -/
inductive Quantifier where
  | exists | all | existsOne | filter | map
deriving DecidableEq, Repr

namespace Quantifier

/-- The quantifier of a method name. -/
def ofName? (name : String) : Option Quantifier :=
  if name = "exists" then some .exists
  else if name = "all" then some .all
  else if name = "exists_one" then some .existsOne
  else if name = "filter" then some .filter
  else if name = "map" then some .map
  else none

/-- The values of a body for every element, all of which must exist. -/
def mapAll (body : Datum → Evaluation) : List Datum → Except Abort (List Datum)
  | [] => .ok []
  | d :: rest => do
      match ← body d with
      | none => throw .rejected
      | some v => do
          let vs ← mapAll body rest
          pure (v :: vs)

/-- The value of a body, where being rejected is only having none. -/
def attempt (body : Datum → Evaluation) (d : Datum) : Evaluation :=
  match body d with
  | .error .rejected => .ok none
  | outcome => outcome

/-- Join the values of a body for every element to a value so far. -/
def foldWith (join : Option Datum → Option Datum → Option Datum) (body : Datum → Evaluation) :
    Option Datum → List Datum → Evaluation
  | found, [] => .ok found
  | found, d :: rest => do
      let v ← attempt body d
      foldWith join body (join found v) rest

/-- The value of a quantifier over a collection. -/
def run (q : Quantifier) (elements : List Datum) (body : Datum → Evaluation) : Evaluation :=
  match q with
  | .exists => foldWith Datum.or? body (some (.bool false)) elements
  | .all => foldWith Datum.and? body (some (.bool true)) elements
  | .existsOne => do
      let vs ← mapAll body elements
      pure (some (.bool ((vs.filter Datum.isGiven).length == 1)))
  | .filter => do
      let vs ← mapAll body elements
      pure (some (.list .given (((elements.zip vs).filter fun (_, v) => v.isGiven).map (·.1))))
  | .map => do
      let vs ← mapAll body elements
      pure (some (.list .given vs))

end Quantifier

namespace Expression

/-- The variable that the first argument of a quantifier names: the last name that stands alone in it. -/
def boundName? (e : Expression) : Option String := e.mentioned.getLast?

/-- A branch that was chosen by a condition: only a truth value chooses, and a branch of the wrong kind has
no value. -/
def chosen (condition : Option Datum) (branch : Evaluation) : Evaluation :=
  match condition, branch with
  | _, .error (.failed .refusedType) => .ok none
  | some (.bool _), outcome => outcome
  | _, .ok _ => .ok none
  | _, .error e => .error e

/-- What a name stands for: a name of the scope, or a function. -/
def named? (scope : Scope) (name : String) : Option Datum :=
  match scope.datum? name with
  | some d => some d
  | none => if Datum.isFunction name then some (.symbol name) else none

/-- The value of a comparison. Moments on the edge of universal time cannot be compared. -/
def related (relation : Relation) (a b : Option Datum) : Evaluation :=
  match a, b with
  | some (.moment t), some (.moment u) =>
      if t.isOnEdge || u.isOnEdge then throw (.failed .refusedValue)
      else .ok ((Datum.compare? relation (.moment t) (.moment u)).map .bool)
  | some a, some b => .ok ((Datum.compare? relation a b).map .bool)
  | _, _ => .ok none

/-- The value of a function that is written like a name in front of arguments. -/
def called (name : String) (arguments : List (Option Datum)) : Evaluation :=
  if name = "has" then
    match arguments with
    | [] => throw (.failed .missingArgument)
    | d :: _ => .ok (some (.bool d.isSome))
  else if name = "dyn" then
    match arguments with
    | [] => throw (.failed .missingArgument)
    | d :: _ => .ok d
  else .ofFunction (Datum.callAll name arguments)

/-- The value of a quantifier as a method of a datum, given how its body is evaluated in a scope. -/
def quantified (q : Quantifier) (scope : Scope) (target : Datum) (arguments : List Expression)
    (body : Scope → Evaluation) : Evaluation :=
  match arguments with
  | [] => throw (.failed .missingArgument)
  | [first, _] =>
      match first.boundName?, target.elements? with
      | none, _ => throw (.failed .missingVariable)
      | some _, none => throw (.failed .refusedType)
      | some name, some elements => q.run elements fun d => body (scope.bind d [name])
  | _ => throw (.failed .refusedValue)

/-- The map of several entries; a key must have a place of its own. -/
def mapOf? : List (Datum × Datum) → List (Option Datum × Option Datum) → Option Datum
  | found, [] => some (.map found)
  | found, (some key, value) :: rest =>
      match key.hasPlace, Datum.findKey? key found with
      | true, some none => mapOf? (found ++ [(key, .ofOption value)]) rest
      | _, _ => none
  | _, (none, _) :: _ => none

/-- The outcome of evaluating entries, where a value or kind that is refused only fails the map. -/
def mapped (entries : Except Abort (List (Option Datum × Option Datum))) : Evaluation :=
  match entries with
  | .ok entries => .ok (mapOf? [] entries)
  | .error (.failed .refusedValue) | .error (.failed .refusedType) => .ok none
  | .error e => .error e

mutual

/-- The value of an expression in a scope. -/
def evaluate (scope : Scope) : Expression → Evaluation
  | .literal value => .ok value.datum?
  | .ident name | .rootIdent name => .ok (named? scope name)
  | .call name arguments => do
      let values ← evaluateAll scope arguments
      called name values
  | .rootCall name arguments => do
      let _ ← evaluateAll scope arguments
      pure (named? scope name)
  | .group inner => evaluate scope inner
  | .list items => do
      let values ← evaluateAll scope items
      pure ((values.mapM id).map (.list .given))
  | .map entries => mapped (evaluateEntries scope entries)
  | .member object name => do
      let object ← evaluate scope object
      pure (object.bind (Datum.memberNamed? · name))
  | .method object name arguments => do
      let target ← evaluate scope object
      match Quantifier.ofName? name, target with
      -- without a target the arguments are not even looked at
      | some _, none => pure none
      | some q, some target =>
          quantified q scope target arguments fun inner =>
            match arguments with
            | [_, body] => evaluate inner body
            | _ => .ok none
      | none, target => do
          let values ← evaluateAll scope arguments
          Evaluation.ofFunction (Datum.callAll name (target :: values))
  | .index object position => do
      let object ← evaluate scope object
      let position ← evaluate scope position
      match object, position with
      | some object, some position => pure (object.index? position)
      | _, _ => pure none
  | .message type fields => do
      let type ← evaluate scope type
      let _ ← evaluateFields scope fields
      match type, fields with
      | some (.symbol name), [] => Evaluation.ofFunction (Datum.call name [.null])
      | _, _ => pure none
  | .not operand => do
      let value ← evaluate scope operand
      pure (value.bind Datum.not?)
  | .neg operand => do
      let value ← evaluate scope operand
      pure (value.bind Datum.neg?)
  | .arithmetic operator left right => do
      let left ← evaluate scope left
      let right ← evaluate scope right
      match left, right with
      | some a, some b => pure (Datum.arithmetic? operator a b)
      | _, _ => pure none
  | .relation sign left right => do
      let left ← evaluate scope left
      let right ← evaluate scope right
      related sign left right
  | .and left right => do
      let left ← evaluate scope left
      let right ← evaluate scope right
      pure (Datum.and? left right)
  | .or left right => do
      let left ← evaluate scope left
      let right ← evaluate scope right
      pure (Datum.or? left right)
  | .conditional condition yes no => do
      let condition ← evaluate scope condition
      -- a condition that failed chooses the first branch, for the faults in it
      if (condition.map Datum.isGiven).getD true then chosen condition (evaluate scope yes)
      else chosen condition (evaluate scope no)

/-- The values of several expressions. -/
def evaluateAll (scope : Scope) : List Expression → Except Abort (List (Option Datum))
  | [] => .ok []
  | e :: rest => do
      let v ← evaluate scope e
      let vs ← evaluateAll scope rest
      pure (v :: vs)

/-- The keys and values of several entries. -/
def evaluateEntries (scope : Scope) :
    List (Expression × Expression) → Except Abort (List (Option Datum × Option Datum))
  | [] => .ok []
  | (key, value) :: rest => do
      let key ← evaluate scope key
      let value ← evaluate scope value
      let entries ← evaluateEntries scope rest
      pure ((key, value) :: entries)

/-- The values of several fields. -/
def evaluateFields (scope : Scope) : List (String × Expression) → Except Abort (List (Option Datum))
  | [] => .ok []
  | (_, value) :: rest => do
      let v ← evaluate scope value
      let vs ← evaluateFields scope rest
      pure (v :: vs)

end

end Expression

end SearchTables
