import SearchTables.Proofs.Expression.Children
import SearchTables.Proofs.Expression.Exceeding

/-! # Faults — where an evaluation fails

An evaluation that goes wrong comes to no value, and the operators around it make the best of that. Only a few
places are at fault instead: a form of call without the argument that it needs, a quantifier that names no
variable or goes through no collection, a relation of moments a day away from universal time, and a function
whose arguments exceed it (`Expression.Faulty`). Such a failure passes through what is around it, but for maps
and branches, which make up for some (`Expression.Part`). So an evaluation fails when it comes to a place at
fault (`Expression.evaluate_fails_iff`), and an expression that uses none of these forms does so for its
relations alone (`Expression.Fails.of_harmless`). -/

namespace SearchTables

/-! ## Places at fault -/

namespace Expression

/-- A place **at fault** in a scope, and the failure that this is. -/
inductive Faulty (scope : Scope) : Expression → Error → Prop where
  /-- A form without the argument that it needs. -/
  | bare {name : String} (hname : name = "has" ∨ name = "dyn") :
      Faulty scope (.call name []) .missingArgument
  /-- A function whose arguments exceed it. -/
  | call {name : String} {arguments : List Expression} {values : List Datum}
      (hvalues : evaluateAll scope arguments = .ok (values.map some))
      (hexceeds : Datum.Exceeds name values) : Faulty scope (.call name arguments) .outOfRange
  /-- A method whose arguments exceed it. -/
  | method {object : Expression} {name : String} {arguments : List Expression} {target : Datum}
      {values : List Datum} (hname : Quantifier.ofName? name = none)
      (htarget : evaluate scope object = .ok (some target))
      (hvalues : evaluateAll scope arguments = .ok (values.map some))
      (hexceeds : Datum.Exceeds name (target :: values)) :
      Faulty scope (.method object name arguments) .outOfRange
  /-- A relation of moments of which one is a day away from universal time. -/
  | edge {sign : Relation} {left right : Expression} {t u : DateTime}
      (hleft : evaluate scope left = .ok (some (.moment t)))
      (hright : evaluate scope right = .ok (some (.moment u)))
      (hedge : t.isOnEdge = true ∨ u.isOnEdge = true) :
      Faulty scope (.relation sign left right) .refusedValue
  /-- A quantifier without arguments. -/
  | noArgument {object : Expression} {name : String} {q : Quantifier} {target : Datum}
      (hname : Quantifier.ofName? name = some q) (htarget : evaluate scope object = .ok (some target)) :
      Faulty scope (.method object name []) .missingArgument
  /-- A quantifier with other arguments than a variable and a body. -/
  | arguments {object : Expression} {name : String} {arguments : List Expression} {q : Quantifier}
      {target : Datum} (hname : Quantifier.ofName? name = some q)
      (htarget : evaluate scope object = .ok (some target))
      (hcount : arguments.length ≠ 0 ∧ arguments.length ≠ 2) :
      Faulty scope (.method object name arguments) .refusedValue
  /-- A quantifier that names no variable. -/
  | noVariable {object first body : Expression} {name : String} {q : Quantifier} {target : Datum}
      (hname : Quantifier.ofName? name = some q) (htarget : evaluate scope object = .ok (some target))
      (hvariable : first.boundName? = none) :
      Faulty scope (.method object name [first, body]) .missingVariable
  /-- A quantifier that goes through no collection. -/
  | noCollection {object first body : Expression} {name bound : String} {q : Quantifier}
      {target : Datum} (hname : Quantifier.ofName? name = some q)
      (htarget : evaluate scope object = .ok (some target))
      (hvariable : first.boundName? = some bound) (helements : target.elements? = none) :
      Faulty scope (.method object name [first, body]) .refusedType

/-- The expressions that are evaluated first in an expression, in order and in its scope. -/
def inputs : Expression → List Expression
  | .literal _ | .ident _ | .rootIdent _ => []
  | .call _ arguments | .rootCall _ arguments => arguments
  | .group inner => [inner]
  | .list items => items
  | .map entries => entries.flatMap fun (key, value) => [key, value]
  | .member object _ => [object]
  | .method object name arguments =>
      if (Quantifier.ofName? name).isSome then [object] else object :: arguments
  | .index object position => [object, position]
  | .message type fields => type :: fields.map (·.2)
  | .not operand | .neg operand => [operand]
  | .arithmetic _ left right | .relation _ left right | .and left right | .or left right => [left, right]
  | .conditional condition _ _ => [condition]

/-- Whether a failure of an input is one of the expression: a map makes up for values that are refused. -/
def Passes (e : Expression) (err : Error) : Prop :=
  match e with
  | .map _ => err ≠ .refusedValue ∧ err ≠ .refusedType
  | _ => True

/-- The parts of an expression in a scope whose failure is its own: what they are evaluated in, and what
comes before them. -/
inductive Part (err : Error) (scope : Scope) : Expression → Scope → Expression → Prop where
  /-- One of the inputs, after those before it have come to something. -/
  | input {e x : Expression} {before after : List Expression} {values : List (Option Datum)}
      (hinputs : e.inputs = before ++ x :: after) (hbefore : evaluateAll scope before = .ok values)
      (hpasses : e.Passes err) : Part err scope e scope x
  /-- The branch of a conditional that is looked at. A condition without a value looks at the first one. -/
  | branch {condition yes no : Expression} {c : Option Datum}
      (hcondition : evaluate scope condition = .ok c) (hpasses : err ≠ .refusedType) :
      Part err scope (.conditional condition yes no) scope
        (if (c.map Datum.isGiven).getD true then yes else no)
  /-- The body of a quantifier for an element, after those before it. -/
  | body {object first body : Expression} {name bound : String} {q : Quantifier} {target d : Datum}
      {before after : List Datum} (hname : Quantifier.ofName? name = some q)
      (htarget : evaluate scope object = .ok (some target))
      (hvariable : first.boundName? = some bound)
      (helements : target.elements? = some (before ++ d :: after))
      (hbefore : ∀ x ∈ before, q.GoesOn (evaluate (scope.bind x [bound]) body)) :
      Part err scope (.method object name [first, body]) (scope.bind d [bound]) body

/-- An expression **fails** in a scope: it, or a part of a part of it, is at fault. -/
inductive Fails : Expression → Scope → Error → Prop where
  | here {e : Expression} {scope : Scope} {err : Error} (h : Faulty scope e err) : Fails e scope err
  | part {e e' : Expression} {scope scope' : Scope} {err : Error} (hpart : Part err scope e scope' e')
      (h : Fails e' scope' err) : Fails e scope err

/-! ## Inputs -/

variable {scope : Scope} {err : Error} {a : Abort}

/-- Several expressions fail when the first one does, or the others after it. -/
theorem evaluateAll_cons_eq_error {e : Expression} {rest : List Expression} :
    evaluateAll scope (e :: rest) = .error a ↔
      evaluate scope e = .error a ∨
        ∃ v, evaluate scope e = .ok v ∧ evaluateAll scope rest = .error a := by
  rw [evaluateAll_cons, bind_eq_error]
  exact or_congr_right (exists_congr fun v => and_congr_right fun _ => bind_pure_eq_error)

/-- A single expression fails as itself. -/
theorem evaluateAll_singleton_eq_error {e : Expression} :
    evaluateAll scope [e] = .error a ↔ evaluate scope e = .error a := by
  rw [evaluateAll_cons_eq_error]
  exact or_iff_left fun ⟨v, _, hnil⟩ => by cases hnil

/-- Two expressions fail when the first one does, or the second one after it. -/
theorem evaluateAll_pair_eq_error {e e' : Expression} :
    evaluateAll scope [e, e'] = .error a ↔
      evaluate scope e = .error a ∨ ∃ v, evaluate scope e = .ok v ∧ evaluate scope e' = .error a := by
  rw [evaluateAll_cons_eq_error]
  exact or_congr_right (exists_congr fun v => and_congr_right fun _ => evaluateAll_singleton_eq_error)

/-- Several expressions have values when the first one does and the others do. -/
theorem evaluateAll_cons_eq_ok {e : Expression} {rest : List Expression} {values : List (Option Datum)} :
    evaluateAll scope (e :: rest) = .ok values ↔
      ∃ v vs, evaluate scope e = .ok v ∧ evaluateAll scope rest = .ok vs ∧ values = v :: vs := by
  rw [evaluateAll_cons, bind_eq_ok]
  refine exists_congr fun v => ?_
  simp only [bind_eq_ok, pure_eq_ok]
  constructor
  · rintro ⟨hv, vs, hvs, rfl⟩
    exact ⟨vs, hv, hvs, rfl⟩
  · rintro ⟨vs, hv, hvs, rfl⟩
    exact ⟨hv, vs, hvs, rfl⟩

/-- Several expressions are evaluated one after the other. -/
theorem evaluateAll_eq_mapM (es : List Expression) : evaluateAll scope es = es.mapM (evaluate scope) := by
  induction es with
  | nil => rfl
  | cons e rest ih => rw [evaluateAll_cons, List.mapM_cons, ih]

/-- **Several expressions fail when one of them does**, after those before it. -/
theorem evaluateAll_eq_error {es : List Expression} :
    evaluateAll scope es = .error a ↔
      ∃ before x after values, es = before ++ x :: after ∧ evaluateAll scope before = .ok values ∧
        evaluate scope x = .error a := by
  simp only [evaluateAll_eq_mapM]
  exact mapM_eq_error

/-- The entries of a map fail as their keys and values do, in turn. The induction is on the entries. -/
theorem evaluateEntries_eq_error {entries : List (Expression × Expression)} :
    evaluateEntries scope entries = .error a ↔
      evaluateAll scope (entries.flatMap fun (key, value) => [key, value]) = .error a := by
  induction entries with
  | nil => simp [evaluateEntries, evaluateAll]
  | cons entry rest ih =>
      obtain ⟨key, value⟩ := entry
      have hflat : ((key, value) :: rest).flatMap (fun (key, value) => [key, value]) =
          key :: value :: rest.flatMap fun (key, value) => [key, value] := rfl
      rw [hflat, evaluateAll_cons_eq_error, evaluateEntries, bind_eq_error]
      refine or_congr_right (exists_congr fun v => and_congr_right fun _ => ?_)
      rw [evaluateAll_cons_eq_error, bind_eq_error, ← ih]
      exact or_congr_right (exists_congr fun w => and_congr_right fun _ => bind_pure_eq_error)

/-- The fields of a message are evaluated like several expressions. The induction is on the fields. -/
theorem evaluateFields_eq {fields : List (String × Expression)} :
    evaluateFields scope fields = evaluateAll scope (fields.map (·.2)) := by
  induction fields with
  | nil => rfl
  | cons field rest ih =>
      obtain ⟨name, value⟩ := field
      rw [List.map_cons, evaluateAll_cons, evaluateFields, ih]

/-! ## One step -/

/-- The body of a quantifier is what is evaluated for its elements. -/
theorem evaluate_quantified {object first body : Expression} {name bound : String} {q : Quantifier}
    {target : Datum} {elements : List Datum} (hname : Quantifier.ofName? name = some q)
    (htarget : evaluate scope object = .ok (some target)) (hbound : first.boundName? = some bound)
    (helements : target.elements? = some elements) :
    evaluate scope (.method object name [first, body]) =
      q.run elements fun d => evaluate (scope.bind d [bound]) body := by
  rw [evaluate, htarget, hname]
  simp only [bind, Except.bind, quantified, hbound, helements]

/-- A conditional comes to what its branch does, but for types that are refused. -/
theorem evaluate_branch {condition yes no : Expression} {c : Option Datum}
    (hcondition : evaluate scope condition = .ok c) :
    evaluate scope (.conditional condition yes no) =
      chosen c (evaluate scope (if (c.map Datum.isGiven).getD true then yes else no)) := by
  rw [evaluate, hcondition]
  simp only [bind, Except.bind]
  split <;> rfl

/-- The failure of a branch is one of the conditional, but for types that are refused. -/
theorem chosen_eq_error {c : Option Datum} {branch : Evaluation} :
    chosen c branch = .error (.failed err) ↔ branch = .error (.failed err) ∧ err ≠ .refusedType := by
  unfold chosen
  split
  · constructor
    · intro h
      cases h
    · rintro ⟨h, hne⟩
      exact absurd (Abort.failed.inj (Except.error.inj h)).symm hne
  · rename_i hbranch
    constructor
    · intro h
      refine ⟨h, ?_⟩
      rintro rfl
      exact hbranch h
    · exact And.left
  · simp
  · rename_i e hbranch _
    constructor
    · intro h
      obtain rfl := Except.error.inj h
      refine ⟨rfl, ?_⟩
      rintro rfl
      exact hbranch rfl
    · exact And.left

/-- The failure of the entries is one of their map, but for values and types that are refused. -/
theorem mapped_eq_error {entries : Except Abort (List (Option Datum × Option Datum))} :
    mapped entries = .error (.failed err) ↔
      entries = .error (.failed err) ∧ err ≠ .refusedValue ∧ err ≠ .refusedType := by
  unfold mapped
  split
  · simp
  · constructor
    · intro h
      cases h
    · rintro ⟨h, hvalue, -⟩
      exact absurd (Abort.failed.inj (Except.error.inj h)).symm hvalue
  · constructor
    · intro h
      cases h
    · rintro ⟨h, -, htype⟩
      exact absurd (Abort.failed.inj (Except.error.inj h)).symm htype
  · rename_i a hvalue htype
    constructor
    · intro h
      obtain rfl := Except.error.inj h
      exact ⟨rfl, fun heq => hvalue (heq ▸ rfl), fun heq => htype (heq ▸ rfl)⟩
    · rintro ⟨h, -⟩
      obtain rfl := Except.error.inj h
      rfl

/-- A form of call fails without its argument, and a function on arguments that exceed it. -/
theorem of_called {name : String} {values : List (Option Datum)}
    (h : called name values = .error (.failed err)) :
    (name = "has" ∨ name = "dyn") ∧ values = [] ∧ err = .missingArgument ∨
      err = .outOfRange ∧ ∃ given, values = given.map some ∧ Datum.Exceeds name given := by
  unfold called at h
  split at h
  · rename_i hname
    split at h
    · exact .inl ⟨.inl hname, rfl, (Abort.failed.inj (Except.error.inj h)).symm⟩
    · cases h
  split at h
  · rename_i hname
    split at h
    · exact .inl ⟨.inr hname, rfl, (Abort.failed.inj (Except.error.inj h)).symm⟩
    · cases h
  · exact .inr (Datum.callAll_eq_error.1 (Evaluation.ofFunction_eq_error.1 h))

/-- A relation of two values fails when they are moments of which one is a day away from universal time. -/
theorem of_related {sign : Relation} {a b : Option Datum} (h : related sign a b = .error (.failed err)) :
    err = .refusedValue ∧ ∃ t u, a = some (.moment t) ∧ b = some (.moment u) ∧
      (t.isOnEdge = true ∨ u.isOnEdge = true) := by
  unfold related at h
  split at h
  · rename_i t u
    split at h
    · rename_i hedge
      exact ⟨(Abort.failed.inj (Except.error.inj h)).symm, t, u, rfl, rfl, by simpa using hedge⟩
    · cases h
  · cases h
  · cases h

/-- A place at fault fails so. -/
theorem evaluate_of_faulty {e : Expression} (h : Faulty scope e err) :
    evaluate scope e = .error (.failed err) := by
  cases h with
  | bare hname => rcases hname with rfl | rfl <;> rfl
  | @call name arguments values hvalues hexceeds =>
      have hfails : Datum.callAll name (values.map some) = .error .outOfRange :=
        Datum.callAll_eq_error.2 ⟨rfl, values, rfl, hexceeds⟩
      obtain ⟨hhas, hdyn⟩ := hexceeds.ne_form
      rw [evaluate_call, hvalues]
      simp only [bind, Except.bind, called, if_neg hhas, if_neg hdyn, hfails]
      rfl
  | @method object name arguments target values hname htarget hvalues hexceeds =>
      have hfails : Datum.callAll name (some target :: values.map some) = .error .outOfRange :=
        Datum.callAll_eq_error.2 ⟨rfl, target :: values, rfl, hexceeds⟩
      rw [evaluate, htarget, hname]
      simp only [bind, Except.bind, hvalues, hfails]
      rfl
  | @edge sign left right t u hleft hright hedge =>
      have hedges : (t.isOnEdge || u.isOnEdge) = true := by simpa using hedge
      rw [evaluate_relation, hleft, hright]
      simp only [bind, Except.bind, related, hedges]
      rfl
  | noArgument hname htarget =>
      rw [evaluate, htarget, hname]
      rfl
  | @arguments object name arguments q target hname htarget hcount =>
      -- a quantifier takes two arguments, so here there is one, or there are more than two
      rw [evaluate, htarget, hname]
      match arguments, hcount with
      | [_], _ | _ :: _ :: _ :: _, _ => rfl
  | noVariable hname htarget hbound =>
      rw [evaluate, htarget, hname]
      simp only [bind, Except.bind, quantified, hbound]
      rfl
  | noCollection hname htarget hbound helements =>
      rw [evaluate, htarget, hname]
      simp only [bind, Except.bind, quantified, hbound, helements]
      rfl

/-- The failure of the inputs is one of the expression, unless that makes up for it. -/
theorem evaluate_of_inputs {e : Expression} (h : evaluateAll scope e.inputs = .error (.failed err))
    (hpasses : e.Passes err) : evaluate scope e = .error (.failed err) := by
  cases e with
  | literal | ident | rootIdent => cases h
  | call | rootCall | list =>
      rw [evaluate, bind_eq_error]
      exact .inl h
  | group inner => exact evaluateAll_singleton_eq_error.1 h
  | map entries =>
      rw [evaluate]
      exact mapped_eq_error.2 ⟨evaluateEntries_eq_error.2 h, hpasses⟩
  | member | not | neg =>
      rw [evaluate, bind_eq_error]
      exact .inl (evaluateAll_singleton_eq_error.1 h)
  | method object name arguments =>
      rw [evaluate, bind_eq_error]
      rcases hname : Quantifier.ofName? name with - | q
      · rw [inputs, hname] at h
        rcases evaluateAll_cons_eq_error.1 h with h | ⟨target, htarget, h⟩
        · exact .inl h
        · exact .inr ⟨target, htarget, bind_eq_error.2 (.inl h)⟩
      · -- of a quantifier only the object is evaluated in this scope
        rw [inputs, hname] at h
        exact .inl (evaluateAll_singleton_eq_error.1 h)
  | index | arithmetic | relation | and | or =>
      rw [evaluate, bind_eq_error]
      rcases evaluateAll_pair_eq_error.1 h with h | ⟨v, hv, h⟩
      · exact .inl h
      · exact .inr ⟨v, hv, bind_eq_error.2 (.inl h)⟩
  | message type fields =>
      rw [evaluate, bind_eq_error, evaluateFields_eq]
      rcases evaluateAll_cons_eq_error.1 h with h | ⟨v, hv, h⟩
      · exact .inl h
      · exact .inr ⟨v, hv, bind_eq_error.2 (.inl h)⟩
  | conditional =>
      rw [evaluate, bind_eq_error]
      exact .inl (evaluateAll_singleton_eq_error.1 h)

/-- The failure of a part is one of the expression. -/
theorem evaluate_of_part {e e' : Expression} {scope' : Scope} (hpart : Part err scope e scope' e')
    (h : evaluate scope' e' = .error (.failed err)) : evaluate scope e = .error (.failed err) := by
  cases hpart with
  | @input _ x before after values hinputs hbefore hpasses =>
      exact evaluate_of_inputs (evaluateAll_eq_error.2 ⟨before, _, after, values, hinputs, hbefore, h⟩)
        hpasses
  | branch hcondition hpasses =>
      rw [evaluate_branch hcondition]
      exact chosen_eq_error.2 ⟨h, hpasses⟩
  | body hname htarget hbound helements hbefore =>
      rw [evaluate_quantified hname htarget hbound helements]
      exact Quantifier.run_eq_error.2 ⟨_, _, _, rfl, hbefore, h⟩

/-- A message without fields asks for no more than a conversion of `null`, which does not fail. -/
theorem call_null_ne_error (name : String) (e : Error) : Datum.call name [.null] ≠ .error e := by
  intro h
  cases (Datum.call_eq_error.1 h).2

/-- A quantifier is at fault, or its body fails. -/
theorem faulty_or_part_of_quantifier {object : Expression} {name : String} {arguments : List Expression}
    {q : Quantifier} {target : Datum} (hname : Quantifier.ofName? name = some q)
    (htarget : evaluate scope object = .ok (some target))
    (h : evaluate scope (.method object name arguments) = .error (.failed err)) :
    Faulty scope (.method object name arguments) err ∨
      ∃ scope' e', Part err scope (.method object name arguments) scope' e' ∧
        evaluate scope' e' = .error (.failed err) := by
  match arguments, h with
  | [], h =>
      rw [evaluate, htarget, hname] at h
      obtain rfl := Abort.failed.inj (Except.error.inj h)
      exact .inl (.noArgument hname htarget)
  | [first], h =>
      rw [evaluate, htarget, hname] at h
      obtain rfl := Abort.failed.inj (Except.error.inj h)
      exact .inl (.arguments hname htarget (by simp))
  | first :: second :: third :: rest, h =>
      rw [evaluate, htarget, hname] at h
      obtain rfl := Abort.failed.inj (Except.error.inj h)
      exact .inl (.arguments hname htarget (by simp))
  | [first, body], h =>
      rcases hbound : first.boundName? with - | bound
      · rw [evaluate_of_faulty (.noVariable hname htarget hbound)] at h
        obtain rfl := Abort.failed.inj (Except.error.inj h)
        exact .inl (.noVariable hname htarget hbound)
      rcases helements : target.elements? with - | elements
      · rw [evaluate_of_faulty (.noCollection hname htarget hbound helements)] at h
        obtain rfl := Abort.failed.inj (Except.error.inj h)
        exact .inl (.noCollection hname htarget hbound helements)
      rw [evaluate_quantified hname htarget hbound helements] at h
      obtain ⟨before, d, after, rfl, hbefore, hbody⟩ := Quantifier.run_eq_error.1 h
      exact .inr ⟨_, body, .body hname htarget hbound helements hbefore, hbody⟩

/-- **What fails among the inputs of an expression is a part of it**, unless the expression makes up for it. -/
theorem exists_part_of_inputs {e : Expression} (h : evaluateAll scope e.inputs = .error (.failed err))
    (hpasses : e.Passes err) :
    ∃ scope' e', Part err scope e scope' e' ∧ evaluate scope' e' = .error (.failed err) := by
  obtain ⟨before, x, after, values, heq, hbefore, hx⟩ := evaluateAll_eq_error.1 h
  exact ⟨scope, x, .input heq hbefore hpasses, hx⟩

/-- A method that is no quantifier is at fault, or its object or one of its arguments fails. -/
theorem faulty_or_part_of_function {object : Expression} {name : String} {arguments : List Expression}
    (hname : Quantifier.ofName? name = none)
    (h : evaluate scope (.method object name arguments) = .error (.failed err)) :
    Faulty scope (.method object name arguments) err ∨
      ∃ scope' e', Part err scope (.method object name arguments) scope' e' ∧
        evaluate scope' e' = .error (.failed err) := by
  have hinput : evaluateAll scope (object :: arguments) = .error (.failed err) →
      ∃ scope' e', Part err scope (.method object name arguments) scope' e' ∧
        evaluate scope' e' = .error (.failed err) := by
    intro hinputs
    refine exists_part_of_inputs ?_ trivial
    rw [inputs, hname]
    exact hinputs
  rw [evaluate, hname, bind_eq_error] at h
  rcases h with h | ⟨target, htarget, h⟩
  · exact .inr (hinput (evaluateAll_cons_eq_error.2 (.inl h)))
  rcases bind_eq_error.1 h with h | ⟨values, hvalues, h⟩
  · exact .inr (hinput (evaluateAll_cons_eq_error.2 (.inr ⟨target, htarget, h⟩)))
  obtain ⟨rfl, given, hgiven, hexceeds⟩ :=
    Datum.callAll_eq_error.1 (Evaluation.ofFunction_eq_error.1 h)
  cases given with
  | nil => cases hgiven
  | cons d given =>
      obtain ⟨rfl, rfl⟩ := List.cons.inj hgiven
      exact .inl (.method hname htarget hvalues hexceeds)

/-- **An expression fails at fault or as a part of it does.** In each case the inputs come first, and what
they come to decides whether the place itself is at fault. -/
theorem faulty_or_part {e : Expression} (h : evaluate scope e = .error (.failed err)) :
    Faulty scope e err ∨
      ∃ scope' e', Part err scope e scope' e' ∧ evaluate scope' e' = .error (.failed err) := by
  cases e with
  | literal | ident | rootIdent => cases h
  | call name arguments =>
      rw [evaluate_call, bind_eq_error] at h
      rcases h with h | ⟨values, hvalues, h⟩
      · exact .inr (exists_part_of_inputs h trivial)
      rcases of_called h with ⟨hname, rfl, rfl⟩ | ⟨rfl, given, rfl, hexceeds⟩
      · cases arguments with
        | nil => exact .inl (.bare hname)
        | cons first rest =>
            obtain ⟨v, vs, -, -, hempty⟩ := evaluateAll_cons_eq_ok.1 hvalues
            cases hempty
      · exact .inl (.call hvalues hexceeds)
  | rootCall | list =>
      rw [evaluate, bind_eq_error] at h
      rcases h with h | ⟨values, -, h⟩
      · exact .inr (exists_part_of_inputs h trivial)
      · cases h
  | group inner => exact .inr (exists_part_of_inputs (evaluateAll_singleton_eq_error.2 h) trivial)
  | map entries =>
      rw [evaluate] at h
      obtain ⟨hentries, hpasses⟩ := mapped_eq_error.1 h
      exact .inr (exists_part_of_inputs (evaluateEntries_eq_error.1 hentries) hpasses)
  | member | not | neg =>
      rw [evaluate, bind_eq_error] at h
      rcases h with h | ⟨value, -, h⟩
      · exact .inr (exists_part_of_inputs (evaluateAll_singleton_eq_error.2 h) trivial)
      · cases h
  | method object name arguments =>
      rcases hname : Quantifier.ofName? name with - | q
      · exact faulty_or_part_of_function hname h
      rcases htarget : evaluate scope object with a | target
      · rw [evaluate, htarget] at h
        obtain rfl := Except.error.inj h
        refine .inr (exists_part_of_inputs ?_ trivial)
        rw [inputs, hname]
        exact evaluateAll_singleton_eq_error.2 htarget
      cases target with
      | none =>
          rw [evaluate, htarget, hname] at h
          cases h
      | some target => exact faulty_or_part_of_quantifier hname htarget h
  | index | arithmetic | and | or =>
      rw [evaluate, bind_eq_error] at h
      rcases h with h | ⟨v, hv, h⟩
      · exact .inr (exists_part_of_inputs (evaluateAll_pair_eq_error.2 (.inl h)) trivial)
      rcases bind_eq_error.1 h with h | ⟨w, hw, h⟩
      · exact .inr (exists_part_of_inputs (evaluateAll_pair_eq_error.2 (.inr ⟨v, hv, h⟩)) trivial)
      -- with both values there, none of these four is ever at fault
      · first
          | cases h
          | split at h <;> cases h
  | message type fields =>
      rw [evaluate, evaluateFields_eq, bind_eq_error] at h
      rcases h with h | ⟨v, hv, h⟩
      · exact .inr (exists_part_of_inputs (evaluateAll_cons_eq_error.2 (.inl h)) trivial)
      rcases bind_eq_error.1 h with h | ⟨vs, -, h⟩
      · exact .inr (exists_part_of_inputs (evaluateAll_cons_eq_error.2 (.inr ⟨v, hv, h⟩)) trivial)
      split at h
      · exact absurd (Evaluation.ofFunction_eq_error.1 h) (call_null_ne_error _ _)
      · cases h
  | relation sign left right =>
      rw [evaluate_relation, bind_eq_error] at h
      rcases h with h | ⟨v, hv, h⟩
      · exact .inr (exists_part_of_inputs (evaluateAll_pair_eq_error.2 (.inl h)) trivial)
      rcases bind_eq_error.1 h with h | ⟨w, hw, h⟩
      · exact .inr (exists_part_of_inputs (evaluateAll_pair_eq_error.2 (.inr ⟨v, hv, h⟩)) trivial)
      obtain ⟨rfl, t, u, rfl, rfl, hedge⟩ := of_related h
      exact .inl (.edge hv hw hedge)
  | conditional condition yes no =>
      rcases hcondition : evaluate scope condition with a | c
      · rw [evaluate, hcondition] at h
        obtain rfl := Except.error.inj h
        exact .inr (exists_part_of_inputs (evaluateAll_singleton_eq_error.2 hcondition) trivial)
      · rw [evaluate_branch hcondition] at h
        obtain ⟨hbranch, hpasses⟩ := chosen_eq_error.1 h
        exact .inr ⟨scope, _, .branch hcondition hpasses, hbranch⟩

/-! ## Whole expressions -/

/-- What is evaluated first in an expression is inside it. -/
theorem inputs_subset_children (e : Expression) : e.inputs ⊆ e.children := by
  cases e with
  | method object name arguments =>
      rw [inputs]
      split <;> simp [children]
  | conditional => simp [inputs, children]
  | _ => exact List.Subset.refl _

/-- The parts of an expression are inside it. -/
theorem mem_children_of_part {e e' : Expression} {scope' : Scope} (hpart : Part err scope e scope' e') :
    e' ∈ e.children := by
  cases hpart with
  | input hinputs => exact inputs_subset_children e (hinputs ▸ by simp)
  | branch => split <;> simp [children]
  | body => simp [children]

/-- **An evaluation fails when it comes to a place at fault.** The induction is on the size of the
expression, and on the way to the place. -/
theorem evaluate_fails_iff {e : Expression} :
    evaluate scope e = .error (.failed err) ↔ Fails e scope err := by
  constructor
  · intro h
    induction hsize : sizeOf e using Nat.strongRecOn generalizing e scope with
    | ind size ih =>
        subst hsize
        rcases faulty_or_part h with hfaulty | ⟨scope', e', hpart, hfails⟩
        · exact .here hfaulty
        · exact .part hpart (ih _ (sizeOf_lt_of_mem_children (mem_children_of_part hpart)) hfails rfl)
  · intro h
    induction h with
    | here hfaulty => exact evaluate_of_faulty hfaulty
    | part hpart _ ih => exact evaluate_of_part hpart ih

/-! ## Harmless expressions -/

/-- The names of the forms that may be at fault for more than the moments in a relation: what needs an
argument, whole numbers of doubles, quantifiers, and the fields of moments. -/
def hazards : List String :=
  ["has", "dyn", "int", "uint", "exists", "all", "exists_one", "filter", "map"] ++
    ClockField.functions.map (·.1)

/-- A quantifier has one of the names. -/
theorem mem_hazards_of_quantifier {name : String} {q : Quantifier} (h : Quantifier.ofName? name = some q) :
    name ∈ hazards := by
  by_contra hname
  simp only [hazards, List.mem_append, List.mem_cons, List.not_mem_nil, or_false, not_or] at hname
  simp [Quantifier.ofName?, hname] at h

/-- A function whose arguments exceed it has one of the names. -/
theorem mem_hazards_of_exceeds {name : String} {arguments : List Datum}
    (h : Datum.Exceeds name arguments) : name ∈ hazards := by
  cases h with
  | whole hname => rcases hname with rfl | rfl <;> decide
  | @field field _ _ _ hname =>
      exact List.mem_append_right _ (List.mem_map.2 ⟨(name, field), mem_of_lookup hname, rfl⟩)

/-- **An expression without these names fails for its relations alone.** The induction is on the way to the
place at fault. -/
theorem Fails.of_harmless {e : Expression} (h : Fails e scope err)
    (hnames : ∀ name ∈ e.names, name ∉ hazards) : err = .refusedValue := by
  induction h with
  | part hpart _ ih =>
      refine ih fun name hname => hnames name ?_
      exact names_subset_of_mem_children (mem_children_of_part hpart) hname
  | here hfaulty =>
      cases hfaulty with
      | edge => rfl
      | @bare name hname =>
          refine absurd ?_ (hnames name List.mem_cons_self)
          rcases hname with rfl | rfl <;> decide
      | @call name _ _ _ hexceeds =>
          exact absurd (mem_hazards_of_exceeds hexceeds) (hnames name List.mem_cons_self)
      | @method _ name _ _ _ _ _ _ hexceeds =>
          exact absurd (mem_hazards_of_exceeds hexceeds) (hnames name (by simp [names]))
      | @noArgument _ name _ _ hname | @arguments _ name _ _ _ hname
      | @noVariable _ _ _ name _ _ hname | @noCollection _ _ _ name _ _ _ hname =>
          exact absurd (mem_hazards_of_quantifier hname) (hnames name (by simp [names]))

end Expression

end SearchTables
