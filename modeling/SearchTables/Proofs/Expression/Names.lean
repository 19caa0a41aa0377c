import SearchTables.Proofs.Expression.Fragment

/-! # Names — an expression sees what it names

An expression is evaluated in a scope, and of the scope it uses the names that are written in it:
two scopes that agree on these give it the same value (`Expression.evaluate_congr`). Quantifiers bind
a variable in both scopes alike. So a column whose name an expression does not use can be added to a
row, and the filter of the expression keeps the row or not as before (`RowFilter.keeps_concat`). -/

namespace SearchTables

/-! ## Scopes that agree -/

/-- Two scopes **agree on names** when each of the names stands for the same in both. -/
def Scope.Agree (names : List String) (s t : Scope) : Prop := ∀ n ∈ names, s.lookup n = t.lookup n

namespace Scope.Agree

variable {names others : List String} {s t : Scope}

/-- Scopes that agree on some names agree on fewer names. -/
theorem mono (h : Scope.Agree names s t) (hsub : others ⊆ names) : Scope.Agree others s t :=
  fun n hn => h n (hsub hn)

/-- Scopes that agree on two lists of names agree on each of them. -/
theorem append (h : Scope.Agree (names ++ others) s t) :
    Scope.Agree names s t ∧ Scope.Agree others s t :=
  ⟨h.mono (List.subset_append_left ..), h.mono (List.subset_append_right ..)⟩

/-- Scopes that agree on several names agree on the names after the first one. -/
theorem tail {n : String} (h : Scope.Agree (n :: names) s t) : Scope.Agree names s t :=
  h.mono (List.subset_cons_self ..)

/-- A variable bound in two scopes does not part them. -/
theorem bind (h : Scope.Agree names s t) (d : Datum) (name : String) :
    Scope.Agree names (s.bind d [name]) (t.bind d [name]) := by
  intro n hn
  by_cases hname : n = name
  · subst hname
    have heq := h n hn
    rw [Scope.bind, Scope.bind, heq]
    split
    · exact heq
    · rw [lookup_insertMember_self, lookup_insertMember_self]
  · have hhead : [name].head? ≠ some n := fun he => hname (Option.some.inj he).symm
    rw [lookup_bind_of_ne s d hhead, lookup_bind_of_ne t d hhead]
    exact h n hn

end Scope.Agree

/-! ## What an expression uses -/

namespace Expression

/-- A name stands for the same in scopes that agree on it. -/
theorem named?_congr {name : String} {s t : Scope} (h : s.lookup name = t.lookup name) :
    named? s name = named? t name := by
  rw [named?, named?, Scope.datum?, Scope.datum?, h]

/-- A quantifier depends on the scope only through its body. -/
theorem quantified_congr {names : List String} {s t : Scope} (h : Scope.Agree names s t)
    (q : Quantifier) (target : Datum) (arguments : List Expression) {body : Scope → Evaluation}
    (hbody : ∀ {s t : Scope}, Scope.Agree names s t → body s = body t) :
    quantified q s target arguments body = quantified q t target arguments body := by
  match arguments with
  | [] | [_] | _ :: _ :: _ :: _ => rfl
  | [first, second] =>
      have heach : ∀ name : String,
          (fun d => body (s.bind d [name])) = fun d => body (t.bind d [name]) :=
        fun name => funext fun d => hbody (h.bind d name)
      simp only [quantified, heach]

mutual

/-- **An expression has one value in scopes that agree on its names.** The induction is on the
expression. -/
theorem evaluate_congr : ∀ {e : Expression} {s t : Scope}, Scope.Agree e.names s t →
    e.evaluate s = e.evaluate t
  | .literal _, _, _, _ => rfl
  | .ident name, _, _, h | .rootIdent name, _, _, h =>
      congrArg Except.ok (named?_congr (h name (List.mem_singleton_self name)))
  | .call _ _, _, _, h => by
      rw [evaluate, evaluate, evaluateAll_congr h.tail]
  | .rootCall name _, _, _, h => by
      rw [evaluate, evaluate, evaluateAll_congr h.tail, named?_congr (h name List.mem_cons_self)]
  | .group inner, s, t, h => evaluate_congr (e := inner) h
  | .list items, s, t, h => by
      have hitems : evaluateAll s items = evaluateAll t items := evaluateAll_congr h
      rw [evaluate, evaluate, hitems]
  | .map entries, s, t, h => by
      have hentries : evaluateEntries s entries = evaluateEntries t entries :=
        evaluateEntries_congr h
      rw [evaluate, evaluate, hentries]
  | .member _ _, _, _, h => by
      rw [evaluate, evaluate, evaluate_congr h.append.1]
  | .method object name arguments, s, t, h => by
      have harguments : Scope.Agree (namesAll arguments) s t := h.append.2.tail
      rw [evaluate, evaluate, evaluate_congr h.append.1, evaluateAll_congr harguments]
      refine bind_congr fun target => ?_
      rcases Quantifier.ofName? name with - | q
      · rfl
      rcases target with - | target
      · rfl
      -- the scopes of the body have one more name, bound to the same datum in both
      refine quantified_congr harguments q target arguments ?_
      intro u v hnames
      match arguments, hnames with
      | [], _ | [_], _ | _ :: _ :: _ :: _, _ => rfl
      | [_, body], hnames => exact evaluate_congr hnames.append.2.append.1
  | .index _ _, _, _, h => by
      rw [evaluate, evaluate, evaluate_congr h.append.1, evaluate_congr h.append.2]
  | .message _ _, _, _, h => by
      rw [evaluate, evaluate, evaluate_congr h.append.1, evaluateFields_congr h.append.2]
  | .not operand, _, _, h | .neg operand, _, _, h => by
      rw [evaluate, evaluate, evaluate_congr (e := operand) h]
  | .arithmetic _ _ _, _, _, h | .relation _ _ _, _, _, h | .and _ _, _, _, h
  | .or _ _, _, _, h => by
      rw [evaluate, evaluate, evaluate_congr h.append.1, evaluate_congr h.append.2]
  | .conditional _ _ _, _, _, h => by
      rw [evaluate, evaluate, evaluate_congr h.append.1.append.1,
        evaluate_congr h.append.1.append.2, evaluate_congr h.append.2]

/-- Several expressions have the same values in scopes that agree on their names. -/
theorem evaluateAll_congr : ∀ {es : List Expression} {s t : Scope}, Scope.Agree (namesAll es) s t →
    evaluateAll s es = evaluateAll t es
  | [], _, _, _ => rfl
  | _ :: _, _, _, h => by
      rw [evaluateAll, evaluateAll, evaluate_congr h.append.1, evaluateAll_congr h.append.2]

/-- Several entries have the same keys and values in scopes that agree on their names. -/
theorem evaluateEntries_congr : ∀ {entries : List (Expression × Expression)} {s t : Scope},
    Scope.Agree (namesEntries entries) s t → evaluateEntries s entries = evaluateEntries t entries
  | [], _, _, _ => rfl
  | (_, _) :: _, _, _, h => by
      rw [evaluateEntries, evaluateEntries, evaluate_congr h.append.1.append.1,
        evaluate_congr h.append.1.append.2, evaluateEntries_congr h.append.2]

/-- Several fields have the same values in scopes that agree on their names. -/
theorem evaluateFields_congr : ∀ {fields : List (String × Expression)} {s t : Scope},
    Scope.Agree (namesFields fields) s t → evaluateFields s fields = evaluateFields t fields
  | [], _, _, _ => rfl
  | (_, _) :: _, _, _, h => by
      have hrest := h.tail.append
      rw [evaluateFields, evaluateFields, evaluate_congr hrest.1, evaluateFields_congr hrest.2]

end

end Expression

/-! ## Columns that are not used -/

section Concat

variable {row : Row} {column : String} {v : Value} {d : Datum} {names : List String}

/-- The data of a row with one more cell. -/
theorem rowData_concat (hd : Datum.ofValue v = .ok d) (row : Row) (column : String) :
    rowData (row ++ [(column, v)]) = (rowData row).map (· ++ [(column, d)]) := by
  induction row with
  | nil =>
      simp only [List.nil_append, rowData, hd]
      rfl
  | cons cell row ih =>
      obtain ⟨name, x⟩ := cell
      rw [List.cons_append, rowData, rowData, ih]
      cases Datum.ofValue x with
      | error e => rfl
      | ok dx => cases rowData row <;> rfl

/-- A column that is bound after others is bound in the scope that they give. -/
theorem bindCells_concat (hnames : columnNames? column = some names)
    (cells : List (String × Datum)) (d : Datum) (scope : Scope) :
    bindCells (cells ++ [(column, d)]) scope = (bindCells cells scope).map (·.bind d names) := by
  induction cells generalizing scope with
  | nil =>
      simp only [List.nil_append, bindCells, hnames]
      rfl
  | cons cell cells ih =>
      obtain ⟨name, dx⟩ := cell
      rw [List.cons_append, bindCells, bindCells]
      cases columnNames? name with
      | none => rfl
      | some found => exact ih (scope.bind dx found)

/-- The scope of a row with one more cell. -/
theorem rowScope_concat (hd : Datum.ofValue v = .ok d) (hnames : columnNames? column = some names)
    (row : Row) : rowScope (row ++ [(column, v)]) = (rowScope row).map (·.bind d names) := by
  rw [rowScope, rowScope, rowData_concat hd]
  cases rowData row with
  | error e => rfl
  | ok cells => exact bindCells_concat hnames cells d []

/-- **A column that an expression does not name changes nothing**: with or without its cell at the
end, a row is kept or not. -/
theorem RowFilter.keeps_concat {f : RowFilter} (hd : Datum.ofValue v = .ok d)
    (hnames : columnNames? column = some names)
    (hunused : ∀ first, names.head? = some first → first ∉ f.expression.names) (row : Row) :
    f.keeps (row ++ [(column, v)]) = f.keeps row := by
  rw [keeps, keeps, rowScope_concat hd hnames]
  cases rowScope row with
  | error e => rfl
  | ok scope =>
      -- a column is bound by the first part of its name
      have hagree : Scope.Agree f.expression.names (scope.bind d names) scope :=
        fun n hn => Scope.lookup_bind_of_ne scope d fun hhead => hunused n hhead hn
      exact congrArg accepts (Expression.evaluate_congr hagree)

end Concat

end SearchTables
