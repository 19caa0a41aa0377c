import SearchTables.Proofs.Filter.Meaning
import SearchTables.Proofs.Outcome
import Mathlib.Data.List.Forall2

/-! # Conditions on fields

The part of the language in which the fields of a row are compared with constants: comparisons with the
constant on either side, memberships, text tests, flags, and `&&`, `||` and parentheses around them. An
expression of this part **fits** a row when every path in it leads to a value of the kind of the
constants that it meets. What is read from a row and what is written as a constant then come to the same
data, and comparing them is the ordinary comparison (`Relation.Compares.compare?_eq`). -/

namespace SearchTables

/-! ## Fields and constants -/

namespace Expression

/-- An expression is the path of a field: names with dots between them. -/
inductive IsPath : Expression → List String → Prop
  | ident {name : String} (hname : isName name = true) : IsPath (.ident name) [name]
  | member {object : Expression} {names : List String} {name : String} (h : IsPath object names)
      (hname : isName name = true) : IsPath (.member object name) (names ++ [name])
  | group {inner : Expression} {names : List String} (h : IsPath inner names) :
      IsPath (.group inner) names

/-- An expression is a constant: an integer of sixty-four bits without zeros before its first digit, a truth
value, or a text without escapes and line feeds. -/
inductive IsConstant : Expression → Value → Prop
  | int {negative hexadecimal : Bool} {digits : List Nat}
      (hdigits : hexadecimal = true ∨ digits.head? ≠ some 0 ∨ digits = [0])
      (hlow : minInt64 ≤ intOf negative hexadecimal digits)
      (hhigh : intOf negative hexadecimal digits ≤ maxInt64) :
      IsConstant (.literal (.int negative hexadecimal digits))
        (.int (intOf negative hexadecimal digits))
  | bool (b : Bool) : IsConstant (.literal (.bool b)) (.bool b)
  | text {raw : Bool} {body : List Char} (hescape : '\\' ∉ body) (hfeed : '\n' ∉ body) :
      IsConstant (.literal (.text raw body)) (.str (String.ofList body))
  | group {inner : Expression} {y : Value} (h : IsConstant inner y) : IsConstant (.group inner) y

/-- An expression is a list of constants. -/
inductive IsConstantList : Expression → List Value → Prop
  | list {items : List Expression} {ys : List Value} (h : List.Forall₂ IsConstant items ys) :
      IsConstantList (.list items) ys
  | group {inner : Expression} {ys : List Value} (h : IsConstantList inner ys) :
      IsConstantList (.group inner) ys

/-- A path leads to a value of a row. Of all columns only the one with the first name of the path begins
with this name. -/
def Finds (row : Row) (e : Expression) (x : Value) : Prop :=
  ∃ names, e.IsPath names ∧ (Value.object row).along names = some x ∧
    ∀ first, names.head? = some first → ∀ column ∈ row.map Prod.fst, ∀ rest,
      columnNames? column = some (first :: rest) → column = first

end Expression

/-- A comparison is made of two values of one kind. Integers and texts are ordered, truth values are
not. -/
inductive Relation.Compares : Relation → Value → Value → Prop
  | int {relation : Relation} (h : relation ≠ .isIn) (n m : Int) :
      Compares relation (.int n) (.int m)
  | str {relation : Relation} (h : relation ≠ .isIn) (s t : String) :
      Compares relation (.str s) (.str t)
  | bool {relation : Relation} (h : relation = .eq ∨ relation = .ne) (a b : Bool) :
      Compares relation (.bool a) (.bool b)

/-- **An expression fits a row**: it is a condition on fields, and every path in it leads to a value of
the kind of the constants that it meets. -/
inductive Expression.Fits (row : Row) : Expression → Prop
  /-- A field that is a condition by itself. -/
  | flag {field : Expression} {b : Bool} (hfield : field.Finds row (.bool b)) : Fits row field
  /-- A comparison of a field with a constant. -/
  | fieldFirst {relation : Relation} {field constant : Expression} {x y : Value}
      (hfield : field.Finds row x) (hconstant : constant.IsConstant y)
      (hkinds : relation.Compares x y) : Fits row (.relation relation field constant)
  /-- The same comparison written the other way round. -/
  | constantFirst {relation : Relation} {field constant : Expression} {x y : Value}
      (hfield : field.Finds row x) (hconstant : constant.IsConstant y)
      (hkinds : relation.Compares x y) : Fits row (.relation relation constant field)
  /-- A membership of a field in a list of constants. -/
  | among {field list : Expression} {x : Value} {ys : List Value} (hfield : field.Finds row x)
      (hlist : list.IsConstantList ys) (hkinds : ∀ y ∈ ys, Relation.eq.Compares x y) :
      Fits row (.relation .isIn field list)
  /-- A pattern on a field. -/
  | like {field pattern : Expression} {s text : String} (hfield : field.Finds row (.str s))
      (hpattern : pattern.IsConstant (.str text)) : Fits row (.call "like" [field, pattern])
  /-- A test of the text in a field. -/
  | method {name : String} {field part : Expression} {s text : String}
      (hname : name = "startsWith" ∨ name = "endsWith" ∨ name = "contains")
      (hfield : field.Finds row (.str s)) (hpart : part.IsConstant (.str text)) :
      Fits row (.method field name [part])
  | group {inner : Expression} (h : Fits row inner) : Fits row (.group inner)
  | and {left right : Expression} (hleft : Fits row left) (hright : Fits row right) :
      Fits row (.and left right)
  | or {left right : Expression} (hleft : Fits row left) (hright : Fits row right) :
      Fits row (.or left right)

/-! ## What a row gives -/

/-- A column that is a name is bound to this name. -/
theorem columnNames?_of_isName {name : String} (h : isName name = true) :
    columnNames? name = some [name] := by
  have hvalid := validSegment_of_isName h
  have hne : name ≠ "" := by
    rintro rfl
    cases h
  have hfeed : withoutLineFeed name = name := by
    rw [withoutLineFeed]
    split
    · next rest heq =>
        -- a line feed is no part of a name
        have hmem : '\n' ∈ name.toList := by
          rw [← List.mem_reverse, heq]
          exact List.mem_cons_self
        rw [isName] at h
        rcases hchars : name.toList with - | ⟨c, later⟩
        · simp [hchars] at hmem
        · simp only [hchars, Bool.and_eq_true, List.all_eq_true] at h
          rw [hchars, List.mem_cons] at hmem
          rcases hmem with rfl | hmem
          · exact absurd h.1 (by decide)
          · exact absurd (h.2 _ hmem) (by decide)
    · rfl
  rw [columnNames?, hfeed, Path.segments_of_validSegment hvalid]
  simp [h]

/-- In a row whose columns are names, paths find what they lead to. -/
theorem Expression.IsPath.finds {row : Row} (hcolumns : ∀ column ∈ row.map Prod.fst, isName column = true)
    {e : Expression} {names : List String} (h : e.IsPath names) {x : Value}
    (hx : (Value.object row).along names = some x) : e.Finds row x := by
  refine ⟨names, h, hx, fun first _ column hcolumn rest hnames => ?_⟩
  rw [columnNames?_of_isName (hcolumns column hcolumn)] at hnames
  exact (List.cons.inj (Option.some.inj hnames)).1

namespace Scope

/-- Binding a name leaves every other name alone. -/
theorem lookup_bind_of_ne {names : List String} {name : String} (scope : Scope) (d : Datum)
    (h : names.head? ≠ some name) : (scope.bind d names).lookup name = scope.lookup name := by
  have hne : ∀ {first rest}, names = first :: rest → name ≠ first := by
    rintro first rest rfl rfl
    exact h rfl
  match names with
  | [] => rfl
  | [first] =>
      rw [bind]
      split
      · rfl
      · exact lookup_insertMember_of_ne (hne rfl) _ _
  | first :: second :: rest =>
      rw [bind]
      · exact lookup_insertMember_of_ne (hne rfl) _ _
      · simp

/-- A name that is bound to no names is bound to a value. -/
theorem lookup_bind_self {name : String} (scope : Scope) (d : Datum)
    (h : ∀ bindings, scope.lookup name ≠ some (.names bindings)) :
    (scope.bind d [name]).lookup name = some (.value d) := by
  rw [bind]
  split
  · next bindings heq => exact absurd heq (h bindings)
  · exact lookup_insertMember_self name _ scope

end Scope

section Cells

variable {name : String} {cells : List (String × Datum)} {scope later : Scope}

/-- Where columns are bound, the first one has names and the others are bound after it. -/
theorem bindCells_cons_eq_ok {column : String} {d : Datum}
    (h : bindCells ((column, d) :: cells) scope = .ok later) :
    ∃ names, columnNames? column = some names ∧ bindCells cells (scope.bind d names) = .ok later := by
  unfold bindCells at h
  split at h
  · next names hnames => exact ⟨names, hnames, h⟩
  · cases h

/-- Columns that begin with other names leave a name alone. -/
theorem lookup_bindCells_of_ne
    (hother : ∀ column ∈ cells.map Prod.fst, ∀ rest, columnNames? column ≠ some (name :: rest))
    (h : bindCells cells scope = .ok later) : later.lookup name = scope.lookup name := by
  induction cells generalizing scope with
  | nil =>
      obtain rfl := Except.ok.inj h
      rfl
  | cons cell cells ih =>
      obtain ⟨column, d⟩ := cell
      rw [List.map_cons, List.forall_mem_cons] at hother
      obtain ⟨names, hnames, h⟩ := bindCells_cons_eq_ok h
      rw [ih hother.2 h]
      refine Scope.lookup_bind_of_ne scope d fun hhead => ?_
      obtain ⟨rest, rfl⟩ := List.head?_eq_some_iff.mp hhead
      exact hother.1 rest hnames

/-- **A column binds its name**, if no other column begins with this name. -/
theorem lookup_bindCells (hname : isName name = true) (hkeys : (cells.map Prod.fst).Nodup)
    (halone : ∀ column ∈ cells.map Prod.fst, ∀ rest,
      columnNames? column = some (name :: rest) → column = name)
    (hfree : ∀ bindings, scope.lookup name ≠ some (.names bindings)) {d : Datum}
    (hcell : cells.lookup name = some d) (h : bindCells cells scope = .ok later) :
    later.lookup name = some (.value d) := by
  induction cells generalizing scope with
  | nil => cases hcell
  | cons cell cells ih =>
      obtain ⟨column, found⟩ := cell
      rw [List.map_cons, List.nodup_cons] at hkeys
      rw [List.map_cons, List.forall_mem_cons] at halone
      obtain ⟨names, hnames, h⟩ := bindCells_cons_eq_ok h
      by_cases heq : name = column
      · subst heq
        obtain rfl : found = d := by simpa using hcell
        obtain rfl := Option.some.inj ((columnNames?_of_isName hname).symm.trans hnames)
        -- any other column that begins with the name would be this column again
        have hrest : ∀ column ∈ cells.map Prod.fst, ∀ rest,
            columnNames? column ≠ some (name :: rest) := by
          intro column hmem rest hnames
          obtain rfl := halone.2 column hmem rest hnames
          exact hkeys.1 hmem
        rw [lookup_bindCells_of_ne hrest h]
        exact Scope.lookup_bind_self scope found hfree
      · have hbeq : (name == column) = false := by simpa using heq
        rw [List.lookup_cons, hbeq] at hcell
        refine ih hkeys.2 halone.2 ?_ hcell h
        rw [Scope.lookup_bind_of_ne scope found]
        · exact hfree
        · intro hhead
          obtain ⟨rest, rfl⟩ := List.head?_eq_some_iff.mp hhead
          exact heq (halone.1 rest hnames).symm

end Cells

/-- The data of a row are those of its cells. -/
theorem lookup_rowData {row : Row} {cells : List (String × Datum)} (h : rowData row = .ok cells) :
    cells.map Prod.fst = row.map Prod.fst ∧ ∀ {name x}, row.lookup name = some x →
      ∃ d, Datum.ofValue x = .ok d ∧ cells.lookup name = some d := by
  induction row generalizing cells with
  | nil =>
      obtain rfl := Except.ok.inj h
      exact ⟨rfl, fun hx => by cases hx⟩
  | cons cell row ih =>
      obtain ⟨column, v⟩ := cell
      rw [rowData, bind_eq_ok] at h
      obtain ⟨d, hd, h⟩ := h
      obtain ⟨ds, hds, h⟩ := bind_eq_ok.mp h
      obtain rfl := Except.ok.inj h
      obtain ⟨hnames, hcells⟩ := ih hds
      refine ⟨by rw [List.map_cons, List.map_cons, hnames], fun {name x} hx => ?_⟩
      rw [List.lookup_cons] at hx ⊢
      rcases hbeq : name == column with - | -
      · rw [hbeq] at hx
        exact hcells hx
      · rw [hbeq] at hx
        obtain rfl := Option.some.inj hx
        exact ⟨d, hd, rfl⟩

/-- **A name of a row stands for its cell**, if no other column begins with this name. -/
theorem lookup_rowScope {row : Row} {scope : Scope} (hscope : rowScope row = .ok scope)
    (hkeys : (row.map Prod.fst).Nodup) {name : String} (hname : isName name = true)
    (halone : ∀ column ∈ row.map Prod.fst, ∀ rest,
      columnNames? column = some (name :: rest) → column = name) {x : Value}
    (hx : row.lookup name = some x) :
    ∃ d, Datum.ofValue x = .ok d ∧ scope.lookup name = some (.value d) := by
  rw [rowScope, bind_eq_ok] at hscope
  obtain ⟨cells, hcells, hbind⟩ := hscope
  obtain ⟨hnames, hlookup⟩ := lookup_rowData hcells
  obtain ⟨d, hd, hcell⟩ := hlookup hx
  rw [← hnames] at hkeys halone
  exact ⟨d, hd, lookup_bindCells hname hkeys halone (fun _ h => by cases h) hcell hbind⟩

/-! ## What expressions evaluate to -/

namespace Expression

variable (scope : Scope)

/-- A constant is what its literal stands for. -/
theorem evaluate_literal (value : Literal) :
    (literal value).evaluate scope = .ok value.datum? := rfl

/-- A name is what the scope has under it. -/
theorem evaluate_ident (name : String) :
    (ident name).evaluate scope = .ok (named? scope name) := rfl

/-- A member is taken from the object before it. -/
theorem evaluate_member (object : Expression) (name : String) :
    (member object name).evaluate scope = (do
      let object ← object.evaluate scope
      pure (object.bind (Datum.memberNamed? · name))) := rfl

/-- Parentheses leave a value as it is. -/
theorem evaluate_group (inner : Expression) :
    (group inner).evaluate scope = inner.evaluate scope := rfl

/-- A list has the values of its items. -/
theorem evaluate_list (items : List Expression) :
    (list items).evaluate scope = (do
      let values ← evaluateAll scope items
      pure ((values.mapM id).map (.list .given))) := rfl

/-- Several expressions are evaluated one after the other. -/
theorem evaluateAll_cons (e : Expression) (rest : List Expression) :
    evaluateAll scope (e :: rest) = (do
      let v ← e.evaluate scope
      let vs ← evaluateAll scope rest
      pure (v :: vs)) := rfl

/-- A function is called with the values of its arguments. -/
theorem evaluate_call (name : String) (arguments : List Expression) :
    (call name arguments).evaluate scope = (do
      let values ← evaluateAll scope arguments
      called name values) := rfl

/-- A relation is one between the values of its sides. -/
theorem evaluate_relation (sign : Relation) (left right : Expression) :
    (relation sign left right).evaluate scope = (do
      let left ← left.evaluate scope
      let right ← right.evaluate scope
      related sign left right) := rfl

/-- A conjunction is one of the values of its sides. -/
theorem evaluate_and (left right : Expression) :
    (and left right).evaluate scope = (do
      let left ← left.evaluate scope
      let right ← right.evaluate scope
      pure (Datum.and? left right)) := rfl

/-- A disjunction is one of the values of its sides. -/
theorem evaluate_or (left right : Expression) :
    (or left right).evaluate scope = (do
      let left ← left.evaluate scope
      let right ← right.evaluate scope
      pure (Datum.or? left right)) := rfl

end Expression

/-- What comes from a cell is no failure. -/
theorem Datum.toOption_of_ofValue {x : Value} {d : Datum} (h : ofValue x = .ok d) :
    d.toOption = some d := by
  cases d with
  | failed =>
      cases x with
      | int n =>
          rw [ofValue, ofInt?] at h
          split at h <;> simp_all
      | list items => simp [ofValue, Except.map] at h; split at h <;> simp_all
      | object members => simp [ofValue, Except.map] at h; split at h <;> simp_all
      | _ => simp [ofValue] at h
  | _ => rfl

/-- The entries of a map are those of the members it comes from. -/
theorem Datum.valueAt?_ofMembers {members : List (String × Value)} {entries : List (Datum × Datum)}
    (h : ofMembers members = .ok entries) {name : String} {x : Value}
    (hx : members.lookup name = some x) :
    ∃ d, ofValue x = .ok d ∧ valueAt? (.text .given name) entries = some d := by
  -- the induction is on the key that is found, since `valueAt?` keeps the value alone
  suffices hfind : ∃ d, ofValue x = .ok d ∧ findKey? (.text .given name) entries = some (some d) by
    obtain ⟨d, hd, hfind⟩ := hfind
    refine ⟨d, hd, ?_⟩
    simp only [valueAt?, hfind]
    exact toOption_of_ofValue hd
  induction members generalizing entries with
  | nil => cases hx
  | cons m members ih =>
      obtain ⟨other, v⟩ := m
      rw [ofMembers, bind_eq_ok] at h
      obtain ⟨d, hd, h⟩ := h
      obtain ⟨ds, hds, h⟩ := bind_eq_ok.mp h
      obtain rfl := Except.ok.inj h
      rw [List.lookup_cons] at hx
      by_cases heq : name = other
      · subst heq
        rw [beq_self_eq_true] at hx
        obtain rfl := Option.some.inj hx
        refine ⟨d, hd, ?_⟩
        simp [findKey?, samePlace, equalScalars?, number?]
      · have hbeq : (name == other) = false := by simpa using heq
        rw [hbeq] at hx
        obtain ⟨found, hfound, hfind⟩ := ih hds hx
        refine ⟨found, hfound, ?_⟩
        rw [findKey?, ← hfind]
        simp [samePlace, Ne.symm heq]

namespace Expression

variable {row : Row} {scope : Scope}

/-- A path has a first name. -/
theorem IsPath.exists_head {e : Expression} {names : List String} (h : e.IsPath names) :
    ∃ first, names.head? = some first ∧ isName first = true := by
  induction h with
  | ident hname => exact ⟨_, rfl, hname⟩
  | @member object names name _ _ ih =>
      obtain ⟨first, hfirst, hname⟩ := ih
      obtain ⟨rest, rfl⟩ := List.head?_eq_some_iff.mp hfirst
      exact ⟨first, rfl, hname⟩
  | group _ ih => exact ih

/-- **A path evaluates to the datum of the value that it leads to.** The induction is on the path; all of
its names but the first one are members of the maps before them. -/
theorem evaluate_path {e : Expression} {names : List String} (h : e.IsPath names)
    (hscope : ∀ first, names.head? = some first → ∀ {x}, row.lookup first = some x →
      ∃ d, Datum.ofValue x = .ok d ∧ scope.lookup first = some (.value d)) {x : Value}
    (hx : (Value.object row).along names = some x) :
    ∃ d, Datum.ofValue x = .ok d ∧ evaluate scope e = .ok (some d) := by
  induction h generalizing x with
  | @ident name hname =>
      have hlookup : row.lookup name = some x := by simpa [Value.along, Value.get?] using hx
      obtain ⟨d, hd, hbound⟩ := hscope name rfl hlookup
      refine ⟨d, hd, ?_⟩
      have hnamed : named? scope name = some d := by
        simp only [named?, Scope.datum?, hbound, Option.map_some, Binding.datum]
      rw [evaluate_ident, hnamed]
  | @member object names name hpath hname ih =>
      obtain ⟨first, hfirst, -⟩ := hpath.exists_head
      obtain ⟨rest, rfl⟩ := List.head?_eq_some_iff.mp hfirst
      rw [Value.along, List.foldlM_append] at hx
      obtain ⟨holder, hholder, hlast⟩ := Option.bind_eq_some_iff.mp hx
      have hget : holder.get? name = some x := by simpa using hlast
      obtain ⟨d, hd, heval⟩ := ih hscope hholder
      cases holder with
      -- only an object has a member under a name and comes to a map of data
      | object members =>
          rw [Datum.ofValue] at hd
          rcases hentries : Datum.ofMembers members with e | entries
          · rw [hentries] at hd
            cases hd
          · rw [hentries] at hd
            obtain rfl := Except.ok.inj hd
            obtain ⟨found, hfound, hvalue⟩ := Datum.valueAt?_ofMembers hentries hget
            refine ⟨found, hfound, ?_⟩
            rw [evaluate_member, heval]
            exact congrArg _ hvalue
      | keyed entries => cases hd
      | _ => cases hget
  | group _ ih =>
      obtain ⟨d, hd, heval⟩ := ih hscope hx
      exact ⟨d, hd, by rw [evaluate_group, heval]⟩

/-- What a path leads to is what it evaluates to. -/
theorem Finds.evaluate {e : Expression} {x : Value} (h : e.Finds row x)
    (hscope : rowScope row = .ok scope) (hkeys : (row.map Prod.fst).Nodup) :
    ∃ d, Datum.ofValue x = .ok d ∧ e.evaluate scope = .ok (some d) := by
  obtain ⟨names, hpath, hvalue, halone⟩ := h
  -- only the first name is looked up in the scope
  obtain ⟨first, hfirst, hname⟩ := hpath.exists_head
  refine evaluate_path hpath ?_ hvalue
  intro other hother x hx
  obtain rfl := Option.some.inj (hfirst.symm.trans hother)
  exact lookup_rowScope hscope hkeys hname (halone first hfirst) hx

/-- A text without escapes and line feeds means itself. -/
theorem textOfPieces_cookFrom {body : List Char} (hescape : '\\' ∉ body) (hfeed : '\n' ∉ body) :
    (cookFrom 0 body).bind textOfPieces = some body := by
  have hcook : cookFrom 0 body = some (body.map .inl) := by
    induction body with
    | nil => rfl
    | cons c body ih =>
        rw [List.mem_cons, not_or] at hescape hfeed
        rw [cookFrom, if_neg (Ne.symm hfeed.1), if_pos (Ne.symm hescape.1),
          ih hescape.2 hfeed.2]
        rfl
  rw [hcook]
  clear hescape hfeed hcook
  induction body with
  | nil => rfl
  | cons c body ih =>
      have hrest : textOfPieces (body.map .inl) = some body := ih
      show (textOfPieces (body.map .inl)).map (c :: ·) = some (c :: body)
      rw [hrest]
      rfl

/-- A constant evaluates to its datum. -/
theorem IsConstant.evaluate {e : Expression} {y : Value} (h : e.IsConstant y) (scope : Scope) :
    ∃ d, Datum.ofValue y = .ok d ∧ e.evaluate scope = .ok (some d) := by
  induction h with
  | @int negative hexadecimal digits _ hlow hhigh =>
      have hint : Datum.ofInt? (intOf negative hexadecimal digits) =
          some (.int .given (intOf negative hexadecimal digits)) := by
        rw [Datum.ofInt?, if_pos ⟨hlow, hhigh⟩]
      refine ⟨.int .given (intOf negative hexadecimal digits), ?_, ?_⟩
      · rw [Datum.ofValue, hint]
      · rw [evaluate_literal, Literal.datum?, hint]
  | bool b => exact ⟨.bool b, rfl, rfl⟩
  | @text raw body hescape hfeed =>
      refine ⟨.text .given (String.ofList body), rfl, ?_⟩
      rw [evaluate_literal, Literal.datum?]
      cases raw with
      | true => rfl
      | false =>
          rw [textOfPieces_cookFrom hescape hfeed]
          rfl
  | group _ ih =>
      obtain ⟨d, hd, heval⟩ := ih
      exact ⟨d, hd, by rw [evaluate_group, heval]⟩

end Expression

/-! ## Comparisons -/

namespace Extended

/-- Integers are equal as numbers when they are equal. -/
theorem eq_ofInt (n m : Int) : (ofInt n).eq (ofInt m) = (n == m) := by
  simp [ofInt, eq]

/-- Integers are ordered as numbers. -/
theorem lt_ofInt (n m : Int) : (ofInt n).lt (ofInt m) = decide (n < m) := by
  simp [ofInt, lt]

/-- An integer is smaller than another one or equal when it is not greater. -/
theorem le_ofInt (n m : Int) : (ofInt n).le (ofInt m) = !decide (m < n) := by
  rw [le, lt_ofInt, eq_ofInt]
  by_cases h : m < n
  · have hlt : ¬n < m := by omega
    have hne : n ≠ m := by omega
    simp [h, hlt, hne]
  · have hle : n < m ∨ n = m := by omega
    simpa [h] using hle

end Extended

/-- Integers are the same when they are equal. -/
@[simp] theorem Value.same_int (n m : Int) : (Value.int n).same (.int m) = (n == m) := by
  rw [same]
  · exact Extended.eq_ofInt n m
  all_goals rintro _ _ ⟨⟩

/-- Texts are the same when they are equal. -/
@[simp] theorem Value.same_str (s t : String) : (Value.str s).same (.str t) = (s == t) := by
  rw [same]
  · rfl
  all_goals rintro _ _ ⟨⟩

/-- Truth values are the same when they are equal. -/
@[simp] theorem Value.same_bool (a b : Bool) : (Value.bool a).same (.bool b) = (a == b) := by
  rw [same]
  · cases a <;> cases b <;> rfl
  all_goals rintro _ _ ⟨⟩

namespace Datum

/-- The datum of an integer. -/
theorem eq_of_ofValue_int {n : Int} {d : Datum} (h : ofValue (.int n) = .ok d) :
    d = .int .given n := by
  rw [ofValue, ofInt?] at h
  split at h
  · next hsome =>
      split at hsome
      · obtain rfl := Option.some.inj hsome
        exact (Except.ok.inj h).symm
      · cases hsome
  · cases h

variable {relation : Relation} {op : CompareOp}

/-- **Data are compared like the values that they stand for**, when equality and the four orders agree with
what is the same and what comes before. -/
theorem compare?_of_before {d e : Datum} {x y : Value} {before after : Bool}
    (hop : relation.compareOp? = some op) (hequal : equal? d e = some (x.same y))
    (hdiffer : differ? d e = some (!x.same y)) (hbefore : x.before? y = some before)
    (hafter : y.before? x = some after) (hless : less? d e = some before)
    (hgreater : greater? d e = some after) (hatMost : lessEqual? d e = some (!after))
    (hatLeast : greaterEqual? d e = some (!before)) :
    compare? relation d e = some (op.holds x y) := by
  cases relation with
  | isIn => cases hop
  | eq =>
      obtain rfl := Option.some.inj hop
      exact hequal
  | ne =>
      obtain rfl := Option.some.inj hop
      exact hdiffer
  | lt =>
      obtain rfl := Option.some.inj hop
      rw [CompareOp.holds_lt hbefore]
      exact hless
  | le =>
      obtain rfl := Option.some.inj hop
      rw [CompareOp.holds_le hafter]
      exact hatMost
  | gt =>
      obtain rfl := Option.some.inj hop
      rw [CompareOp.holds_gt hafter]
      exact hgreater
  | ge =>
      obtain rfl := Option.some.inj hop
      rw [CompareOp.holds_ge hbefore]
      exact hatLeast

/-- Integers are compared by their size. -/
theorem compare?_int (hop : relation.compareOp? = some op) (n m : Int) :
    compare? relation (.int .given n) (.int .given m) = some (op.holds (.int n) (.int m)) := by
  have hsame : (Extended.ofInt n).eq (.ofInt m) = (Value.int n).same (.int m) :=
    (Extended.eq_ofInt n m).trans (Value.same_int n m).symm
  exact compare?_of_before hop (congrArg some hsame) (congrArg (fun equal => some (!equal)) hsame) rfl rfl
    (congrArg some (Extended.lt_ofInt n m)) (congrArg some (Extended.lt_ofInt m n))
    (congrArg some (Extended.le_ofInt n m)) (congrArg some (Extended.le_ofInt m n))

/-- Texts are compared by their code points. -/
theorem compare?_text (hop : relation.compareOp? = some op) (s t : String) :
    compare? relation (.text .given s) (.text .given t) = some (op.holds (.str s) (.str t)) := by
  have hsame : (s == t) = (Value.str s).same (.str t) := (Value.same_str s t).symm
  exact compare?_of_before hop (congrArg some hsame) (congrArg (fun equal => some (!equal)) hsame) rfl rfl
    rfl rfl rfl rfl

/-- Truth values are equal or not. -/
theorem compare?_bool (hrelation : relation = .eq ∨ relation = .ne)
    (hop : relation.compareOp? = some op) (a b : Bool) :
    compare? relation (.bool a) (.bool b) = some (op.holds (.bool a) (.bool b)) := by
  have hequal : equal? (.bool a) (.bool b) = some (a == b) := by
    cases a <;> cases b <;> rfl
  have hdiffer : differ? (.bool a) (.bool b) = some (!(a == b)) := by
    cases a <;> cases b <;> rfl
  rcases hrelation with rfl | rfl
  · obtain rfl := Option.some.inj hop
    rw [CompareOp.holds, Value.same_bool]
    exact hequal
  · obtain rfl := Option.some.inj hop
    rw [CompareOp.holds, Value.same_bool]
    exact hdiffer

end Datum

namespace Relation.Compares

variable {relation : Relation} {x y : Value}

/-- What is compared may be compared the other way round. -/
theorem symm (h : relation.Compares x y) : relation.Compares y x := by
  cases h with
  | int h n m => exact .int h m n
  | str h s t => exact .str h t s
  | bool h a b => exact .bool h b a

/-- Equality of values of one kind does not depend on their order. -/
theorem same_comm (h : relation.Compares x y) : x.same y = y.same x := by
  cases h with
  | int _ n m => rw [Value.same_int, Value.same_int, Bool.beq_comm]
  | str _ s t => rw [Value.same_str, Value.same_str, Bool.beq_comm]
  | bool _ a b => rw [Value.same_bool, Value.same_bool, Bool.beq_comm]

/-- The flipped operator compares the other way round. -/
theorem holds_flipped (h : relation.Compares x y) (op : CompareOp) :
    op.flipped.holds x y = op.holds y x := by
  cases op with
  | eq => exact h.same_comm
  | ne => exact congrArg (!·) h.same_comm
  | lt | le | gt | ge => rfl

/-- A comparison that is no membership has an operator. -/
theorem exists_compareOp (h : relation.Compares x y) : ∃ op, relation.compareOp? = some op := by
  cases h with
  | int h | str h =>
      cases relation with
      | isIn => exact absurd rfl h
      | _ => exact ⟨_, rfl⟩
  | bool h => rcases h with rfl | rfl <;> exact ⟨_, rfl⟩

/-- **Comparing the data of two values of one kind is the ordinary comparison of the values.** -/
theorem compare?_eq (h : relation.Compares x y) {op : CompareOp}
    (hop : relation.compareOp? = some op) {dx dy : Datum} (hx : Datum.ofValue x = .ok dx)
    (hy : Datum.ofValue y = .ok dy) : Datum.compare? relation dx dy = some (op.holds x y) := by
  cases h with
  | int _ n m =>
      obtain rfl := Datum.eq_of_ofValue_int hx
      obtain rfl := Datum.eq_of_ofValue_int hy
      exact Datum.compare?_int hop n m
  | str _ s t =>
      obtain rfl := Except.ok.inj hx
      obtain rfl := Except.ok.inj hy
      exact Datum.compare?_text hop s t
  | bool hrelation a b =>
      obtain rfl := Except.ok.inj hx
      obtain rfl := Except.ok.inj hy
      exact Datum.compare?_bool hrelation hop a b

/-- What is compared is no moment, so nothing stands in the way of the comparison. -/
theorem related_eq (h : relation.Compares x y) {dx dy : Datum} (hx : Datum.ofValue x = .ok dx)
    (hy : Datum.ofValue y = .ok dy) (sign : Relation) :
    Expression.related sign (some dx) (some dy) =
      .ok ((Datum.compare? sign dx dy).map .bool) := by
  cases h with
  | int _ n m =>
      obtain rfl := Datum.eq_of_ofValue_int hx
      rfl
  | str | bool =>
      obtain rfl := Except.ok.inj hx
      rfl

end Relation.Compares

/-- A membership among constants of the kind of a value is the ordinary membership. -/
theorem Datum.member?_eq {x : Value} {dx : Datum} (hx : ofValue x = .ok dx) {ys : List Value}
    {ds : List Datum} (hys : List.Forall₂ (fun y d => ofValue y = .ok d) ys ds)
    (hkinds : ∀ y ∈ ys, Relation.eq.Compares x y) :
    member? dx (.list .given ds) = some (ys.any (x.same ·)) := by
  show memberAmong? dx (some false) ds = some (ys.any (x.same ·))
  induction hys with
  | nil => rfl
  | @cons y d ys ds hy _ ih =>
      rw [List.forall_mem_cons] at hkinds
      have hequal : equal? d dx = some (y.same x) := hkinds.1.symm.compare?_eq rfl hy hx
      rw [memberAmong?, hequal, List.any_cons, hkinds.1.same_comm]
      cases y.same x with
      | true => rfl
      | false => exact ih hkinds.2

/-! ## Lists and tests of texts -/

namespace Expression

variable {scope : Scope}

/-- A list of constants evaluates to the list of their data. -/
theorem IsConstantList.evaluate {e : Expression} {ys : List Value} (h : e.IsConstantList ys)
    (scope : Scope) : ∃ ds, List.Forall₂ (fun y d => Datum.ofValue y = .ok d) ys ds ∧
      e.evaluate scope = .ok (some (.list .given ds)) := by
  induction h with
  | @list items ys hitems =>
      suffices hall : ∃ ds, List.Forall₂ (fun y d => Datum.ofValue y = .ok d) ys ds ∧
          evaluateAll scope items = .ok (ds.map some) by
        obtain ⟨ds, hds, heval⟩ := hall
        refine ⟨ds, hds, ?_⟩
        rw [evaluate_list, heval]
        exact congrArg (fun found => Except.ok (found.map (Datum.list .given))) (mapM_id_eq_some.2 rfl)
      induction hitems with
      | nil => exact ⟨[], .nil, rfl⟩
      | cons hitem _ ih =>
          obtain ⟨d, hd, heval⟩ := hitem.evaluate scope
          obtain ⟨ds, hds, hall⟩ := ih
          refine ⟨d :: ds, .cons hd hds, ?_⟩
          rw [evaluateAll_cons, heval, hall]
          rfl
  | group _ ih =>
      obtain ⟨ds, hds, heval⟩ := ih
      exact ⟨ds, hds, by rw [evaluate_group, heval]⟩

variable {left right : Expression} {d d' : Datum}

/-- A text is matched with a pattern by a function. -/
theorem evaluate_like (hleft : left.evaluate scope = .ok (some d))
    (hright : right.evaluate scope = .ok (some d')) :
    (call "like" [left, right]).evaluate scope = .ok (some (.bool (Datum.like false d d'))) := by
  have hall : evaluateAll scope [left, right] = .ok [some d, some d'] := by
    rw [evaluateAll_cons, evaluateAll_cons, hleft, hright]
    rfl
  rw [evaluate_call, hall]
  rfl

/-- A function of two data called as a method. -/
theorem evaluate_method {name : String} {f : Datum → Datum → Option Bool}
    (hplain : Quantifier.ofName? name = none) (hf : Datum.pairFunctions.lookup name = some f)
    (hleft : left.evaluate scope = .ok (some d)) (hright : right.evaluate scope = .ok (some d')) :
    (method left name [right]).evaluate scope = .ok ((f d d').map .bool) := by
  have hall : evaluateAll scope [right] = .ok [some d'] := by
    rw [evaluateAll_cons, hright]
    rfl
  have hcall : Datum.callAll name [some d, some d'] = .ok ((f d d').map .bool) := by
    show Datum.call name [d, d'] = .ok ((f d d').map .bool)
    simp only [Datum.call, hf]
  simp only [evaluate, hleft, bind, Except.bind, hplain, hall, hcall, Evaluation.ofFunction]

end Expression

/-- A part of a text is a run of its characters. -/
theorem Datum.hasPart_iff {part cs : List Nat} : hasPart part cs = true ↔ part <:+: cs := by
  induction cs with
  | nil => rw [hasPart, List.isEmpty_iff, List.infix_nil]
  | cons c cs ih =>
      rw [hasPart, Bool.or_eq_true, List.isPrefixOf_iff_prefix, ih, List.infix_cons_iff]

end SearchTables
