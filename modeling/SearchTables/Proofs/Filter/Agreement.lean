import SearchTables.Proofs.Expression.Fragment
import SearchTables.Proofs.Expression.QuotedTexts
import SearchTables.Proofs.Text.LikeEscapes
import Mathlib.Algebra.Group.Nat.Defs

/-! # Two readings of a condition

The text of a condition is read twice: as a predicate, which goes to the index as far as it can, and as
an expression, which is evaluated on rows. On rows that a condition fits both readings agree
(`keeps_iff_holds`): the builder refuses the condition because it is nested too deep or names too long a
path, or its predicate holds of exactly the rows that the expression keeps. -/

namespace SearchTables

/-! ## Limits -/

/-- A refusal because of a limit: the depth of an expression or the length of a path. -/
inductive Error.IsLimit (limit : Int) : Error → Prop
  | depth {depth : Int} (h : limit < depth) : IsLimit limit (.expressionTooDeep depth limit)
  | path {path : String} (h : Path.maxLength < Text.size path) :
      IsLimit limit (.badPath (.tooLong path))

/-- A computation comes to something, or it is refused because of a limit. -/
def ComesTo (limit : Int) {α : Type} (P : α → Prop) : Except Error α → Prop
  | .ok a => P a
  | .error e => e.IsLimit limit

namespace ComesTo

variable {limit : Int} {α β : Type} {P : α → Prop} {Q : β → Prop}

/-- Two steps come to something when the second one does from what the first one came to. -/
theorem bind {x : Except Error α} (h : ComesTo limit P x) {f : α → Except Error β}
    (hnext : ∀ a, P a → ComesTo limit Q (f a)) : ComesTo limit Q (x >>= f) := by
  cases x with
  | error e => exact h
  | ok a => exact hnext a h

/-- What a computation comes to may be put in other words. -/
theorem imp {P Q : α → Prop} {x : Except Error α} (h : ComesTo limit P x)
    (himp : ∀ a, P a → Q a) : ComesTo limit Q x := by
  cases x with
  | error e => exact h
  | ok a => exact himp a h

end ComesTo

namespace Expression

variable {limit : Int}

/-- Past a check of the depth everything goes on as before. The reading of an expression is by definition
such a check and what follows for the kind of the expression. -/
theorem comesTo_checkDepth {α : Type} {P : α → Prop} {next : Except Error α} (outer depth : Int)
    (h : ComesTo limit P next) : ComesTo limit P (checkDepth limit outer depth >>= fun _ => next) := by
  refine ComesTo.bind (P := fun _ => True) ?_ fun _ _ => h
  rw [checkDepth]
  split
  · exact .depth (by omega)
  · trivial

/-! ## Fields and constants as the builder reads them -/

/-- The names of a path are valid. -/
theorem IsPath.validSegments {e : Expression} {names : List String} (h : e.IsPath names) :
    ∀ name ∈ names, Path.validSegment name = true := by
  induction h with
  | ident hname => simpa using validSegment_of_isName hname
  | member _ hname ih =>
      intro name hmem
      rcases List.mem_append.mp hmem with hmem | hmem
      · exact ih name hmem
      · rw [List.mem_singleton.mp hmem]
        exact validSegment_of_isName hname
  | group _ ih => exact ih

/-- A path with valid names is the path of a field unless it is too long. -/
theorem comesTo_fieldReading {path : String}
    (h : ∀ name ∈ Path.segments path, Path.validSegment name = true) :
    ComesTo limit (· = .field path) (fieldReading path) := by
  rw [fieldReading]
  obtain hnone | ⟨hlong, hfault⟩ := Path.fault?_of_validSegments h
  · rw [hnone]
    rfl
  · rw [hfault]
    exact .path hlong

/-- **A path is read as the field of its names.** -/
theorem IsPath.reading {e : Expression} {names : List String} (h : e.IsPath names) (outer : Int)
    (start : Nat) : ComesTo limit (fun r => ∃ path, r = .field path ∧ Path.segments path = names)
      (e.reading limit outer start) := by
  induction h generalizing outer start with
  | @ident name hname =>
      have hsegments := Path.segments_of_validSegment (validSegment_of_isName hname)
      refine comesTo_checkDepth outer _ ?_
      refine (comesTo_fieldReading ?_).imp fun r hr => ⟨name, hr, hsegments⟩
      rw [hsegments]
      exact (IsPath.ident hname).validSegments
  | @member object names name hpath hname ih =>
      refine comesTo_checkDepth outer _ ((ih _ _).bind ?_)
      rintro _ ⟨path, rfl, hsegments⟩
      have hmember := Path.segments_member path (validSegment_of_isName hname)
      rw [hsegments] at hmember
      refine (comesTo_fieldReading ?_).imp fun r hr => ⟨_, hr, hmember⟩
      rw [hmember]
      exact (IsPath.member hpath hname).validSegments
  | group _ ih =>
      exact comesTo_checkDepth outer _ (ih _ _)

/-- Digits are worth at least what the digits before them are worth there. -/
theorem le_foldl_digits (digits : List Nat) (n : Nat) :
    n * 10 ^ digits.length ≤ digits.foldl (fun n d => 10 * n + d) n := by
  induction digits generalizing n with
  | nil => simp
  | cons d digits ih =>
      have hshift : n * 10 ^ (d :: digits).length = 10 * n * 10 ^ digits.length := by
        rw [List.length_cons, Nat.pow_succ, Nat.mul_comm _ 10, ← Nat.mul_assoc, Nat.mul_comm n 10]
      calc n * 10 ^ (d :: digits).length = 10 * n * 10 ^ digits.length := hshift
        _ ≤ (10 * n + d) * 10 ^ digits.length := Nat.mul_le_mul_right _ (Nat.le_add_right _ d)
        _ ≤ digits.foldl (fun n d => 10 * n + d) (10 * n + d) := ih (10 * n + d)

/-- An integer of sixty-four bits has few digits. -/
theorem length_digits {negative : Bool} {d : Nat} {digits : List Nat} (hd : d ≠ 0)
    (hlow : minInt64 ≤ intOf negative false (d :: digits))
    (hhigh : intOf negative false (d :: digits) ≤ maxInt64) : digits.length < 19 := by
  have hworth := le_foldl_digits digits d
  have hvalue : valueOfDigits 10 (d :: digits) = digits.foldl (fun n d => 10 * n + d) d := by
    rw [valueOfDigits, List.foldl_cons, Nat.mul_zero, Nat.zero_add]
  have hbound : valueOfDigits 10 (d :: digits) ≤ 9223372036854775808 := by
    simp only [intOf, minInt64, maxInt64] at hlow hhigh
    cases negative <;> simp at hlow hhigh <;> omega
  by_contra hlong
  -- the first digit alone would be worth more than the largest integer
  have hpow : 10 ^ 19 ≤ 10 ^ digits.length := Nat.pow_le_pow_right (by decide) (by omega)
  have hmul : 1 * 10 ^ digits.length ≤ d * 10 ^ digits.length :=
    Nat.mul_le_mul_right _ (Nat.one_le_iff_ne_zero.mpr hd)
  omega

/-- A constant integer is read as what it stands for. -/
theorem wholeValue_eq {negative hexadecimal : Bool} {digits : List Nat}
    (hdigits : hexadecimal = true ∨ digits.head? ≠ some 0 ∨ digits = [0])
    (hlow : minInt64 ≤ intOf negative hexadecimal digits)
    (hhigh : intOf negative hexadecimal digits ≤ maxInt64) :
    Literal.wholeValue negative hexadecimal digits = .ok (intOf negative hexadecimal digits) := by
  rw [Literal.wholeValue, if_neg]
  cases hexadecimal with
  | true => simp
  | false =>
      rcases hdigits with h | h | rfl
      · cases h
      · cases digits with
        | nil => simp
        | cons d digits =>
            have hd : d ≠ 0 := by simpa using h
            have hlength := length_digits hd hlow hhigh
            have hfew : digits.length + 1 ≤ maxDecimalDigits := by
              rw [maxDecimalDigits]
              omega
            simpa [hd] using hfew
      · decide

/-- **A constant is read as its value.** -/
theorem IsConstant.reading {e : Expression} {y : Value} (h : e.IsConstant y) (outer : Int)
    (start : Nat) : ComesTo limit (· = .constant y) (e.reading limit outer start) := by
  induction h generalizing outer start with
  | int hdigits hlow hhigh =>
      refine comesTo_checkDepth outer _ ?_
      rw [Literal.reading, wholeValue_eq hdigits hlow hhigh]
      rfl
  | bool b =>
      exact comesTo_checkDepth outer _ rfl
  | @text raw body hescape _ =>
      refine comesTo_checkDepth outer _ ?_
      rw [Literal.reading, unescape_of_plain hescape, ite_self]
      rfl
  | group _ ih =>
      exact comesTo_checkDepth outer _ (ih _ _)

/-- Several expressions are read one after the other. -/
theorem comesTo_readings_cons {e : Expression} {rest : List Expression} {outer : Int}
    {P : Reading → Prop} {Q : List Reading → Prop}
    (hfirst : ComesTo limit P (e.reading limit outer topRank))
    (hrest : ComesTo limit Q (readings limit outer rest)) :
    ComesTo limit (fun rs => ∃ r later, rs = r :: later ∧ P r ∧ Q later)
      (readings limit outer (e :: rest)) := by
  rw [readings]
  refine hfirst.bind fun r hr => ?_
  refine hrest.bind fun later hlater => ?_
  exact ⟨r, later, rfl, hr, hlater⟩

/-- A list of constants is read as the list of their values. -/
theorem IsConstantList.reading {e : Expression} {ys : List Value} (h : e.IsConstantList ys)
    (outer : Int) (start : Nat) :
    ComesTo limit (· = .constant (.list ys)) (e.reading limit outer start) := by
  induction h generalizing outer start with
  | @list items ys hitems =>
      -- all items are read below one depth, whatever it is
      have hall : ∀ depth, ComesTo limit (fun rs => Reading.constants? rs = some ys)
          (readings limit depth items) := by
        intro depth
        induction hitems with
        | nil => exact rfl
        | cons hitem _ ih =>
            refine (comesTo_readings_cons (hitem.reading depth topRank) ih).imp ?_
            rintro _ ⟨_, later, rfl, rfl, hlater⟩
            rw [Reading.constants?, hlater]
            rfl
      refine comesTo_checkDepth outer _ ((hall _).bind fun rs hrs => ?_)
      simp only [hrs]
      rfl
  | group _ ih =>
      exact comesTo_checkDepth outer _ (ih _ _)

/-- **A path to a value is read as a field that leads to this value.** -/
theorem Finds.reading {row : Row} {e : Expression} {x : Value} (h : e.Finds row x) (outer : Int)
    (start : Nat) : ComesTo limit
      (fun r => ∃ path, r = .field path ∧
        (Value.object row).along (Path.segments path) = some x) (e.reading limit outer start) := by
  obtain ⟨names, hpath, hvalue, -⟩ := h
  refine (hpath.reading outer start).imp ?_
  rintro _ ⟨path, rfl, rfl⟩
  exact ⟨path, rfl, hvalue⟩

end Expression

/-! ## Tests as predicates -/

section Tests

variable {row : Row} {path : String} {x : Value}
  (hx : (Value.object row).along (Path.segments path) = some x)

include hx

/-- A comparison of a field is that of its value. -/
theorem holds_leaf_compare (op : CompareOp) (y : Value) :
    (Reading.leaf path fun f => .compare op f y).Holds (.object row) ↔ op.holds x y = true :=
  holds_leaf (P := fun x => op.holds x y = true) (fun _ _ => Iff.rfl) hx

/-- A membership of a field is that of its value. -/
theorem holds_leaf_among (ys : List Value) :
    (Reading.leaf path fun f => .among f ys).Holds (.object row) ↔
      ys.any (x.same ·) = true := by
  rw [List.any_eq_true]
  exact holds_leaf (P := fun x => ∃ y ∈ ys, x.same y = true) (fun _ _ => Iff.rfl) hx

/-- A pattern on a field is one on its value. -/
theorem holds_leaf_like (pattern escape : String) (ignoreCase : Bool) :
    (Reading.leaf path fun f => .like f pattern ignoreCase escape).Holds (.object row) ↔
      x.IsLike pattern ignoreCase escape :=
  holds_leaf (P := fun x => x.IsLike pattern ignoreCase escape) (fun _ _ => Iff.rfl) hx

end Tests

/-- A test of a text as a method, as a pattern and as a function of data, says the same. -/
theorem patternMethod_iff {name : String}
    (hname : name = "startsWith" ∨ name = "endsWith" ∨ name = "contains") (s text : String) :
    ∃ make f kept, patternMethods.lookup name = some make ∧
      Datum.pairFunctions.lookup name = some f ∧ Quantifier.ofName? name = none ∧
      f (.text .given s) (.text .given text) = some kept ∧
      ∃ pattern, (∀ field, make field text = .like field pattern false Text.defaultEscape) ∧
        ((Value.str s).IsLike pattern false Text.defaultEscape ↔ kept = true) := by
  rcases hname with rfl | rfl | rfl
  · refine ⟨_, _, _, rfl, rfl, rfl, rfl, _, fun _ => rfl, ?_⟩
    rw [List.isPrefixOf_iff_prefix]
    exact Text.likeMatches_beginning text s
  · refine ⟨_, _, _, rfl, rfl, rfl, rfl, _, fun _ => rfl, ?_⟩
    rw [List.isSuffixOf_iff_suffix]
    exact Text.likeMatches_ending text s
  · refine ⟨_, _, _, rfl, rfl, rfl, rfl, _, fun _ => rfl, ?_⟩
    rw [Datum.hasPart_iff]
    exact Text.likeMatches_inside text s

/-- A field compared with a constant is read as a test. -/
theorem Relation.Compares.reading_fieldFirst {relation : Relation} {x y : Value}
    (h : relation.Compares x y) {op : CompareOp} (hop : relation.compareOp? = some op)
    (path : String) : relation.reading (.field path) (.constant y) =
      .test path fun f => .compare op f y := by
  simp only [Relation.reading, hop]
  cases h <;> rfl

/-- A constant compared with a field is read as the flipped test. -/
theorem Relation.Compares.reading_constantFirst {relation : Relation} {x y : Value}
    (h : relation.Compares x y) {op : CompareOp} (hop : relation.compareOp? = some op)
    (path : String) : relation.reading (.constant y) (.field path) =
      .test path fun f => .compare op.flipped f y := by
  simp only [Relation.reading, hop]
  cases h <;> rfl

/-! ## Agreement -/

/-- The two readings of an expression agree: it evaluates to a truth value, and the builder comes to a
predicate that holds exactly when this value is true. -/
def Expression.Agrees (row : Row) (scope : Scope) (e : Expression) : Prop :=
  ∃ kept, e.evaluate scope = .ok (some (.bool kept)) ∧ ∀ (limit outer : Int) (start : Nat),
    ComesTo limit (fun r => ∃ p, r.condition = .ok p ∧ (p.Holds (.object row) ↔ kept = true))
      (e.reading limit outer start)

namespace Expression

variable {row : Row} {scope : Scope}

/-- Parentheses leave both readings as they are. -/
theorem Agrees.group {inner : Expression} (h : inner.Agrees row scope) :
    (Expression.group inner).Agrees row scope := by
  obtain ⟨kept, heval, hreading⟩ := h
  refine ⟨kept, by rw [evaluate_group, heval], fun limit outer start => ?_⟩
  exact comesTo_checkDepth outer _ (hreading limit _ _)

/-- Readings that agree on both sides agree on a conjunction. -/
theorem Agrees.and {left right : Expression} (hleft : left.Agrees row scope)
    (hright : right.Agrees row scope) : (Expression.and left right).Agrees row scope := by
  obtain ⟨a, hevalLeft, hreadingLeft⟩ := hleft
  obtain ⟨b, hevalRight, hreadingRight⟩ := hright
  refine ⟨a && b, ?_, fun limit outer start => ?_⟩
  · rw [evaluate_and, hevalLeft, hevalRight]
    cases a <;> rfl
  · refine comesTo_checkDepth outer _ ((hreadingLeft limit _ _).bind ?_)
    rintro l ⟨p, hl, hp⟩
    rw [hl]
    refine (hreadingRight limit _ _).bind ?_
    rintro r ⟨q, hr, hq⟩
    rw [hr]
    refine ⟨_, rfl, ?_⟩
    show Predicate.Holds _ _ ↔ _
    rw [Reading.toPredicate, Predicate.holds_join_all, hp, hq, Bool.and_eq_true]

/-- Readings that agree on both sides agree on a disjunction. -/
theorem Agrees.or {left right : Expression} (hleft : left.Agrees row scope)
    (hright : right.Agrees row scope) : (Expression.or left right).Agrees row scope := by
  obtain ⟨a, hevalLeft, hreadingLeft⟩ := hleft
  obtain ⟨b, hevalRight, hreadingRight⟩ := hright
  refine ⟨a || b, ?_, fun limit outer start => ?_⟩
  · rw [evaluate_or, hevalLeft, hevalRight]
    cases a <;> rfl
  · refine comesTo_checkDepth outer _ ((hreadingLeft limit _ _).bind ?_)
    rintro l ⟨p, hl, hp⟩
    rw [hl]
    refine (hreadingRight limit _ _).bind ?_
    rintro r ⟨q, hr, hq⟩
    rw [hr]
    refine ⟨_, rfl, ?_⟩
    show Predicate.Holds _ _ ↔ _
    rw [Reading.toPredicate, Predicate.holds_join_any, hp, hq, Bool.or_eq_true]

section Leaves

variable (hscope : rowScope row = .ok scope) (hkeys : (row.map Prod.fst).Nodup)

include hscope hkeys

/-- A flag is kept when it is true. -/
theorem agrees_flag {field : Expression} {b : Bool} (hfield : field.Finds row (.bool b)) :
    field.Agrees row scope := by
  obtain ⟨d, hd, heval⟩ := hfield.evaluate hscope hkeys
  obtain rfl := Except.ok.inj hd
  refine ⟨b, heval, fun limit outer start => (hfield.reading outer start).imp ?_⟩
  rintro _ ⟨path, rfl, hx⟩
  refine ⟨_, rfl, ?_⟩
  rw [Reading.toPredicate, holds_leaf_compare hx, CompareOp.holds, Value.same_bool]
  cases b <;> decide

/-- A comparison of a field with a constant is the ordinary one. -/
theorem agrees_fieldFirst {relation : Relation} {field constant : Expression} {x y : Value}
    (hfield : field.Finds row x) (hconstant : constant.IsConstant y)
    (hkinds : relation.Compares x y) :
    (Expression.relation relation field constant).Agrees row scope := by
  obtain ⟨op, hop⟩ := hkinds.exists_compareOp
  obtain ⟨dx, hdx, hleft⟩ := hfield.evaluate hscope hkeys
  obtain ⟨dy, hdy, hright⟩ := hconstant.evaluate scope
  refine ⟨op.holds x y, ?_, fun limit outer start => ?_⟩
  · rw [evaluate_relation, hleft, hright]
    refine (hkinds.related_eq hdx hdy relation).trans ?_
    rw [hkinds.compare?_eq hop hdx hdy]
    rfl
  · refine comesTo_checkDepth outer _ ((hfield.reading _ _).bind ?_)
    rintro _ ⟨path, rfl, hx⟩
    refine (hconstant.reading _ _).bind ?_
    rintro _ rfl
    rw [hkinds.reading_fieldFirst hop path]
    exact ⟨_, rfl, holds_leaf_compare hx op y⟩

/-- So is a comparison of a constant with a field, although the builder turns it round. -/
theorem agrees_constantFirst {relation : Relation} {field constant : Expression} {x y : Value}
    (hfield : field.Finds row x) (hconstant : constant.IsConstant y)
    (hkinds : relation.Compares x y) :
    (Expression.relation relation constant field).Agrees row scope := by
  obtain ⟨op, hop⟩ := hkinds.exists_compareOp
  obtain ⟨dx, hdx, hright⟩ := hfield.evaluate hscope hkeys
  obtain ⟨dy, hdy, hleft⟩ := hconstant.evaluate scope
  refine ⟨op.holds y x, ?_, fun limit outer start => ?_⟩
  · rw [evaluate_relation, hleft, hright]
    refine (hkinds.symm.related_eq hdy hdx relation).trans ?_
    rw [hkinds.symm.compare?_eq hop hdy hdx]
    rfl
  · refine comesTo_checkDepth outer _ ((hconstant.reading _ _).bind ?_)
    rintro _ rfl
    refine (hfield.reading _ _).bind ?_
    rintro _ ⟨path, rfl, hx⟩
    -- the builder puts the field first, so it is the flipped operator that compares
    rw [hkinds.reading_constantFirst hop path, ← hkinds.holds_flipped]
    exact ⟨_, rfl, holds_leaf_compare hx op.flipped y⟩

/-- A membership of a field in a list of constants is the ordinary one. -/
theorem agrees_among {field list : Expression} {x : Value} {ys : List Value}
    (hfield : field.Finds row x) (hlist : list.IsConstantList ys)
    (hkinds : ∀ y ∈ ys, Relation.eq.Compares x y) :
    (Expression.relation .isIn field list).Agrees row scope := by
  obtain ⟨dx, hdx, hleft⟩ := hfield.evaluate hscope hkeys
  obtain ⟨ds, hds, hright⟩ := hlist.evaluate scope
  refine ⟨ys.any (x.same ·), ?_, fun limit outer start => ?_⟩
  · -- a list is no moment, so nothing stands in the way of the membership
    have hrelated : related .isIn (some dx) (some (.list .given ds)) =
        .ok ((Datum.member? dx (.list .given ds)).map .bool) := by
      cases dx <;> rfl
    rw [evaluate_relation, hleft, hright]
    refine hrelated.trans ?_
    rw [Datum.member?_eq hdx hds hkinds]
    rfl
  · refine comesTo_checkDepth outer _ ((hfield.reading _ _).bind ?_)
    rintro _ ⟨path, rfl, hx⟩
    refine (hlist.reading _ _).bind ?_
    rintro _ rfl
    exact ⟨_, rfl, holds_leaf_among hx ys⟩

/-- A pattern on a field is matched as LIKE does. -/
theorem agrees_like {field pattern : Expression} {s text : String}
    (hfield : field.Finds row (.str s)) (hpattern : pattern.IsConstant (.str text)) :
    (Expression.call "like" [field, pattern]).Agrees row scope := by
  obtain ⟨d, hd, hleft⟩ := hfield.evaluate hscope hkeys
  obtain ⟨d', hd', hright⟩ := hpattern.evaluate scope
  obtain rfl := Except.ok.inj hd
  obtain rfl := Except.ok.inj hd'
  refine ⟨Text.like text Text.defaultEscape false s, evaluate_like hleft hright,
    fun limit outer start => ?_⟩
  have hnone : ∀ depth, ComesTo limit (· = []) (readings limit depth []) := fun _ => rfl
  have harguments := fun depth =>
    comesTo_readings_cons (hfield.reading depth topRank)
      (comesTo_readings_cons (hpattern.reading depth topRank) (hnone depth))
  refine comesTo_checkDepth outer _ ((harguments _).bind ?_)
  rintro _ ⟨_, _, rfl, ⟨path, rfl, hx⟩, _, _, rfl, rfl, rfl⟩
  have hlike := holds_leaf_like hx text Text.defaultEscape false
  rw [Text.like_iff]
  exact ⟨_, rfl, hlike⟩

/-- A test of a text is the pattern that it is read as. -/
theorem agrees_method {name : String} {field part : Expression} {s text : String}
    (hname : name = "startsWith" ∨ name = "endsWith" ∨ name = "contains")
    (hfield : field.Finds row (.str s)) (hpart : part.IsConstant (.str text)) :
    (Expression.method field name [part]).Agrees row scope := by
  obtain ⟨make, f, kept, hmake, hf, hplain, hkept, pattern, hpattern, hlike⟩ :=
    patternMethod_iff hname s text
  obtain ⟨d, hd, hleft⟩ := hfield.evaluate hscope hkeys
  obtain ⟨d', hd', hright⟩ := hpart.evaluate scope
  obtain rfl := Except.ok.inj hd
  obtain rfl := Except.ok.inj hd'
  refine ⟨kept, ?_, fun limit outer start => ?_⟩
  · rw [evaluate_method hplain hf hleft hright, hkept]
    rfl
  · refine comesTo_checkDepth outer _ ((hfield.reading _ _).bind ?_)
    rintro _ ⟨path, rfl, hx⟩
    have hnone : ∀ depth, ComesTo limit (· = []) (readings limit depth []) := fun _ => rfl
    refine (comesTo_readings_cons (hpart.reading _ topRank) (hnone _)).bind ?_
    rintro _ ⟨_, _, rfl, rfl, rfl⟩
    have htest : (Reading.field path).methodCall name [.constant (.str text)] =
        .test path fun f => .like f pattern false Text.defaultEscape := by
      simp only [Reading.methodCall, hmake, hpattern]
    rw [htest, ← hlike]
    exact ⟨_, rfl, holds_leaf_like hx pattern Text.defaultEscape false⟩

end Leaves

/-- **The two readings of a condition agree on a row that it fits.** The induction is on the condition. -/
theorem Fits.agrees (hscope : rowScope row = .ok scope) (hkeys : (row.map Prod.fst).Nodup)
    {e : Expression} (h : e.Fits row) : e.Agrees row scope := by
  induction h with
  | flag hfield => exact agrees_flag hscope hkeys hfield
  | fieldFirst hfield hconstant hkinds =>
      exact agrees_fieldFirst hscope hkeys hfield hconstant hkinds
  | constantFirst hfield hconstant hkinds =>
      exact agrees_constantFirst hscope hkeys hfield hconstant hkinds
  | among hfield hlist hkinds => exact agrees_among hscope hkeys hfield hlist hkinds
  | like hfield hpattern => exact agrees_like hscope hkeys hfield hpattern
  | method hname hfield hpart => exact agrees_method hscope hkeys hname hfield hpart
  | group _ ih => exact ih.group
  | and _ _ ihLeft ihRight => exact ihLeft.and ihRight
  | or _ _ ihLeft ihRight => exact ihLeft.or ihRight

end Expression

/-- The predicate of a text is that of its expression. -/
theorem parseFilter_of_read {text : String} {e : Expression} (hread : Expression.read? text = some e)
    (limit : Int) : parseFilter text limit = e.toPredicate limit := by
  delta parseFilter
  rw [hread]

namespace RowFilter

/-- An expression without spatial functions makes a filter. -/
theorem create_of_read {text : String} {e : Expression} (hread : Expression.read? text = some e)
    (hspatial : spatialNames e = []) : create text = .ok ⟨text, e⟩ := by
  delta create
  rw [hread]
  dsimp only
  rw [hspatial]

/-- **A row filter keeps the rows of which the predicate of its text holds.** The condition fits the row,
names no spatial function, and the filter can take all cells of the row. Then the filter can be made and
answers, and the builder comes to a predicate that holds exactly when the answer is yes, unless it
refuses the condition because of a limit. -/
theorem keeps_iff_holds {text : String} {e : Expression} (hread : Expression.read? text = some e)
    {row : Row} (hfits : e.Fits row) (hspatial : spatialNames e = []) {scope : Scope}
    (hscope : rowScope row = .ok scope) (hkeys : (row.map Prod.fst).Nodup) (limit : Int) :
    ∃ f kept, create text = .ok f ∧ f.keeps row = .ok kept ∧
      ((∃ fault, parseFilter text limit = .error fault ∧ fault.IsLimit limit) ∨
        ∃ p, parseFilter text limit = .ok p ∧ (kept = true ↔ p.Holds (.object row))) := by
  obtain ⟨kept, heval, hreading⟩ := hfits.agrees hscope hkeys
  -- the filter answers what the expression evaluates to, the builder what it reads
  refine ⟨⟨text, e⟩, kept, create_of_read hread hspatial, ?_, ?_⟩
  · rw [keeps, hscope]
    show accepts (e.evaluate scope) = .ok kept
    rw [heval]
    rfl
  · have hcomes := hreading limit 0 Expression.topRank
    have hparse := parseFilter_of_read hread limit
    rw [Expression.toPredicate] at hparse
    rcases hresult : e.reading limit 0 Expression.topRank with fault | r
    · rw [hresult] at hcomes hparse
      exact .inl ⟨fault, hparse, hcomes⟩
    · rw [hresult] at hcomes hparse
      obtain ⟨p, hp, hholds⟩ := hcomes
      exact .inr ⟨p, hparse.trans hp, hholds.symm⟩

end RowFilter

/-! ## A condition and a row that it fits -/

namespace Tagged

/-- The text of a condition: a constant before a number, a name beneath another one, a membership. -/
def text : String := "2 <= n && (user.name.startsWith(\"a_\") || tag in [\"x\", \"y\"])"

/-- The condition. -/
def condition : Expression :=
  .and (.relation .le (.literal (.int false false [2])) (.ident "n"))
    (.group (.or
      (.method (.member (.ident "user") "name") "startsWith" [.literal (.text false ['a', '_'])])
      (.relation .isIn (.ident "tag")
        (.list [.literal (.text false ['x']), .literal (.text false ['y'])]))))

/-- A row of which the condition holds because of the membership. -/
def row : Row := [("n", .int 3), ("user", .object [("name", .str "b")]), ("tag", .str "y")]

/-- The text is read as the condition. -/
theorem read_text : Expression.read? text = some condition := by cbv

/-- No column of the row has a dot in its name. -/
theorem isName_columns : ∀ column ∈ row.map Prod.fst, isName column = true := by decide

/-- The condition fits the row. -/
theorem fits_row : condition.Fits row := by
  have hn : Expression.Finds row (.ident "n") (.int 3) :=
    Expression.IsPath.finds isName_columns (.ident (by decide)) rfl
  have htag : Expression.Finds row (.ident "tag") (.str "y") :=
    Expression.IsPath.finds isName_columns (.ident (by decide)) rfl
  have hname : Expression.Finds row (.member (.ident "user") "name") (.str "b") :=
    Expression.IsPath.finds isName_columns (.member (.ident (by decide)) (by decide)) rfl
  have htwo : (Expression.literal (.int false false [2])).IsConstant (.int 2) :=
    .int (.inr (.inl (by decide))) (by decide) (by decide)
  have hletters : (Expression.list [.literal (.text false ['x']),
      .literal (.text false ['y'])]).IsConstantList [.str "x", .str "y"] := by
    refine .list (.cons ?_ (.cons ?_ .nil)) <;> exact .text (by decide) (by decide)
  refine .and (.constantFirst hn htwo (.int (by decide) 3 2)) (.group (.or ?_ ?_))
  · exact .method (.inl rfl) hname (.text (by decide) (by decide))
  · refine .among htag hletters fun y hy => ?_
    rcases List.mem_pair.mp hy with rfl | rfl <;> exact .str (by decide) _ _

/-- The filter keeps the row, and the predicate that the builder comes to holds of it. -/
theorem keeps_iff_holds_membership :
    ∃ f p, RowFilter.create text = .ok f ∧ f.keeps row = .ok true ∧
      parseFilter text defaultMaxDepth = .ok p ∧ p.Holds (.object row) := by
  have hspatial : RowFilter.spatialNames condition = [] := by cbv
  obtain ⟨scope, hscope⟩ : ∃ scope, rowScope row = .ok scope := ⟨_, rfl⟩
  obtain ⟨f, kept, hf, hkeeps, hparse⟩ :=
    RowFilter.keeps_iff_holds read_text fits_row hspatial hscope (by decide) defaultMaxDepth
  obtain rfl := Except.ok.inj (hf.symm.trans (RowFilter.create_of_read read_text hspatial))
  have htrue : RowFilter.keeps ⟨text, condition⟩ row = .ok true := rfl
  obtain rfl := Except.ok.inj (hkeeps.symm.trans htrue)
  obtain ⟨p, hp⟩ : ∃ p, parseFilter text defaultMaxDepth = .ok p := by
    rw [parseFilter_of_read read_text]
    exact ⟨_, rfl⟩
  obtain ⟨fault, hfault, -⟩ | ⟨q, hq, hholds⟩ := hparse
  · rw [hp] at hfault
    cases hfault
  · exact ⟨_, q, hf, hkeeps, hq, hholds.mp rfl⟩

end Tagged

/-! ## Parentheses -/

namespace Parenthesized

/-- A comparison within a number of parentheses. -/
def condition : Nat → Expression
  | 0 => .relation .eq (.ident "a") (.literal (.int false false [1]))
  | levels + 1 => .group (condition levels)

/-- The comparison within ten of them. -/
def text : String := "((((((((((a == 1))))))))))"

/-- A row of which it holds. -/
def row : Row := [("a", .int 1)]

/-- The text is read so. -/
theorem read_text : Expression.read? text = some (condition 10) := by cbv

/-- Any number of parentheses fits the row. -/
theorem fits_row (levels : Nat) : (condition levels).Fits row := by
  have hcolumns : ∀ column ∈ row.map Prod.fst, isName column = true := by decide
  have ha : Expression.Finds row (.ident "a") (.int 1) :=
    Expression.IsPath.finds hcolumns (.ident (by decide)) rfl
  have hone : (Expression.literal (.int false false [1])).IsConstant (.int 1) :=
    .int (.inr (.inl (by decide))) (by decide) (by decide)
  induction levels with
  | zero => exact .fieldFirst ha hone (.int (by decide) 1 1)
  | succ levels ih => exact .group ih

/-- **Ten pairs of parentheses are too deep for the builder**: it refuses a comparison that the row
filter evaluates. -/
theorem not_keeps_iff_holds_parenthesized :
    ¬ ∀ {text : String} {e : Expression}, Expression.read? text = some e → ∀ {row : Row},
      e.Fits row → RowFilter.spatialNames e = [] → ∀ {scope : Scope}, rowScope row = .ok scope →
        (row.map Prod.fst).Nodup →
          ∃ f kept p, RowFilter.create text = .ok f ∧ f.keeps row = .ok kept ∧
            parseFilter text defaultMaxDepth = .ok p ∧ (kept = true ↔ p.Holds (.object row)) := by
  intro hall
  have hspatial : RowFilter.spatialNames (condition 10) = [] := by decide +kernel
  obtain ⟨scope, hscope⟩ : ∃ scope, rowScope row = .ok scope := ⟨_, rfl⟩
  obtain ⟨fault, hfault⟩ : ∃ fault, parseFilter text defaultMaxDepth = .error fault := by
    rw [parseFilter_of_read read_text]
    exact ⟨_, rfl⟩
  obtain ⟨-, -, p, -, -, hp, -⟩ := hall read_text (fits_row 10) hspatial hscope (by decide)
  rw [hfault] at hp
  cases hp

end Parenthesized

end SearchTables
