import SearchTables.Expression.Reader
import SearchTables.Filter.Predicate
import SearchTables.Proofs.Expression.Children

/-! # Grouping — chains of `&&` and `||`, and parentheses

A chain of `&&` or of `||` can be written with parentheses in many ways, and so can any expression. Two
expressions that differ in nothing else are **regrouped** (`Expression.Regrouped`), wherever in them the
difference is. Whatever the grouping, the **conditions** of an expression are what the chains join, and they
are read from the text one after another (`Expression.inTurn_read?`). -/

namespace SearchTables.Expression

/-- Two expressions joined by `&&` or by `||`. -/
def joined : Junction → Expression → Expression → Expression
  | .all => .and
  | .any => .or

/-! ## Regrouped expressions -/

/-- A **place** directly inside an expression: what the expression is around whatever stands there. -/
inductive Place : (Expression → Expression) → Prop where
  /-- An argument of a call, without or with a dot before it. -/
  | argument (name : String) (before after : List Expression) :
      Place fun x => .call name (before ++ x :: after)
  | rootArgument (name : String) (before after : List Expression) :
      Place fun x => .rootCall name (before ++ x :: after)
  /-- What stands in parentheses. -/
  | inner : Place .group
  | item (before after : List Expression) : Place fun x => .list (before ++ x :: after)
  /-- A key or a value of a map. -/
  | key (before : List (Expression × Expression)) (value : Expression)
      (after : List (Expression × Expression)) : Place fun x => .map (before ++ (x, value) :: after)
  | value (before : List (Expression × Expression)) (key : Expression)
      (after : List (Expression × Expression)) : Place fun x => .map (before ++ (key, x) :: after)
  /-- What a member or a method is asked of. -/
  | object (name : String) : Place fun x => .member x name
  | methodObject (name : String) (arguments : List Expression) :
      Place fun x => .method x name arguments
  | methodArgument (object : Expression) (name : String) (before after : List Expression) :
      Place fun x => .method object name (before ++ x :: after)
  /-- What an index is asked of, and the index. -/
  | indexed (position : Expression) : Place fun x => .index x position
  | position (object : Expression) : Place fun x => .index object x
  /-- The type of a message, and one of its fields. -/
  | type (fields : List (String × Expression)) : Place fun x => .message x fields
  | field (type : Expression) (before : List (String × Expression)) (name : String)
      (after : List (String × Expression)) : Place fun x => .message type (before ++ (name, x) :: after)
  | negated : Place .not
  | signed : Place .neg
  /-- A side of an arithmetic operator. -/
  | term (operator : Arithmetic) (right : Expression) : Place fun x => .arithmetic operator x right
  | lastTerm (operator : Arithmetic) (left : Expression) : Place fun x => .arithmetic operator left x
  /-- A side of a comparison. -/
  | compared (relation : Relation) (right : Expression) : Place fun x => .relation relation x right
  | comparedTo (relation : Relation) (left : Expression) : Place fun x => .relation relation left x
  /-- A side of `&&` or `||`. -/
  | link (junction : Junction) (right : Expression) : Place fun x => joined junction x right
  | lastLink (junction : Junction) (left : Expression) : Place fun x => joined junction left x
  /-- A part of a conditional. -/
  | condition (yes no : Expression) : Place fun x => .conditional x yes no
  | yes (condition no : Expression) : Place fun x => .conditional condition x no
  | no (condition yes : Expression) : Place fun x => .conditional condition yes x

/-- Whatever is directly inside an expression stands at a place. -/
theorem exists_place_of_mem_children {e x : Expression} (h : x ∈ e.children) : ∃ f, Place f ∧ e = f x := by
  cases e with
  | literal | ident | rootIdent => cases h
  | call name items =>
      obtain ⟨before, after, rfl⟩ := List.append_of_mem h
      exact ⟨_, .argument name before after, rfl⟩
  | rootCall name items =>
      obtain ⟨before, after, rfl⟩ := List.append_of_mem h
      exact ⟨_, .rootArgument name before after, rfl⟩
  | list items =>
      obtain ⟨before, after, rfl⟩ := List.append_of_mem h
      exact ⟨_, .item before after, rfl⟩
  | map entries =>
      obtain ⟨⟨key, value⟩, hentry, hx⟩ := List.mem_flatMap.1 h
      obtain ⟨before, after, rfl⟩ := List.append_of_mem hentry
      simp only [List.mem_cons, List.not_mem_nil, or_false] at hx
      rcases hx with rfl | rfl
      · exact ⟨_, .key before value after, rfl⟩
      · exact ⟨_, .value before key after, rfl⟩
  | method object name arguments =>
      rcases List.mem_cons.1 h with rfl | h
      · exact ⟨_, .methodObject name arguments, rfl⟩
      · obtain ⟨before, after, rfl⟩ := List.append_of_mem h
        exact ⟨_, .methodArgument object name before after, rfl⟩
  | message type fields =>
      rcases List.mem_cons.1 h with rfl | h
      · exact ⟨_, .type fields, rfl⟩
      · obtain ⟨⟨name, value⟩, hfield, rfl⟩ := List.mem_map.1 h
        obtain ⟨before, after, rfl⟩ := List.append_of_mem hfield
        exact ⟨_, .field type before name after, rfl⟩
  | group inner =>
      obtain rfl := List.mem_singleton.1 h
      exact ⟨_, .inner, rfl⟩
  | member object name =>
      obtain rfl := List.mem_singleton.1 h
      exact ⟨_, .object name, rfl⟩
  | not operand =>
      obtain rfl := List.mem_singleton.1 h
      exact ⟨_, .negated, rfl⟩
  | neg operand =>
      obtain rfl := List.mem_singleton.1 h
      exact ⟨_, .signed, rfl⟩
  | index left right =>
      simp only [children, List.mem_cons, List.not_mem_nil, or_false] at h
      rcases h with rfl | rfl
      · exact ⟨_, .indexed right, rfl⟩
      · exact ⟨_, .position left, rfl⟩
  | arithmetic operator left right =>
      simp only [children, List.mem_cons, List.not_mem_nil, or_false] at h
      rcases h with rfl | rfl
      · exact ⟨_, .term operator right, rfl⟩
      · exact ⟨_, .lastTerm operator left, rfl⟩
  | relation sign left right =>
      simp only [children, List.mem_cons, List.not_mem_nil, or_false] at h
      rcases h with rfl | rfl
      · exact ⟨_, .compared sign right, rfl⟩
      · exact ⟨_, .comparedTo sign left, rfl⟩
  | and left right =>
      simp only [children, List.mem_cons, List.not_mem_nil, or_false] at h
      rcases h with rfl | rfl
      · exact ⟨_, .link .all right, rfl⟩
      · exact ⟨_, .lastLink .all left, rfl⟩
  | or left right =>
      simp only [children, List.mem_cons, List.not_mem_nil, or_false] at h
      rcases h with rfl | rfl
      · exact ⟨_, .link .any right, rfl⟩
      · exact ⟨_, .lastLink .any left, rfl⟩
  | conditional condition yes no =>
      simp only [children, List.mem_cons, List.not_mem_nil, or_false] at h
      rcases h with rfl | rfl | rfl
      · exact ⟨_, .condition yes no, rfl⟩
      · exact ⟨_, .yes condition no, rfl⟩
      · exact ⟨_, .no condition yes, rfl⟩

/-- Two expressions are **regrouped** when one becomes the other by setting parentheses, by taking them away,
and by associating chains of one junction differently, at any places. -/
inductive Regrouped : Expression → Expression → Prop where
  | refl (e : Expression) : Regrouped e e
  | symm {a b : Expression} (h : Regrouped a b) : Regrouped b a
  | trans {a b c : Expression} (hab : Regrouped a b) (hbc : Regrouped b c) : Regrouped a c
  /-- Parentheses around an expression. -/
  | group (e : Expression) : Regrouped (.group e) e
  /-- A chain associated to the left or to the right. -/
  | chain (junction : Junction) (a b c : Expression) :
      Regrouped (joined junction (joined junction a b) c) (joined junction a (joined junction b c))
  /-- A difference at one place. -/
  | inside {f : Expression → Expression} (hplace : Place f) {a b : Expression} (h : Regrouped a b) :
      Regrouped (f a) (f b)

/-! ## Conditions -/

/-- Whether an expression is a chain, or stands in parentheses that no more than empty braces follow. -/
def isSplit : Expression → Bool
  | .group _ | .and _ _ | .or _ _ => true
  | .message type [] => type.isSplit
  | _ => false

/-- The **conditions** of an expression: what its chains join, from left to right and through parentheses. -/
def conditions : Expression → List Expression
  | .group inner => inner.conditions
  | .message type [] => if type.isSplit then type.conditions else [.message type []]
  | .and left right | .or left right => left.conditions ++ right.conditions
  | e => [e]

/-- Both sides of a junction have conditions. -/
theorem conditions_joined (junction : Junction) (left right : Expression) :
    (joined junction left right).conditions = left.conditions ++ right.conditions := by
  cases junction <;> rfl

/-- Any other expression is a condition of its own. -/
theorem conditions_of_not_split {e : Expression} (h : e.isSplit = false) : e.conditions = [e] := by
  cases e with
  | group | and | or => cases h
  | message type fields =>
      cases fields with
      | nil =>
          rw [isSplit] at h
          rw [conditions, h]
          rfl
      | cons => rfl
  | _ => rfl

/-- Empty braces after parentheses leave the conditions as they are. -/
theorem conditions_message {type : Expression} (h : type.isSplit = true) :
    (Expression.message type []).conditions = type.conditions := by
  rw [conditions, if_pos h]

/-! ## What is read in turn -/

/-- The reader of comparisons, which binds tighter than chains. -/
def readRelation (inner : Reader) : Reader :=
  let unary : Reader := fun cs => readUnary inner (cs.length + 1) cs
  let product := readLevel unary takeProductSign? .arithmetic
  let sum := readLevel product takeSumSign? .arithmetic
  readLevel sum takeRelation? .relation

/-- Chains are made of what the reader of comparisons reads. -/
theorem readOr_eq (inner : Reader) :
    readOr inner =
      readLevel (readLevel (readRelation inner) takeAnd? fun _ => .and) takeOr? fun _ => .or :=
  rfl

/-- An expression **stands at** the start of a text when it is read there, in a chain or as the whole of what
stands between brackets. The rest of the text follows it. -/
def StandsAt (cs : List Char) (e : Expression) (rest : List Char) : Prop :=
  ∃ levels, readRelation (readAt levels) cs = some (e, rest) ∨ readAt levels cs = some (e, rest)

/-- Expressions are read **in turn** from a text: each stands somewhere in what follows the one before. -/
inductive InTurn : List Char → List Expression → List Char → Prop where
  | done {cs rest : List Char} (h : rest <:+ cs) : InTurn cs [] rest
  | next {cs start after rest : List Char} {e : Expression} {es : List Expression} (hstart : start <:+ cs)
      (hread : StandsAt start e after) (h : InTurn after es rest) : InTurn cs (e :: es) rest

namespace InTurn

variable {cs mid rest : List Char} {es fs : List Expression}

/-- What comes before may be passed over. -/
theorem of_suffix (hsuffix : mid <:+ cs) (h : InTurn mid es rest) : InTurn cs es rest := by
  cases h with
  | done hrest => exact .done (hrest.trans hsuffix)
  | next hstart hread h => exact .next (hstart.trans hsuffix) hread h

/-- So may what comes after. -/
theorem to_suffix (h : InTurn cs es mid) (hsuffix : rest <:+ mid) : InTurn cs es rest := by
  induction h with
  | done hrest => exact .done (hsuffix.trans hrest)
  | next hstart hread _ ih => exact .next hstart hread (ih hsuffix)

/-- Some expressions are read after others. -/
theorem append (h : InTurn cs es mid) (hafter : InTurn mid fs rest) : InTurn cs (es ++ fs) rest := by
  induction h with
  | done hmid => exact hafter.of_suffix hmid
  | next hstart hread _ ih => exact .next hstart hread (ih hafter)

end InTurn

/-! ## Signs -/

variable {cs rest : List Char}

/-- What follows separators and comments is the end of the text. -/
theorem skip_suffix (inComment : Bool) (cs : List Char) : skip inComment cs <:+ cs := by
  fun_induction skip inComment cs with
  | case1 => exact List.suffix_rfl
  | case2 => exact List.nil_suffix
  | case3 => exact List.suffix_rfl
  | case4 c d rest ih | case5 _ c d rest _ _ ih | case6 _ c d rest _ _ _ ih =>
      exact ih.trans (List.suffix_cons ..)
  | case7 => exact List.suffix_rfl

/-- So is what follows a sign. -/
theorem suffix_of_takeSign? {sign : List Char} (h : takeSign? sign cs = some rest) : rest <:+ cs := by
  rw [takeSign?] at h
  split at h
  · obtain rfl := Option.some.inj h
    exact (List.drop_suffix ..).trans (skip_suffix false cs)
  · cases h

/-- What follows the sign of a conjunction. -/
theorem suffix_of_takeAnd? {u : Unit} (h : takeAnd? cs = some (u, rest)) : rest <:+ cs := by
  unfold takeAnd? at h
  split at h
  · obtain ⟨-, rfl⟩ := Prod.mk.inj (Option.some.inj h)
    exact (List.suffix_cons ..).trans (List.suffix_cons ..)
  · cases h

/-- What follows the sign of a disjunction. -/
theorem suffix_of_takeOr? {u : Unit} (h : takeOr? cs = some (u, rest)) : rest <:+ cs := by
  unfold takeOr? at h
  split at h
  · obtain ⟨-, rfl⟩ := Prod.mk.inj (Option.some.inj h)
    exact (List.suffix_cons ..).trans (List.suffix_cons ..)
  · cases h

/-! ## Parentheses -/

/-- A reader **takes in turn** what it reads the conditions of. -/
def TakesInTurn (read : Reader) : Prop :=
  ∀ ⦃cs e rest⦄, read cs = some (e, rest) → InTurn cs e.conditions rest

section

variable {inner : Reader} (hinner : TakesInTurn inner) {e : Expression}

/-- A word is no chain and no parentheses. -/
theorem not_split_readWord {word : String} (h : readWord inner word cs = some (e, rest)) :
    e.isSplit = false := by
  rw [readWord] at h
  split at h
  · obtain ⟨rfl, -⟩ := Prod.mk.inj (Option.some.inj h)
    rfl
  split at h
  · obtain ⟨rfl, -⟩ := Prod.mk.inj (Option.some.inj h)
    rfl
  split at h
  · obtain ⟨rfl, -⟩ := Prod.mk.inj (Option.some.inj h)
    rfl
  · obtain ⟨found, -, hfound⟩ := Option.map_eq_some_iff.1 h
    obtain ⟨rfl, -⟩ := Prod.mk.inj hfound
    rfl

/-- Nor is what follows a dot. -/
theorem not_split_readRoot (h : readRoot inner cs = some (e, rest)) : e.isSplit = false := by
  obtain ⟨⟨name, after⟩, -, h⟩ := Option.bind_eq_some_iff.1 h
  dsimp only at h
  split at h
  · obtain ⟨rfl, -⟩ := Prod.mk.inj (Option.some.inj h)
    rfl
  · obtain ⟨found, -, hfound⟩ := Option.map_eq_some_iff.1 h
    obtain ⟨rfl, -⟩ := Prod.mk.inj hfound
    rfl

/-- There is a field between braces that are not closed at once. -/
theorem exists_cons_of_readFields {steps : Nat} {fields : List (String × Expression)}
    (h : readFields inner steps cs = some (fields, rest)) : ∃ field others, fields = field :: others := by
  cases steps with
  | zero => cases h
  | succ steps =>
      obtain ⟨⟨name, start⟩, -, h⟩ := Option.bind_eq_some_iff.1 h
      obtain ⟨colon, -, h⟩ := Option.bind_eq_some_iff.1 h
      obtain ⟨⟨value, after⟩, -, h⟩ := Option.bind_eq_some_iff.1 h
      dsimp only at h
      split at h
      · obtain ⟨rfl, -⟩ := Prod.mk.inj (Option.some.inj h)
        exact ⟨_, _, rfl⟩
      · obtain ⟨comma, -, h⟩ := Option.bind_eq_some_iff.1 h
        obtain ⟨⟨others, end_⟩, -, h⟩ := Option.bind_eq_some_iff.1 h
        obtain ⟨rfl, -⟩ := Prod.mk.inj (Option.some.inj h)
        exact ⟨_, _, rfl⟩

include hinner

/-- Primary expressions with conditions inside are parentheses, and what stands in them is read in turn. -/
theorem inTurn_readPrimary (h : readPrimary inner cs = some (e, rest)) (hsplit : e.isSplit = true) :
    InTurn cs e.conditions rest := by
  refine InTurn.of_suffix (skip_suffix false cs) ?_
  rw [readPrimary] at h
  dsimp only at h
  change InTurn (skipBlanks cs) e.conditions rest
  generalize skipBlanks cs = cs at h ⊢
  -- only parentheses can have conditions in them, all other forms are not split
  split at h
  · obtain ⟨rfl, -⟩ := Prod.mk.inj (Option.some.inj h)
    cases hsplit
  split at h
  · rw [not_split_readWord h] at hsplit
    cases hsplit
  split at h
  · obtain ⟨⟨found, after⟩, hfound, h⟩ := Option.bind_eq_some_iff.1 h
    obtain ⟨close, hclose, h⟩ := Option.bind_eq_some_iff.1 h
    obtain ⟨rfl, rfl⟩ := Prod.mk.inj (Option.some.inj h)
    have hclosed := (hinner hfound).to_suffix (suffix_of_takeSign? hclose)
    exact hclosed.of_suffix (List.suffix_cons ..)
  · obtain ⟨found, -, hfound⟩ := Option.map_eq_some_iff.1 h
    obtain ⟨rfl, -⟩ := Prod.mk.inj hfound
    cases hsplit
  · split at h
    · obtain ⟨rfl, -⟩ := Prod.mk.inj (Option.some.inj h)
      cases hsplit
    · obtain ⟨found, -, hfound⟩ := Option.map_eq_some_iff.1 h
      obtain ⟨rfl, -⟩ := Prod.mk.inj hfound
      cases hsplit
  · rw [not_split_readRoot h] at hsplit
    cases hsplit
  · cases h

omit hinner in
/-- Of all that may be attached to an expression, only empty braces leave its conditions to be read. -/
theorem inTurn_readAttached {steps : Nat} {left : Expression} {mid : List Char}
    (hleft : left.isSplit = true → InTurn cs left.conditions mid)
    (h : readAttached inner steps left mid = some (e, rest)) (hsplit : e.isSplit = true) :
    InTurn cs e.conditions rest := by
  induction steps generalizing left mid with
  | zero =>
      obtain ⟨rfl, rfl⟩ := Prod.mk.inj (Option.some.inj h)
      exact hleft hsplit
  | succ steps ih =>
      have hmid : skipBlanks mid <:+ mid := skip_suffix false mid
      rw [readAttached] at h
      split at h
      · obtain ⟨⟨name, after⟩, -, h⟩ := Option.bind_eq_some_iff.1 h
        dsimp only at h
        split at h
        · exact ih (fun hmember => by cases hmember) h
        · obtain ⟨⟨arguments, after⟩, -, h⟩ := Option.bind_eq_some_iff.1 h
          exact ih (fun hmethod => by cases hmethod) h
      · obtain ⟨⟨position, after⟩, -, h⟩ := Option.bind_eq_some_iff.1 h
        obtain ⟨close, -, h⟩ := Option.bind_eq_some_iff.1 h
        exact ih (fun hindex => by cases hindex) h
      · rename_i start hstart
        split at h
        · rename_i close hclose
          refine ih (fun hmessage => ?_) h
          -- empty braces leave the conditions of the expression in front of them
          rw [isSplit] at hmessage
          rw [conditions_message hmessage]
          have hopen : start <:+ mid := (hstart ▸ List.suffix_cons ..).trans hmid
          exact (hleft hmessage).to_suffix ((suffix_of_takeSign? hclose).trans hopen)
        · obtain ⟨⟨fields, after⟩, hfields, h⟩ := Option.bind_eq_some_iff.1 h
          have hfields := exists_cons_of_readFields hfields
          exact ih (fun hmessage => by
            obtain ⟨field, others, rfl⟩ := hfields
            cases hmessage) h
      · obtain ⟨rfl, rfl⟩ := Prod.mk.inj (Option.some.inj h)
        exact hleft hsplit

/-- Nor do signs and negations. -/
theorem inTurn_readUnary {steps : Nat} (h : readUnary inner steps cs = some (e, rest))
    (hsplit : e.isSplit = true) : InTurn cs e.conditions rest := by
  have hmember : ∀ start, start <:+ cs → readMember inner start = some (e, rest) →
      InTurn cs e.conditions rest := by
    intro start hstart hread
    obtain ⟨⟨object, mid⟩, hobject, hattached⟩ := Option.bind_eq_some_iff.1 hread
    exact (inTurn_readAttached (inTurn_readPrimary hinner hobject) hattached hsplit).of_suffix hstart
  have hskip : skipBlanks cs <:+ cs := skip_suffix false cs
  cases steps with
  | zero => cases h
  | succ steps =>
      rw [readUnary] at h
      split at h
      · obtain ⟨found, -, hfound⟩ := Option.map_eq_some_iff.1 h
        obtain ⟨rfl, -⟩ := Prod.mk.inj hfound
        cases hsplit
      · rename_i start hstart
        split at h
        · exact hmember _ (hstart ▸ hskip) h
        · obtain ⟨found, -, hfound⟩ := Option.map_eq_some_iff.1 h
          obtain ⟨rfl, -⟩ := Prod.mk.inj hfound
          cases hsplit
      · exact hmember _ hskip h

end

/-! ## Chains -/

section

variable {α : Type} {operand : Reader} {operator : List Char → Option (α × List Char)}
  {join : α → Expression → Expression → Expression} {e : Expression}

/-- A chain of operators that make no junctions is split only if it is one operand. -/
theorem operand_of_split (hjoin : ∀ op left right, (join op left right).isSplit = false)
    (h : readLevel operand operator join cs = some (e, rest)) (hsplit : e.isSplit = true) :
    operand cs = some (e, rest) := by
  have hchain : ∀ {steps left mid}, readChain operand operator join steps left mid = some (e, rest) →
      (left, mid) = (e, rest) ∨ ∃ op l r, e = join op l r := by
    intro steps
    induction steps with
    | zero => exact fun h => .inl (Option.some.inj h)
    | succ steps ih =>
        intro left mid h
        rw [readChain] at h
        split at h
        · exact .inl (Option.some.inj h)
        split at h
        · cases h
        · rcases ih h with heq | hmore
          · exact .inr ⟨_, _, _, (Prod.mk.inj heq).1.symm⟩
          · exact .inr hmore
  obtain ⟨⟨left, mid⟩, hleft, h⟩ := Option.bind_eq_some_iff.1 h
  rcases hchain h with heq | ⟨op, l, r, rfl⟩
  · rw [hleft, heq]
  · rw [hjoin] at hsplit
    cases hsplit

variable (hoperator : ∀ {cs op rest}, operator cs = some (op, rest) → rest <:+ cs)
  (hjoin : ∀ op left right, (join op left right).conditions = left.conditions ++ right.conditions)
  (hoperand : TakesInTurn operand)
include hoperator hjoin hoperand

/-- The conditions of a chain are those of its operands, in turn. The induction is on the operators. -/
theorem inTurn_readChain {steps : Nat} {left : Expression} {mid : List Char}
    (hleft : InTurn cs left.conditions mid)
    (h : readChain operand operator join steps left mid = some (e, rest)) :
    InTurn cs e.conditions rest := by
  induction steps generalizing left mid with
  | zero =>
      obtain ⟨rfl, rfl⟩ := Prod.mk.inj (Option.some.inj h)
      exact hleft
  | succ steps ih =>
      rw [readChain] at h
      split at h
      · obtain ⟨rfl, rfl⟩ := Prod.mk.inj (Option.some.inj h)
        exact hleft
      rename_i op start hop
      split at h
      · cases h
      rename_i right after hright
      refine ih ?_ h
      have hstart : start <:+ mid := (hoperator hop).trans (skip_suffix false mid)
      rw [hjoin]
      exact hleft.append ((hoperand hright).of_suffix hstart)

/-- An operand and the chain that starts with it. -/
theorem takesInTurn_readLevel : TakesInTurn (readLevel operand operator join) := by
  intro cs e rest h
  obtain ⟨⟨left, mid⟩, hleft, h⟩ := Option.bind_eq_some_iff.1 h
  exact inTurn_readChain hoperator hjoin hoperand (hoperand hleft) h

end

/-- A comparison stands where it is read, unless it is one operand in parentheses. -/
theorem takesInTurn_readRelation {levels : Nat} (hinner : TakesInTurn (readAt levels)) :
    TakesInTurn (readRelation (readAt levels)) := by
  intro cs e rest h
  by_cases hsplit : e.isSplit = true
  · have hsum := operand_of_split (fun _ _ _ => rfl) h hsplit
    have hproduct := operand_of_split (fun _ _ _ => rfl) hsum hsplit
    have hunary := operand_of_split (fun _ _ _ => rfl) hproduct hsplit
    exact inTurn_readUnary hinner hunary hsplit
  · rw [conditions_of_not_split (Bool.not_eq_true _ ▸ hsplit)]
    exact .next List.suffix_rfl ⟨levels, .inl h⟩ (.done List.suffix_rfl)

/-- **The conditions of an expression are read in turn**, at every level of brackets. -/
theorem takesInTurn_readAt (levels : Nat) : TakesInTurn (readAt levels) := by
  induction levels with
  | zero =>
      intro cs e rest h
      cases h
  | succ levels ih =>
      have hrelation := takesInTurn_readRelation ih
      have hconjunction : TakesInTurn (readLevel _ takeAnd? fun _ => .and) :=
        takesInTurn_readLevel suffix_of_takeAnd? (fun _ _ _ => rfl) hrelation
      have hdisjunction : TakesInTurn (readOr (readAt levels)) :=
        takesInTurn_readLevel suffix_of_takeOr? (fun _ _ _ => rfl) hconjunction
      intro cs e rest h
      have hread := h
      obtain ⟨⟨first, mid⟩, hfirst, h⟩ := Option.bind_eq_some_iff.1 h
      dsimp only at h
      split at h
      · obtain ⟨rfl, rfl⟩ := Prod.mk.inj (Option.some.inj h)
        exact hdisjunction hfirst
      · obtain ⟨⟨yes, after⟩, -, h⟩ := Option.bind_eq_some_iff.1 h
        obtain ⟨colon, -, h⟩ := Option.bind_eq_some_iff.1 h
        obtain ⟨⟨no, last⟩, -, h⟩ := Option.bind_eq_some_iff.1 h
        obtain ⟨rfl, rfl⟩ := Prod.mk.inj (Option.some.inj h)
        exact .next List.suffix_rfl ⟨levels + 1, .inr hread⟩ (.done List.suffix_rfl)

/-- So the conditions of a text stand in it in their order. -/
theorem inTurn_read? {text : String} {e : Expression} (h : read? text = some e) :
    InTurn text.toList e.conditions [] := by
  rw [read?] at h
  split at h
  · rename_i found rest hread
    split at h
    · obtain rfl := Option.some.inj h
      exact (takesInTurn_readAt _ hread).to_suffix List.nil_suffix
    · cases h
  · cases h

end SearchTables.Expression
