import SearchTables.Expression.Reader
import SearchTables.Row.Filter

/-! # Names that are read — every name in an expression is one

A name starts with a letter or an underscore and goes on with letters, digits and underscores. The
reader takes nothing else for the name of a variable, a function, a member, a method or a field: each
of its functions keeps this when the function that it is given for brackets does, so it holds at
every level of brackets (`Expression.named_read?`). -/

namespace SearchTables.Expression

/-- Whether all of several texts are names. -/
def Named (names : List String) : Prop := ∀ n ∈ names, isName n = true

section

variable {n : String} {names more : List String}

@[simp] theorem named_nil : Named [] := fun _ h => nomatch h

@[simp] theorem named_cons : Named (n :: names) ↔ isName n = true ∧ Named names :=
  List.forall_mem_cons

@[simp] theorem named_append : Named (names ++ more) ↔ Named names ∧ Named more :=
  List.forall_mem_append

end

/-! ## What is read -/

/-- What was read, if anything was, satisfies a property. -/
def Yields {α : Type} (found : Option (α × List Char)) (P : α → Prop) : Prop :=
  ∀ a rest, found = some (a, rest) → P a

namespace Yields

variable {α β : Type} {P : α → Prop} {Q : β → Prop}

/-- Nothing was read. -/
theorem of_none : Yields (none : Option (α × List Char)) P := fun _ _ h => nomatch h

/-- Something with the property was read. -/
theorem of_some {a : α} {rest : List Char} (h : P a) : Yields (some (a, rest)) P := by
  rintro b rest' hb
  obtain ⟨rfl, -⟩ := Prod.mk.inj (Option.some.inj hb)
  exact h

/-- Something is read after something else. -/
theorem bind {found : Option (α × List Char)} {next : α × List Char → Option (β × List Char)}
    (h : Yields found P) (hnext : ∀ a rest, P a → Yields (next (a, rest)) Q) :
    Yields (found.bind next) Q := by
  intro b rest hb
  obtain ⟨⟨a, rest'⟩, ha, hb⟩ := Option.bind_eq_some_iff.1 hb
  exact hnext a rest' (h a rest' ha) b rest hb

/-- Something is read after a sign. -/
theorem sign {found : Option (List Char)} {next : List Char → Option (β × List Char)}
    (hnext : ∀ rest, Yields (next rest) Q) : Yields (found.bind next) Q := by
  intro b rest hb
  obtain ⟨rest', -, hb⟩ := Option.bind_eq_some_iff.1 hb
  exact hnext rest' b rest hb

/-- What was read is made into something else. -/
theorem map {found : Option (α × List Char)} {f : α × List Char → β × List Char} (h : Yields found P)
    (hf : ∀ a rest, P a → Q (f (a, rest)).1) : Yields (found.map f) Q := by
  intro b rest hb
  obtain ⟨⟨a, rest'⟩, ha, hb⟩ := Option.map_eq_some_iff.1 hb
  have hQ := hf a rest' (h a rest' ha)
  rwa [hb] at hQ

end Yields

/-- Whether a reader reads names as names only. -/
def NamesWell (read : Reader) : Prop := ∀ cs, Yields (read cs) fun e => Named e.names

/-! ## Words -/

/-- The word at the start of a text is a name. -/
theorem isName_takeWord? (cs : List Char) : Yields (takeWord? cs) fun word => isName word = true := by
  cases cs with
  | nil => exact .of_none
  | cons c rest =>
      rw [takeWord?]
      split
      · rename_i hstart
        refine .of_some ?_
        rw [isName, String.toList_ofList]
        exact Bool.and_eq_true_iff.2 ⟨hstart, List.all_takeWhile⟩
      · exact .of_none

/-- A name that was taken is one. -/
theorem isName_takeName? (cs : List Char) : Yields (takeName? cs) fun name => isName name = true := by
  have hword := isName_takeWord? (skipBlanks cs)
  rw [takeName?]
  split
  · rename_i word rest heq
    split
    · exact .of_none
    · exact .of_some (hword word rest heq)
  · exact .of_none

/-! ## Lists -/

variable {inner : Reader} (h : NamesWell inner)
include h

/-- Expressions separated by commas. -/
theorem named_readItems (close : Char) (steps : Nat) (cs : List Char) :
    Yields (readItems inner close steps cs) fun es => Named (namesAll es) := by
  induction steps generalizing cs with
  | zero => exact .of_none
  | succ steps ih =>
      rw [readItems]
      split
      · exact .of_none
      rename_i e rest heq
      have he := h cs e rest heq
      split
      · exact .of_some (by simpa [namesAll] using he)
      split
      · exact .of_none
      exact (ih _).map fun es rest hes => by simpa [namesAll] using ⟨he, hes⟩

/-- Possibly no expressions. -/
theorem named_readList (close : Char) (cs : List Char) :
    Yields (readList inner close cs) fun es => Named (namesAll es) := by
  rw [readList]
  split
  · exact .of_some named_nil
  · exact named_readItems h close _ _

/-- The entries of a map. -/
theorem named_readEntries (steps : Nat) (cs : List Char) :
    Yields (readEntries inner steps cs) fun entries => Named (namesEntries entries) := by
  induction steps generalizing cs with
  | zero => exact .of_none
  | succ steps ih =>
      refine (h cs).bind fun key rest hkey => .sign fun rest => (h rest).bind fun value rest hvalue => ?_
      dsimp only
      split
      · exact .of_some (by simpa [namesEntries] using ⟨hkey, hvalue⟩)
      · exact .sign fun rest => (ih rest).bind fun entries rest hentries =>
          .of_some (by simpa [namesEntries] using ⟨hkey, hvalue, hentries⟩)

/-- The fields of a message. -/
theorem named_readFields (steps : Nat) (cs : List Char) :
    Yields (readFields inner steps cs) fun fields => Named (namesFields fields) := by
  induction steps generalizing cs with
  | zero => exact .of_none
  | succ steps ih =>
      refine (isName_takeName? cs).bind fun name rest hname =>
        .sign fun rest => (h rest).bind fun value rest hvalue => ?_
      dsimp only
      split
      · exact .of_some (by simpa [namesFields] using ⟨hname, hvalue⟩)
      · exact .sign fun rest => (ih rest).bind fun fields rest hfields =>
          .of_some (by simpa [namesFields] using ⟨hname, hvalue, hfields⟩)

/-! ## Operands -/

/-- A truth value, `null`, a call or a variable. -/
theorem named_readWord {word : String} (hword : isName word = true) (rest : List Char) :
    Yields (readWord inner word rest) fun e => Named e.names := by
  rw [readWord]
  split
  · exact .of_some named_nil
  split
  · exact .of_some named_nil
  split
  · exact .of_some (by simpa [names] using hword)
  · exact (named_readList h _ _).map fun es rest hes => by simpa [names] using ⟨hword, hes⟩

/-- A variable or a call with a dot before it. -/
theorem namesWell_readRoot : NamesWell (readRoot inner) := fun cs => by
  refine (isName_takeName? cs).bind fun name rest hname => ?_
  dsimp only
  split
  · exact .of_some (by simpa [names] using hname)
  · exact (named_readList h _ _).map fun es rest hes => by simpa [names] using ⟨hname, hes⟩

/-- An operand without anything attached to it. -/
theorem namesWell_readPrimary : NamesWell (readPrimary inner) := fun cs => by
  rw [readPrimary]
  split
  · exact .of_some named_nil
  split
  · rename_i word rest heq
    exact named_readWord h (isName_takeWord? _ word rest heq) rest
  split
  · exact (h _).bind fun e rest he => .sign fun rest => .of_some he
  · exact (named_readList h _ _).map fun es rest hes => hes
  · split
    · exact .of_some named_nil
    · exact (named_readEntries h _ _).map fun entries rest hentries => hentries
  · exact namesWell_readRoot h _
  · exact .of_none

/-- Members, calls and indices keep the names of what they are attached to. -/
theorem named_readAttached (steps : Nat) (e : Expression) (cs : List Char) (he : Named e.names) :
    Yields (readAttached inner steps e cs) fun e => Named e.names := by
  induction steps generalizing e cs with
  | zero => exact .of_some he
  | succ steps ih =>
      rw [readAttached]
      split
      · refine (isName_takeName? _).bind fun name rest hname => ?_
        dsimp only
        split
        · exact ih _ _ (by simpa [names] using ⟨he, hname⟩)
        · exact (named_readList h _ _).bind fun arguments rest harguments =>
            ih _ _ (by simpa [names] using ⟨he, hname, harguments⟩)
      · exact (h _).bind fun position rest hposition => .sign fun rest =>
          ih _ _ (by simpa [names] using ⟨he, hposition⟩)
      · split
        · exact ih _ _ (by simpa [names, namesFields] using he)
        · exact (named_readFields h _ _).bind fun fields rest hfields =>
            ih _ _ (by simpa [names] using ⟨he, hfields⟩)
      · exact .of_some he

/-- An operand with what is attached to it. -/
theorem namesWell_readMember : NamesWell (readMember inner) := fun cs =>
  (namesWell_readPrimary h cs).bind fun e rest he => named_readAttached h _ e rest he

/-- Signs and negations before an operand. -/
theorem namesWell_readUnary (steps : Nat) : NamesWell (readUnary inner steps) := by
  induction steps with
  | zero => exact fun _ => .of_none
  | succ steps ih =>
      intro cs
      rw [readUnary]
      split
      · exact (ih _).map fun e rest he => he
      · split
        · exact namesWell_readMember h _
        · exact (ih _).map fun e rest he => he
      · exact namesWell_readMember h _

omit h

/-! ## Operators -/

section

variable {α : Type} {operand : Reader} {operator : List Char → Option (α × List Char)}
  {join : α → Expression → Expression → Expression}
  (hjoin : ∀ op left right, (join op left right).names = left.names ++ right.names)
  (hoperand : NamesWell operand)
include hjoin hoperand

/-- A chain of operands with operators between them. -/
theorem named_readChain (steps : Nat) (left : Expression) (cs : List Char) (hleft : Named left.names) :
    Yields (readChain operand operator join steps left cs) fun e => Named e.names := by
  induction steps generalizing left cs with
  | zero => exact .of_some hleft
  | succ steps ih =>
      rw [readChain]
      split
      · exact .of_some hleft
      split
      · exact .of_none
      rename_i op rest _ _ right rest' heq
      refine ih _ _ ?_
      rw [hjoin]
      exact named_append.2 ⟨hleft, hoperand rest right rest' heq⟩

/-- Operands of one level. -/
theorem namesWell_readLevel : NamesWell (readLevel operand operator join) := fun cs =>
  (hoperand cs).bind fun e rest he => named_readChain hjoin hoperand _ e rest he

end

/-- All levels of binary operators. -/
theorem namesWell_readOr {inner : Reader} (h : NamesWell inner) : NamesWell (readOr inner) := by
  -- from the level that binds tightest to the loosest
  have hunary : NamesWell fun cs => readUnary inner (cs.length + 1) cs := fun cs =>
    namesWell_readUnary h _ cs
  have hproduct : NamesWell (readLevel _ takeProductSign? .arithmetic) :=
    namesWell_readLevel (fun _ _ _ => rfl) hunary
  have hsum : NamesWell (readLevel _ takeSumSign? .arithmetic) :=
    namesWell_readLevel (fun _ _ _ => rfl) hproduct
  have hrelation : NamesWell (readLevel _ takeRelation? .relation) :=
    namesWell_readLevel (fun _ _ _ => rfl) hsum
  have hand : NamesWell (readLevel _ takeAnd? fun _ => .and) :=
    namesWell_readLevel (fun _ _ _ => rfl) hrelation
  exact namesWell_readLevel (fun _ _ _ => rfl) hand

/-! ## Whole expressions -/

/-- An expression with any number of levels of brackets. -/
theorem namesWell_readAt (levels : Nat) : NamesWell (readAt levels) := by
  induction levels with
  | zero => exact fun _ => .of_none
  | succ levels ih =>
      intro cs
      refine (namesWell_readOr ih cs).bind fun e rest he => ?_
      dsimp only
      split
      · exact .of_some he
      · exact (namesWell_readOr ih _).bind fun yes rest hyes => .sign fun rest =>
          (ih rest).bind fun no rest hno => .of_some (by simpa [names] using ⟨he, hyes, hno⟩)

/-- **Every name in an expression that was read is a name.** -/
theorem named_read? {text : String} {e : Expression} (h : read? text = some e) : Named e.names := by
  rw [read?] at h
  split at h
  · rename_i found rest heq
    split at h
    · obtain rfl := Option.some.inj h
      exact namesWell_readAt _ _ found rest heq
    · cases h
  · cases h

end SearchTables.Expression
