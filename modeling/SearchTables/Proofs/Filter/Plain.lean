import SearchTables.Proofs.Filter.Misreadings

/-! # Plain filters — what callers are told of

A filter is written plainly when its numerals are well formed, none of them has too many digits, and the keys
of its maps are literals (`Expression.Plain`). Every constant in such a filter can be written out
(`Expression.Plain.isWritable`) and every key is one (`Expression.Plain.isKey`), so that it is misread only in
ways that callers are told of (`Expression.Misread.isTold_or`). -/

namespace SearchTables

/-! ## Constants that can be written out -/

namespace Value

/-- A whole number can be written out unless it has too many digits. -/
theorem isWritable_int {n : Int} : (Value.int n).isWritable = true ↔ n.natAbs < 10 ^ maxDecimalDigits := by
  rw [isWritable, decide_eq_true_iff, Nat.pow_eq]

/-- Several constants can be written out when each of them can. -/
theorem areWritable_iff {items : List Value} :
    areWritable items = true ↔ ∀ v ∈ items, v.isWritable = true := by
  induction items with
  | nil => simp [areWritable]
  | cons v rest ih => simp [areWritable, ih]

/-- An entry that is put among others that can be written out leaves them so. -/
theorem areWritableEntries_insertEntry {key value : Value} (hkey : key.isWritable = true)
    (hvalue : value.isWritable = true) {entries : List (Value × Value)}
    (h : areWritableEntries entries = true) : areWritableEntries (insertEntry key value entries) = true := by
  induction entries with
  | nil => simp [insertEntry, areWritableEntries, hkey, hvalue]
  | cons entry rest ih =>
      obtain ⟨k, v⟩ := entry
      simp only [areWritableEntries, Bool.and_eq_true] at h
      obtain ⟨⟨hk, hv⟩, hrest⟩ := h
      rw [insertEntry]
      split
      · simp [areWritableEntries, hk, hvalue, hrest]
      · simp [areWritableEntries, hk, hv, ih hrest]

/-- Members are written out as the entries that they are. -/
theorem areWritableMembers_of_textMembers {entries : List (Value × Value)} :
    ∀ {members : List (String × Value)}, textMembers? entries = some members →
      areWritableEntries entries = true → areWritableMembers members = true := by
  induction entries with
  | nil =>
      intro members h _
      obtain rfl := Option.some.inj h
      rfl
  | cons entry rest ih =>
      intro members h hwritable
      obtain ⟨key, value⟩ := entry
      cases key with
      | str name =>
          obtain ⟨others, hothers, rfl⟩ := Option.map_eq_some_iff.1 h
          simp only [areWritableEntries, Bool.and_eq_true] at hwritable
          simp [areWritableMembers, hwritable.1.2, ih hothers hwritable.2]
      | _ => cases h

/-- A map can be written out when its keys and values can. -/
theorem isWritable_of_ofEntries {entries : List (Value × Value)} {value : Value}
    (h : ofEntries? entries = some value)
    (hentries : ∀ m ∈ entries, m.1.isWritable = true ∧ m.2.isWritable = true) :
    value.isWritable = true := by
  rw [ofEntries?] at h
  split at h
  · have hall := List.foldlRecOn entries (fun found (m : Value × Value) => insertEntry m.1 m.2 found) (b := [])
      (motive := fun found => areWritableEntries found = true) rfl fun _ hfound m hm =>
        areWritableEntries_insertEntry (hentries m hm).1 (hentries m hm).2 hfound
    dsimp only at h
    split at h
    · rename_i members hmembers
      obtain rfl := Option.some.inj h
      exact areWritableMembers_of_textMembers hmembers hall
    · obtain rfl := Option.some.inj h
      exact hall
  · cases h

end Value

namespace Reading

/-- The constants of a reading can be written out. -/
def IsWritable (r : Reading) : Prop := ∀ v, r = .constant v → v.isWritable = true

/-- What is no constant has none. -/
theorem isWritable_field (path : String) : (Reading.field path).IsWritable := fun _ h => nomatch h

/-- Nor has a predicate. -/
theorem isWritable_predicate (p : Predicate) : (Reading.predicate p).IsWritable := fun _ h => nomatch h

/-- A constant is its own. -/
theorem isWritable_constant {v : Value} : (Reading.constant v).IsWritable ↔ v.isWritable = true := by
  constructor
  · intro h
    exact h v rfl
  · intro h w hw
    obtain rfl := Reading.constant.inj hw
    exact h

/-- A constant with the sign changed has as many digits. -/
theorem isWritable_negated {r : Reading} (h : r.IsWritable) : r.negated.IsWritable := by
  have hpow : 1 < 10 ^ maxDecimalDigits := Nat.one_lt_pow (by decide) (by decide)
  unfold negated
  split
  · rename_i n
    rw [isWritable_constant, Value.isWritable_int] at h ⊢
    rwa [Int.natAbs_neg]
  · exact isWritable_constant.2 rfl
  · rename_i b
    rw [isWritable_constant, Value.isWritable_int]
    cases b
    · exact Nat.lt_of_succ_lt hpow
    · exact hpow
  · exact isWritable_predicate _

/-- A test is no constant. -/
theorem TestOn.isWritable {rs : List Reading} {r : Reading} (h : TestOn rs r) : r.IsWritable := by
  cases h <;> exact isWritable_predicate _

/-- The readings of entries are among those of the keys and values. -/
theorem mem_of_mem_entriesOf {rs : List Reading} : ∀ m ∈ entriesOf rs, m.1 ∈ rs ∧ m.2 ∈ rs := by
  fun_induction entriesOf rs with
  | case1 key value rest ih =>
      intro m hm
      rcases List.mem_cons.1 hm with rfl | hm
      · simp
      · obtain ⟨hkey, hvalue⟩ := ih m hm
        simp [hkey, hvalue]
  | case2 => simp

/-- A map of readings that can be written out can be written out. -/
theorem isWritable_ofEntries {entries : List (Reading × Reading)} {r : Reading}
    (h : ofEntries entries = .ok r) (hentries : ∀ m ∈ entries, m.1.IsWritable ∧ m.2.IsWritable) :
    r.IsWritable := by
  unfold ofEntries at h
  split at h
  · rename_i keys values hkeys hvalues
    split at h
    · rename_i value hvalue
      obtain rfl := Except.ok.inj h
      refine isWritable_constant.2 (Value.isWritable_of_ofEntries hvalue fun m hm => ?_)
      rw [constants?_eq_some] at hkeys hvalues
      have hkey : Reading.constant m.1 ∈ entries.map (·.1) :=
        hkeys ▸ List.mem_map_of_mem (List.of_mem_zip hm).1
      have hval : Reading.constant m.2 ∈ entries.map (·.2) :=
        hvalues ▸ List.mem_map_of_mem (List.of_mem_zip hm).2
      obtain ⟨e, he, hfirst⟩ := List.mem_map.1 hkey
      obtain ⟨e', he', hsecond⟩ := List.mem_map.1 hval
      exact ⟨(hentries e he).1 _ hfirst, (hentries e' he').2 _ hsecond⟩
    · cases h
  · obtain rfl := Except.ok.inj h
    exact isWritable_predicate _

end Reading

/-! ## Plain filters -/

/-- A literal is written **plainly**: not as an ill-formed numeral, nor as one with too many digits. -/
def Literal.IsPlain (value : Literal) : Prop :=
  ¬ value.IllFormed ∧
    match value with
    | .int negative hexadecimal digits | .uint negative hexadecimal digits =>
        (Expression.intOf negative hexadecimal digits).natAbs < 10 ^ maxDecimalDigits
    | _ => True

/-- A plain literal can be written out. -/
theorem Literal.isWritable_reading {value : Literal} {r : Reading} (hplain : value.IsPlain)
    (h : value.reading = .ok r) : r.IsWritable := by
  cases value with
  | int negative hexadecimal digits | uint negative hexadecimal digits =>
      obtain ⟨n, hn, rfl⟩ := map_eq_ok.1 h
      rw [Literal.wholeValue] at hn
      split at hn
      · cases hn
      · obtain rfl := Except.ok.inj hn
        exact Reading.isWritable_constant.2 (Value.isWritable_int.2 hplain.2)
  | _ =>
      obtain rfl := Except.ok.inj h
      intro v hv
      cases hv <;> rfl

namespace Expression

/-- An expression is written **plainly** as far as it is read: its literals are plain, and so are the keys of
its maps. -/
inductive Plain : Expression → Prop where
  | intro {e : Expression} (hliteral : ∀ value, e = .literal value → value.IsPlain)
      (hkeys : ∀ entries, e = .map entries → ∀ m ∈ entries, ∃ value, m.1 = .literal value)
      (hoperands : ∀ o ∈ e.operands, Plain o.expression) : Plain e

variable {limit outer : Int} {start : Nat} {err : Error}

/-- What is put together of readings that can be written out can be written out. -/
theorem Assembled.isWritable {e : Expression} {rs : List Reading} {r : Reading} (h : e.Assembled rs r)
    (hliteral : ∀ value, e = .literal value → value.IsPlain) (hrs : ∀ s ∈ rs, s.IsWritable) :
    r.IsWritable := by
  cases h with
  | group | braces => exact hrs _ List.mem_cons_self
  | conjunction | disjunction => exact Reading.isWritable_predicate _
  | name | path => exact Reading.isWritable_field _
  | literal h => exact Literal.isWritable_reading (hliteral _ rfl) h
  | negated => exact Reading.isWritable_negated (hrs _ List.mem_cons_self)
  | list =>
      refine Reading.isWritable_constant.2 (Value.areWritable_iff.2 fun v hv => ?_)
      exact Reading.isWritable_constant.1 (hrs _ (List.mem_map_of_mem hv))
  | map h =>
      refine Reading.isWritable_ofEntries h fun m hm => ?_
      obtain ⟨hkey, hvalue⟩ := Reading.mem_of_mem_entriesOf m hm
      exact ⟨hrs _ hkey, hrs _ hvalue⟩
  | timestamp => exact Reading.isWritable_constant.2 rfl
  | test h => exact h.isWritable

/-- **What a plain expression is read as can be written out.** The induction is on the expression. -/
theorem Plain.isWritable {e : Expression} (h : e.Plain) :
    ∀ {outer : Int} {start : Nat} {r : Reading}, reading limit outer start e = .ok r → r.IsWritable := by
  induction h with
  | @intro e hliteral _ _ ih =>
      intro outer start r hr
      rw [reading_eq] at hr
      obtain ⟨-, -, hr⟩ := bind_eq_ok.1 hr
      obtain ⟨rs, hrs, hr⟩ := bind_eq_ok.1 hr
      refine (assembled_of_putTogether (length_of_mapM hrs) hr).isWritable hliteral fun s hs => ?_
      obtain ⟨o, ho, hread⟩ := exists_of_mem_mapM hrs hs
      rw [operandReading] at hread
      obtain ⟨found, hfound, hread⟩ := bind_eq_ok.1 hread
      split at hread
      · obtain ⟨p, -, rfl⟩ := map_eq_ok.1 hread
        exact Reading.isWritable_predicate p
      · obtain rfl := Except.ok.inj hread
        exact ih o ho hfound

/-- The keys of entries that were read are read from the keys. -/
theorem exists_of_mem_entryReadings {entries : List (Expression × Expression)} :
    ∀ {rs : List (Reading × Reading)}, entryReadings limit outer entries = .ok rs →
      ∀ m ∈ rs, ∃ entry ∈ entries, reading limit outer topRank entry.1 = .ok m.1 := by
  induction entries with
  | nil =>
      intro rs h
      obtain rfl := Except.ok.inj h
      exact List.forall_mem_nil _
  | cons entry rest ih =>
      intro rs h
      obtain ⟨key, value⟩ := entry
      rw [entryReadings] at h
      obtain ⟨k, hk, h⟩ := bind_eq_ok.1 h
      obtain ⟨v, -, h⟩ := bind_eq_ok.1 h
      obtain ⟨others, hothers, h⟩ := bind_eq_ok.1 h
      obtain rfl := Except.ok.inj h
      refine List.forall_mem_cons.2 ⟨⟨(key, value), List.mem_cons_self, hk⟩, fun m hm => ?_⟩
      obtain ⟨entry, hentry, hread⟩ := ih hothers m hm
      exact ⟨entry, List.mem_cons_of_mem _ hentry, hread⟩

/-- A constant that is read from a literal may be a key. -/
theorem isKey_of_literal {value : Literal} {v : Value}
    (h : reading limit outer start (.literal value) = .ok (.constant v)) : v.isKey = true := by
  rw [reading_eq] at h
  obtain ⟨-, -, h⟩ := bind_eq_ok.1 h
  obtain ⟨rs, -, h⟩ := bind_eq_ok.1 h
  rw [putTogether] at h
  cases value with
  | int | uint =>
      obtain ⟨n, -, hn⟩ := map_eq_ok.1 h
      obtain rfl := Reading.constant.inj hn
      rfl
  | bytes => cases h
  | null | bool | double | text =>
      obtain rfl := Reading.constant.inj (Except.ok.inj h)
      rfl

/-- The keys of a plain map may be keys. -/
theorem Plain.isKey {entries : List (Expression × Expression)} {rs : List Reading} {keys : List Value}
    (h : (Expression.map entries).Plain)
    (hrs : operandReadings limit outer (Expression.map entries).operands = .ok rs)
    (hkeys : Reading.constants? ((Reading.entriesOf rs).map (·.1)) = some keys) {key : Value}
    (hkey : key ∈ keys) : key.isKey = true := by
  have hread : entryReadings limit outer entries = .ok (Reading.entriesOf rs) := by
    rw [← operandReadings_entries]
    exact map_eq_ok.2 ⟨rs, hrs, rfl⟩
  rw [Reading.constants?_eq_some] at hkeys
  have hfirst : Reading.constant key ∈ (Reading.entriesOf rs).map (·.1) :=
    hkeys ▸ List.mem_map_of_mem hkey
  obtain ⟨pair, hpair, hpairkey⟩ := List.mem_map.1 hfirst
  obtain ⟨entry, hentry, hreading⟩ := exists_of_mem_entryReadings hread pair hpair
  cases h with
  | intro _ hliterals _ =>
      obtain ⟨value, hvalue⟩ := hliterals entries rfl entry hentry
      rw [hvalue, hpairkey] at hreading
      exact isKey_of_literal hreading

end Expression

/-! ## Filters -/

/-- A failure that callers of the builder are **told of**: the text is no filter, a path is none, or something
is too deep. -/
def Error.IsTold (err : Error) : Prop :=
  err.family = .filterSyntax ∨ err.family = .fieldName ∨ err.family = .depth

instance (err : Error) : Decidable err.IsTold := inferInstanceAs (Decidable (_ ∨ _ ∨ _))

namespace Expression

variable {limit outer : Int} {err : Error} {o : Operand}

/-- **What is written plainly is misread only in ways that callers are told of**, and anything else so or
because of a value or its type. The induction is on the way to the place. -/
theorem Misread.isTold_or (h : Misread limit outer o err) :
    err.IsTold ∨ (err = .refusedValue ∨ err = .refusedType) ∧ ¬ o.expression.Plain := by
  induction h with
  | part _ hoperands _ _ ih =>
      -- a plain expression has plain parts
      refine ih.imp_right fun ⟨he, hpart⟩ => ⟨he, fun hplain => hpart ?_⟩
      cases hplain with
      | intro _ _ hall => exact hall _ (by simp [hoperands])
  | @here outer o err h =>
      cases h with
      | deep => exact .inl (.inr (.inr rfl))
      | unwritable hcondition hread hv =>
          refine .inr ⟨.inl rfl, fun hplain => ?_⟩
          rw [Reading.isWritable_constant.1 (hplain.isWritable hread)] at hv
          cases hv
      | slip hwithin hrs hslip =>
          obtain ⟨start, e, isCondition⟩ := o
          cases hslip with
          | name | path => exact .inl (.inr (.inl rfl))
          | timestamp => exact .inl (.inl rfl)
          | numeral hill =>
              refine .inr ⟨.inl rfl, fun hplain => ?_⟩
              cases hplain with
              | intro hliteral => exact (hliteral _ rfl).1 hill
          | key hkeys _ hm hkey =>
              refine .inr ⟨.inr rfl, fun hplain => ?_⟩
              rw [hplain.isKey hrs hkeys (List.of_mem_zip hm).1] at hkey
              cases hkey

end Expression

/-- **When a text is read as a filter.** A text that is no expression is refused. Any other one has a predicate
unless the builder misreads it, and then that is the failure: one that callers are told of, or, when the filter
is not written plainly, one about a value or its type. -/
theorem parseFilter_unless_misread (text : String) (limit : Int) :
    (Expression.read? text = none ∧ parseFilter text limit = .error .filterNotExpression) ∨
      ∃ e, Expression.read? text = some e ∧
        (((∀ err, ¬ Expression.Misread limit 0 ⟨Expression.topRank, e, true⟩ err) ∧
            ∃ p, parseFilter text limit = .ok p) ∨
          ∃ err, Expression.Misread limit 0 ⟨Expression.topRank, e, true⟩ err ∧
            parseFilter text limit = .error err ∧
            (err.IsTold ∨ (err = .refusedValue ∨ err = .refusedType) ∧ ¬ e.Plain)) := by
  rcases hread : Expression.read? text with - | e
  · refine .inl ⟨rfl, ?_⟩
    rw [parseFilter, hread]
  refine .inr ⟨e, rfl, ?_⟩
  -- a filter is read as a condition
  have hcondition : (e.toPredicate limit).map Reading.predicate =
      Expression.operandReading limit 0 ⟨Expression.topRank, e, true⟩ := by
    rw [Expression.toPredicate, Expression.operandReading]
    cases Expression.reading limit 0 Expression.topRank e <;> rfl
  have hfails : ∀ {err}, e.toPredicate limit = .error err ↔
      Expression.Misread limit 0 ⟨Expression.topRank, e, true⟩ err := by
    intro err
    rw [← Expression.operandReading_fails_iff, ← hcondition, map_eq_error]
  rw [parseFilter_of_read hread]
  cases hresult : e.toPredicate limit with
  | ok p =>
      refine .inl ⟨fun err hmisread => ?_, p, rfl⟩
      rw [hfails.2 hmisread] at hresult
      cases hresult
  | error err => exact .inr ⟨err, hfails.1 hresult, rfl, (hfails.1 hresult).isTold_or⟩

/-- **Not every failure is one that callers are told of**: a zero before the first digit of a number makes the
builder fail on its value. -/
theorem not_parseFilter_told :
    ¬ ∀ (text : String) (limit : Int), (∃ p, parseFilter text limit = .ok p) ∨
      ∃ err, parseFilter text limit = .error err ∧ err.IsTold := by
  intro hall
  have hread : Expression.read? "a == 007" =
      some (.relation .eq (.ident "a") (.literal (.int false false [0, 0, 7]))) := by cbv
  have hfails : parseFilter "a == 007" defaultMaxDepth = .error .refusedValue := by
    rw [parseFilter_of_read hread]
    rfl
  rcases hall "a == 007" defaultMaxDepth with ⟨p, hp⟩ | ⟨err, herr, htold⟩
  · rw [hfails] at hp
    cases hp
  · rw [hfails] at herr
    obtain rfl := Except.error.inj herr
    revert htold
    decide

end SearchTables
