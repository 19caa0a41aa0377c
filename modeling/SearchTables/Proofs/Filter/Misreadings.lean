import SearchTables.Proofs.Expression.Children
import SearchTables.Proofs.Filter.Agreement
import SearchTables.Proofs.Filter.Translation

/-! # Misreadings — where the builder fails

The builder checks how deep an expression is, reads the parts of it in order, and puts together what they are
read as (`Expression.reading_eq`). What comes of that joins what the parts were read as, passes one of them on,
tests one of them, or is a field, a constant or something unknown (`Expression.Assembled`).

Reading fails at a place that is too deep, at a path that is none, and at a timestamp whose text tells none. It
also fails, in a way that callers are not told of, at an ill-formed numeral, at a map with a collection as a
key, and at a constant with too many digits that is to be a condition (`Expression.Amiss`). So a part is read
unless the builder comes to such a place on the way through it (`Expression.operandReading_fails_iff`). -/

namespace SearchTables

/-! ## Numerals and keys -/

/-- A decimal numeral is **ill-formed** when there is a zero before its first digit, or when it has too many
digits. -/
def Literal.IllFormed : Literal → Prop
  | .int _ hexadecimal digits | .uint _ hexadecimal digits =>
      hexadecimal = false ∧
        (digits.head? = some 0 ∧ (∃ d ∈ digits, d ≠ 0) ∨ maxDecimalDigits < digits.length)
  | _ => False

/-- A literal is refused when it is an ill-formed numeral. -/
theorem Literal.reading_eq_error {value : Literal} {err : Error} :
    value.reading = .error err ↔ err = .refusedValue ∧ value.IllFormed := by
  -- signed or not, a numeral is checked in one way
  have hwhole : ∀ negative hexadecimal digits,
      wholeValue negative hexadecimal digits = .error err ↔
        err = .refusedValue ∧ (Literal.int negative hexadecimal digits).IllFormed := by
    intro negative hexadecimal digits
    have hrefused : (!hexadecimal && (digits.head? = some 0 && digits.any (· ≠ 0) ||
        maxDecimalDigits < digits.length)) = true ↔
          (Literal.int negative hexadecimal digits).IllFormed := by
      simp [IllFormed]
    rw [wholeValue, ← hrefused]
    split_ifs with h
    · constructor
      · intro hfails
        exact ⟨(Except.error.inj hfails).symm, h⟩
      · rintro ⟨rfl, -⟩
        rfl
    · constructor
      · intro hok
        cases hok
      · rintro ⟨-, hill⟩
        exact absurd hill h
  cases value with
  | int negative hexadecimal digits | uint negative hexadecimal digits =>
      rw [Literal.reading, map_eq_error]
      exact hwhole negative hexadecimal digits
  | _ => simp [Literal.reading, IllFormed]

/-- Entries make no map when one of their keys cannot be one. -/
theorem Value.ofEntries?_eq_none {entries : List (Value × Value)} :
    ofEntries? entries = none ↔ ∃ m ∈ entries, m.1.isKey = false := by
  rw [ofEntries?]
  split_ifs with h
  · rw [List.all_eq_true] at h
    have hkeys : ¬ ∃ m ∈ entries, m.1.isKey = false := by
      rintro ⟨m, hm, hkey⟩
      simpa [hkey] using h m hm
    refine iff_of_false ?_ hkeys
    dsimp only
    split <;> simp
  · rw [List.all_eq_true] at h
    push Not at h
    obtain ⟨m, hm, hkey⟩ := h
    exact iff_of_true rfl ⟨m, hm, by simpa using hkey⟩

/-! ## Parts -/

/-- A part of an expression that is read with it: where the grammar lets it stand, and whether it is to be a
condition. -/
structure Operand where
  start : Nat
  expression : Expression
  isCondition : Bool := false

namespace Expression

/-- A whole expression as a part. -/
def asOperand (e : Expression) : Operand := ⟨topRank, e, false⟩

/-- The parts of an expression that are read, in order. -/
def operands : Expression → List Operand
  | .call _ arguments => arguments.map asOperand
  | .group inner => [inner.asOperand]
  | .list items => items.map asOperand
  | .map entries => entries.flatMap fun (key, value) => [key.asOperand, value.asOperand]
  | .member object _ => [⟨memberRank, object, false⟩]
  | .method object _ arguments => ⟨memberRank, object, false⟩ :: arguments.map asOperand
  | .message type [] => [⟨memberRank, type, false⟩]
  | .neg operand => [⟨unaryRank, operand, false⟩]
  | .relation _ left right => [⟨relationRank, left, false⟩, ⟨sumRank, right, false⟩]
  | .and left right => [⟨andRank, left, true⟩, ⟨relationRank, right, true⟩]
  | .or left right => [⟨orRank, left, true⟩, ⟨andRank, right, true⟩]
  | _ => []

/-- The deepest level that an expression itself takes. -/
def entered (outer : Int) (start : Nat) (e : Expression) : Int :=
  match e with
  | .rootIdent _ | .rootCall _ [] => depthAt outer start e + 1
  | _ => depthAt outer start e

/-- Read a part below a depth. -/
def operandReading (limit outer : Int) (o : Operand) : Except Error Reading := do
  let r ← reading limit outer o.start o.expression
  if o.isCondition then r.condition.map .predicate else pure r

/-- Read several parts below a depth, in order. -/
def operandReadings (limit outer : Int) (os : List Operand) : Except Error (List Reading) :=
  os.mapM (operandReading limit outer)

end Expression

/-- The entries that keys and values in turn make. -/
def Reading.entriesOf : List Reading → List (Reading × Reading)
  | key :: value :: rest => (key, value) :: entriesOf rest
  | _ => []

/-- The map of entries, if all of them are constants. -/
def Reading.ofEntries (entries : List (Reading × Reading)) : Except Error Reading :=
  match Reading.constants? (entries.map (·.1)), Reading.constants? (entries.map (·.2)) with
  | some keys, some values =>
      match Value.ofEntries? (keys.zip values) with
      | some value => pure (.constant value)
      | none => .error .refusedType
  | _, _ => pure (.unknown "non-constant map")

namespace Expression

/-- What an expression is read as when its parts are read so. There are as many readings as there are parts
(`operands`), so the defaults do not show. -/
def putTogether : Expression → List Reading → Except Error Reading
  | .literal value, _ => value.reading
  | .ident name, _ => fieldReading name
  | .rootIdent name, _ => pure (.unknown name)
  | .rootCall name [], _ => pure (.unknown name)
  | .rootCall _ (_ :: _), _ => pure (.unknown "dot_ident_arg")
  | .call name _, rs => Reading.functionCall name rs
  | .group _, rs => pure (rs.headD default)
  | .message _ [], rs => pure (rs.headD default)
  | .message _ (_ :: _), _ => pure (.unknown "member_object")
  | .list _, rs =>
      match Reading.constants? rs with
      | some values => pure (.constant (.list values))
      | none => pure (.unknown "non-constant list")
  | .map _, rs => Reading.ofEntries (Reading.entriesOf rs)
  | .member _ name, rs =>
      match rs.head? with
      | some (.field path) => fieldReading (path ++ "." ++ name)
      | _ => pure (.unknown "member access")
  | .method _ name _, rs => pure ((rs.headD default).methodCall name rs.tail)
  | .index _ _, _ => pure (.unknown "member_index")
  | .not _, _ => pure (.unknown "unary expression")
  | .neg _, rs => pure (rs.headD default).negated
  | .arithmetic operator _ _, _ =>
      pure (.unknown (if operator.rank = sumRank then "addition" else "multiplication"))
  | .relation sign _ _, rs => pure (sign.reading (rs.headD default) (rs.tail.headD default))
  | .and _ _, rs =>
      pure (.predicate ((rs.headD default).toPredicate.join .all (rs.tail.headD default).toPredicate))
  | .or _ _, rs =>
      pure (.predicate ((rs.headD default).toPredicate.join .any (rs.tail.headD default).toPredicate))
  | .conditional _ _ _, _ => pure (.unknown "conditional expression")

variable {limit outer : Int} {start : Nat} {err : Error}

/-- The first part is read before the others. -/
theorem operandReadings_cons (o : Operand) (rest : List Operand) :
    operandReadings limit outer (o :: rest) = (do
      let r ← operandReading limit outer o
      let rs ← operandReadings limit outer rest
      pure (r :: rs)) :=
  List.mapM_cons

/-- Nothing is read without parts. -/
theorem operandReadings_nil : operandReadings limit outer [] = .ok [] := rfl

/-- A part that is no condition is read as itself. -/
theorem operandReading_of_plain {e : Expression} :
    operandReading limit outer ⟨start, e, false⟩ = reading limit outer start e := by
  rw [operandReading]
  cases reading limit outer start e <;> rfl

/-- Whole expressions are read in order. -/
theorem operandReadings_asOperand (es : List Expression) :
    operandReadings limit outer (es.map asOperand) = readings limit outer es := by
  induction es with
  | nil => rfl
  | cons e rest ih =>
      rw [List.map_cons, operandReadings_cons, readings, ih, asOperand, operandReading_of_plain]

/-- So are the keys and values of a map. -/
theorem operandReadings_entries (entries : List (Expression × Expression)) :
    (operandReadings limit outer
        (entries.flatMap fun (key, value) => [key.asOperand, value.asOperand])).map Reading.entriesOf =
      entryReadings limit outer entries := by
  induction entries with
  | nil => rfl
  | cons entry rest ih =>
      obtain ⟨key, value⟩ := entry
      rw [List.flatMap_cons, List.cons_append, List.cons_append, List.nil_append, operandReadings_cons,
        operandReadings_cons, entryReadings, ← ih]
      simp only [asOperand, operandReading_of_plain]
      cases reading limit outer topRank key with
      | error e => rfl
      | ok k =>
          cases reading limit outer topRank value with
          | error e => rfl
          | ok v =>
              generalize operandReadings limit outer (rest.flatMap _) = others
              cases others <;> rfl

/-- **Reading an expression** is to check its depth, to read its parts in order, and to put them together. -/
theorem reading_eq (limit outer : Int) (start : Nat) (e : Expression) :
    reading limit outer start e = (do
      checkDepth limit outer (e.entered outer start)
      let rs ← operandReadings limit (depthAt outer start e) e.operands
      e.putTogether rs) := by
  cases e with
  | literal | ident | rootIdent | index | not | arithmetic | conditional => rfl
  | rootCall name arguments => cases arguments <;> rfl
  | call name arguments | list arguments =>
      rw [reading, operands, operandReadings_asOperand]
      rfl
  | map entries =>
      rw [reading, operands]
      simp only [← operandReadings_entries, map_then]
      rfl
  | method object name arguments =>
      rw [reading, operands]
      simp only [operandReadings_cons, operandReading_of_plain, operandReadings_asOperand, bind_assoc,
        pure_bind]
      rfl
  | group inner =>
      rw [reading, operands, asOperand, operandReadings_cons, operandReading_of_plain, operandReadings_nil]
      cases reading limit (depthAt outer start (.group inner)) topRank inner <;> rfl
  | message type fields =>
      cases fields with
      | nil =>
          rw [reading, operands, operandReadings_cons, operandReading_of_plain, operandReadings_nil]
          cases reading limit (depthAt outer start (.message type [])) memberRank type <;> rfl
      | cons => rfl
  | member object name =>
      rw [reading, operands, operandReadings_cons, operandReading_of_plain, operandReadings_nil]
      cases reading limit (depthAt outer start (.member object name)) memberRank object with
      | error e => rfl
      | ok r => cases r <;> rfl
  | neg operand =>
      rw [reading, operands, operandReadings_cons, operandReading_of_plain, operandReadings_nil]
      simp only [bind_assoc]
      rfl
  | relation sign left right =>
      rw [reading, operands]
      simp only [operandReadings_cons, operandReading_of_plain, bind_assoc]
      rfl
  | and left right | or left right =>
      rw [reading, operands]
      simp only [operandReadings_cons, operandReading, if_true, bind_assoc, map_then]
      rfl

end Expression

/-! ## What is put together -/

namespace Reading

variable {rs : List Reading} {path : String}

/-- A **test on readings**: one on a field among them, or something unknown. -/
inductive TestOn (rs : List Reading) : Reading → Prop where
  | field {path : String} {make : String → Predicate} (hpath : .field path ∈ rs)
      (hmake : ∀ field, (make field).isLeaf = true) : TestOn rs (.test path make)
  | unknown (description : String) : TestOn rs (.unknown description)

/-- The methods that test a text make leaves. -/
theorem isLeaf_patternMethods {name : String} {make : String → String → Predicate}
    (h : patternMethods.lookup name = some make) (field text : String) :
    (make field text).isLeaf = true := by
  obtain ⟨front, back, hsplit, -⟩ := List.lookup_eq_some_iff.1 h
  have hmem : (name, make) ∈ patternMethods := hsplit ▸ List.mem_append_right _ List.mem_cons_self
  simp only [patternMethods, List.mem_cons, Prod.mk.injEq, List.not_mem_nil, or_false] at hmem
  rcases hmem with ⟨-, rfl⟩ | ⟨-, rfl⟩ | ⟨-, rfl⟩ <;> rfl

/-- A comparison is a test on its field. -/
theorem testOn_comparison (op : CompareOp) (constant : Value) (hpath : .field path ∈ rs) :
    TestOn rs (comparison op path constant) := by
  unfold comparison
  split
  · exact .field hpath fun _ => rfl
  · exact .field hpath fun _ => rfl
  · exact .unknown _
  · exact .field hpath fun _ => rfl

/-- A relation is a test on one of its sides. -/
theorem testOn_relation (relation : Relation) (left right : Reading) :
    TestOn [left, right] (relation.reading left right) := by
  unfold Relation.reading
  split
  · split
    · exact .field List.mem_cons_self fun _ => rfl
    · exact .unknown _
  · split
    · exact testOn_comparison _ _ List.mem_cons_self
    · exact testOn_comparison _ _ (List.mem_cons_of_mem _ List.mem_cons_self)
    · exact .unknown _

/-- A method call is a test on its object. -/
theorem testOn_methodCall (object : Reading) (name : String) (arguments : List Reading) :
    TestOn (object :: arguments) (object.methodCall name arguments) := by
  unfold methodCall
  split
  · rename_i make path text hmake
    exact .field List.mem_cons_self fun field => isLeaf_patternMethods hmake field text
  · exact .unknown _

/-- A spatial call is a test on one of its operands. -/
theorem testOn_spatialCall (relation : SpatialRelation) (first second : Reading) (description : String) :
    TestOn [first, second] ((spatialCall relation first second).getD (unknown description)) := by
  unfold spatialCall
  split
  · exact .field List.mem_cons_self fun _ => rfl
  · exact .field (List.mem_cons_of_mem _ List.mem_cons_self) fun _ => rfl
  · exact .unknown _

/-- **A function call makes a timestamp or a test on one of its arguments.** -/
theorem functionCall_cases {name : String} {arguments : List Reading} {r : Reading}
    (h : functionCall name arguments = .ok r) :
    TestOn arguments r ∨ ∃ t, r = .constant (.timestamp t) := by
  unfold functionCall at h
  dsimp only at h
  split at h
  · -- one argument that is a field
    obtain rfl := Except.ok.inj h
    left
    split
    · exact .field List.mem_cons_self fun _ => rfl
    · exact .unknown _
  · -- one argument that is a text
    split at h
    · split at h
      · exact .inr ⟨_, (Except.ok.inj h).symm⟩
      · cases h
    · obtain rfl := Except.ok.inj h
      exact .inl (.unknown _)
  · -- two arguments
    left
    split at h
    · obtain rfl := Except.ok.inj h
      exact .field List.mem_cons_self fun _ => rfl
    · split at h
      · obtain rfl := Except.ok.inj h
        exact testOn_spatialCall _ _ _ _
      · obtain rfl := Except.ok.inj h
        exact .unknown _
  · obtain rfl := Except.ok.inj h
    exact .inl (.unknown _)

/-- Entries make a map that is a constant, or something unknown. -/
theorem ofEntries_cases {entries : List (Reading × Reading)} {r : Reading} (h : ofEntries entries = .ok r) :
    (∃ v, r = .constant v) ∨ r = .unknown "non-constant map" := by
  unfold ofEntries at h
  split at h
  · split at h
    · exact .inl ⟨_, (Except.ok.inj h).symm⟩
    · cases h
  · exact .inr (Except.ok.inj h).symm

/-- Readings that are all constants are those of their values. -/
theorem constants?_eq_some {rs : List Reading} {values : List Value} :
    constants? rs = some values ↔ rs = values.map .constant := by
  induction rs generalizing values with
  | nil => cases values <;> simp [constants?]
  | cons r rest ih =>
      cases r with
      | constant v =>
          rw [constants?, Option.map_eq_some_iff]
          cases values with
          | nil => simp
          | cons w others =>
              simp only [ih, List.map_cons, List.cons.injEq, constant.injEq]
              constructor
              · rintro ⟨_, hrest, rfl, rfl⟩
                exact ⟨rfl, hrest⟩
              · rintro ⟨rfl, hrest⟩
                exact ⟨others, hrest, rfl, rfl⟩
      | field | predicate => cases values <;> simp [constants?]

end Reading

namespace Expression

/-- A field that may be one is read as itself. -/
theorem eq_field_of_fieldReading {path : String} {r : Reading} (h : fieldReading path = .ok r) :
    r = .field path := by
  rw [fieldReading] at h
  split at h
  · cases h
  · exact (Except.ok.inj h).symm

/-- What an expression comes to when its parts are read so: one case for each way in which readings are put
together. -/
inductive Assembled : Expression → List Reading → Reading → Prop where
  /-- Parentheses pass on what stands in them. -/
  | group {inner : Expression} {r : Reading} : Assembled (.group inner) [r] r
  /-- Empty braces pass on what stands before them. -/
  | braces {type : Expression} {r : Reading} : Assembled (.message type []) [r] r
  | conjunction {left right : Expression} {l r : Reading} :
      Assembled (.and left right) [l, r] (.predicate (l.toPredicate.join .all r.toPredicate))
  | disjunction {left right : Expression} {l r : Reading} :
      Assembled (.or left right) [l, r] (.predicate (l.toPredicate.join .any r.toPredicate))
  | name {name : String} : Assembled (.ident name) [] (.field name)
  /-- A member of a field is a field with one more name on its path. -/
  | path {object : Expression} {name path : String} :
      Assembled (.member object name) [.field path] (.field (path ++ "." ++ name))
  | literal {value : Literal} {v : Value} (h : value.reading = .ok (.constant v)) :
      Assembled (.literal value) [] (.constant v)
  | negated {operand : Expression} {r : Reading} : Assembled (.neg operand) [r] r.negated
  | list {items : List Expression} {values : List Value} :
      Assembled (.list items) (values.map .constant) (.constant (.list values))
  | map {entries : List (Expression × Expression)} {rs : List Reading} {v : Value}
      (h : Reading.ofEntries (Reading.entriesOf rs) = .ok (.constant v)) :
      Assembled (.map entries) rs (.constant v)
  | timestamp {name : String} {arguments : List Expression} {rs : List Reading} {t : DateTime} :
      Assembled (.call name arguments) rs (.constant (.timestamp t))
  /-- Anything else tests one of its parts, or is unknown. -/
  | test {e : Expression} {rs : List Reading} {r : Reading} (h : Reading.TestOn rs r) : Assembled e rs r

/-- **Putting readings together comes to one of these**, when there is one for each part. -/
theorem assembled_of_putTogether {e : Expression} {rs : List Reading} {r : Reading}
    (hlength : rs.length = e.operands.length) (h : e.putTogether rs = .ok r) : e.Assembled rs r := by
  cases e with
  | literal value =>
      obtain rfl := List.length_eq_zero_iff.1 hlength
      cases value with
      | int | uint =>
          obtain ⟨n, -, rfl⟩ := map_eq_ok.1 h
          exact .literal h
      | bytes =>
          obtain rfl := Except.ok.inj h
          exact .test (.unknown _)
      | null | bool | double | text =>
          obtain rfl := Except.ok.inj h
          exact .literal h
  | ident name =>
      obtain rfl := List.length_eq_zero_iff.1 hlength
      obtain rfl := eq_field_of_fieldReading h
      exact .name
  | call name arguments =>
      rcases Reading.functionCall_cases h with h | ⟨t, rfl⟩
      · exact .test h
      · exact .timestamp
  | group inner =>
      obtain ⟨s, rfl⟩ := List.length_eq_one_iff.1 hlength
      obtain rfl := Except.ok.inj h
      exact .group
  | message type fields =>
      cases fields with
      | nil =>
          obtain ⟨s, rfl⟩ := List.length_eq_one_iff.1 hlength
          obtain rfl := Except.ok.inj h
          exact .braces
      | cons =>
          obtain rfl := Except.ok.inj h
          exact .test (.unknown _)
  | list items =>
      rw [putTogether] at h
      split at h
      · rename_i values hvalues
        obtain rfl := Reading.constants?_eq_some.1 hvalues
        obtain rfl := Except.ok.inj h
        exact .list
      · obtain rfl := Except.ok.inj h
        exact .test (.unknown _)
  | map entries =>
      rcases Reading.ofEntries_cases h with ⟨v, rfl⟩ | rfl
      · exact .map h
      · exact .test (.unknown _)
  | member object name =>
      obtain ⟨s, rfl⟩ := List.length_eq_one_iff.1 hlength
      cases s with
      | field path =>
          obtain rfl := eq_field_of_fieldReading h
          exact .path
      | constant | predicate =>
          obtain rfl := Except.ok.inj h
          exact .test (.unknown _)
  | method object name arguments =>
      cases rs with
      | nil => cases hlength
      | cons s rs =>
          obtain rfl := Except.ok.inj h
          exact .test (Reading.testOn_methodCall s name rs)
  | neg operand =>
      obtain ⟨s, rfl⟩ := List.length_eq_one_iff.1 hlength
      obtain rfl := Except.ok.inj h
      exact .negated
  | relation sign left right =>
      obtain ⟨l, r, rfl⟩ := List.length_eq_two.1 hlength
      obtain rfl := Except.ok.inj h
      exact .test (Reading.testOn_relation sign l r)
  | and left right =>
      obtain ⟨l, r, rfl⟩ := List.length_eq_two.1 hlength
      obtain rfl := Except.ok.inj h
      exact .conjunction
  | or left right =>
      obtain ⟨l, r, rfl⟩ := List.length_eq_two.1 hlength
      obtain rfl := Except.ok.inj h
      exact .disjunction
  | rootCall name arguments =>
      cases arguments with
      | nil | cons =>
          obtain rfl := Except.ok.inj h
          exact .test (.unknown _)
  | rootIdent | index | not | arithmetic | conditional =>
      obtain rfl := Except.ok.inj h
      exact .test (.unknown _)

/-! ## Places -/

/-- Nothing can be made of what the parts of an expression are read as, and the failure that this is. -/
inductive Slip : Expression → List Reading → Error → Prop where
  /-- A numeral that is not written as one. -/
  | numeral {value : Literal} {rs : List Reading} (h : value.IllFormed) :
      Slip (.literal value) rs .refusedValue
  /-- A name that is no field. -/
  | name {name : String} {rs : List Reading} {fault : Path.Fault} (h : Path.fault? name = some fault) :
      Slip (.ident name) rs (.badPath fault)
  /-- A path that is no field. -/
  | path {object : Expression} {name path : String} {rs : List Reading} {fault : Path.Fault}
      (hobject : rs.head? = some (.field path)) (h : Path.fault? (path ++ "." ++ name) = some fault) :
      Slip (.member object name) rs (.badPath fault)
  /-- A timestamp with a text that tells none. -/
  | timestamp {arguments : List Expression} {text : String} (h : Calendar.readDateTime? text = none) :
      Slip (.call "timestamp" arguments) [.constant (.str text)] .badTimestamp
  /-- A map with a collection as a key. -/
  | key {entries : List (Expression × Expression)} {rs : List Reading} {keys values : List Value}
      {m : Value × Value} (hkeys : Reading.constants? ((Reading.entriesOf rs).map (·.1)) = some keys)
      (hvalues : Reading.constants? ((Reading.entriesOf rs).map (·.2)) = some values)
      (hm : m ∈ keys.zip values) (hkey : m.1.isKey = false) : Slip (.map entries) rs .refusedType

/-- A part at a depth where the builder **fails**, and the failure that this is. -/
inductive Amiss (limit outer : Int) (o : Operand) : Error → Prop where
  /-- It is too deep. -/
  | deep (h : limit < o.expression.entered outer o.start) :
      Amiss limit outer o (.expressionTooDeep (max (outer + 1) (limit + 1)) limit)
  /-- Nothing can be made of what it is read as. -/
  | slip {rs : List Reading} {err : Error} (hwithin : o.expression.entered outer o.start ≤ limit)
      (hrs : operandReadings limit (depthAt outer o.start o.expression) o.expression.operands = .ok rs)
      (h : o.expression.Slip rs err) : Amiss limit outer o err
  /-- A constant that cannot be written out, where a condition is to be. -/
  | unwritable {v : Value} (hcondition : o.isCondition = true)
      (hread : reading limit outer o.start o.expression = .ok (.constant v)) (h : v.isWritable = false) :
      Amiss limit outer o .refusedValue

/-- A part is **misread** at a depth when the builder fails there, or at a part of it after those before it
have been read. -/
inductive Misread (limit : Int) : Int → Operand → Error → Prop where
  | here {outer : Int} {o : Operand} {err : Error} (h : Amiss limit outer o err) : Misread limit outer o err
  | part {outer : Int} {o part : Operand} {before after : List Operand} {rs : List Reading} {err : Error}
      (hwithin : o.expression.entered outer o.start ≤ limit)
      (hoperands : o.expression.operands = before ++ part :: after)
      (hbefore : operandReadings limit (depthAt outer o.start o.expression) before = .ok rs)
      (h : Misread limit (depthAt outer o.start o.expression) part err) : Misread limit outer o err

/-- A depth past the limit is refused. -/
theorem checkDepth_eq_error {depth : Int} :
    checkDepth limit outer depth = .error err ↔
      limit < depth ∧ err = .expressionTooDeep (max (outer + 1) (limit + 1)) limit := by
  rw [checkDepth]
  split_ifs with h
  · simp [h, eq_comm]
  · simp [h]

/-- A depth within the limit is not. -/
theorem checkDepth_eq_ok {depth : Int} {u : Unit} :
    checkDepth limit outer depth = .ok u ↔ depth ≤ limit := by
  rw [checkDepth]
  split_ifs with h
  · simp [h]
  · simpa using h

/-- A path is no field when it has a fault. -/
theorem fieldReading_eq_error {path : String} :
    fieldReading path = .error err ↔ ∃ fault, Path.fault? path = some fault ∧ err = .badPath fault := by
  rw [fieldReading]
  cases Path.fault? path with
  | none => simp
  | some fault => simp [eq_comm]

end Expression

namespace Reading

/-- A function call fails when it is a timestamp with a text that tells none. -/
theorem functionCall_eq_error {name : String} {arguments : List Reading} {err : Error} :
    functionCall name arguments = .error err ↔
      err = .badTimestamp ∧ name = "timestamp" ∧
        ∃ text, arguments = [.constant (.str text)] ∧ Calendar.readDateTime? text = none := by
  constructor
  · intro h
    unfold functionCall at h
    dsimp only at h
    split at h
    · cases h
    · rename_i text
      split at h
      · rename_i hname
        split at h
        · cases h
        · rename_i hnone
          exact ⟨(Except.error.inj h).symm, hname, text, rfl, hnone⟩
      · cases h
    · split at h
      · cases h
      · split at h <;> cases h
    · cases h
  · rintro ⟨rfl, rfl, text, rfl, hnone⟩
    simp only [functionCall, if_true, hnone]

/-- Constant entries make no map when one of their keys cannot be a key. -/
theorem ofEntries_eq_error {entries : List (Reading × Reading)} {err : Error} :
    ofEntries entries = .error err ↔
      err = .refusedType ∧ ∃ keys values m, constants? (entries.map (·.1)) = some keys ∧
        constants? (entries.map (·.2)) = some values ∧ m ∈ keys.zip values ∧ m.1.isKey = false := by
  constructor
  · intro h
    unfold ofEntries at h
    split at h
    · rename_i keys values hkeys hvalues
      split at h
      · cases h
      · rename_i hnone
        obtain ⟨m, hm, hkey⟩ := Value.ofEntries?_eq_none.1 hnone
        exact ⟨(Except.error.inj h).symm, keys, values, m, hkeys, hvalues, hm, hkey⟩
    · cases h
  · rintro ⟨rfl, keys, values, m, hkeys, hvalues, hm, hkey⟩
    have hnone : Value.ofEntries? (keys.zip values) = none := Value.ofEntries?_eq_none.2 ⟨m, hm, hkey⟩
    simp only [ofEntries, hkeys, hvalues, hnone]

/-- A reading is no condition when it is a constant that cannot be written out. -/
theorem condition_eq_error {r : Reading} {err : Error} :
    r.condition = .error err ↔ err = .refusedValue ∧ ∃ v, r = .constant v ∧ v.isWritable = false := by
  cases r with
  | constant v =>
      rw [condition]
      split_ifs with h
      · simp [h]
      · constructor
        · intro hfails
          exact ⟨(Except.error.inj hfails).symm, v, rfl, by simpa using h⟩
        · rintro ⟨rfl, -⟩
          rfl
  | field | predicate => simp [condition]

end Reading

namespace Expression

variable {limit outer : Int} {start : Nat} {err : Error}

/-- **Putting readings together fails exactly in these cases.** -/
theorem putTogether_eq_error {e : Expression} {rs : List Reading} :
    e.putTogether rs = .error err ↔ e.Slip rs err := by
  constructor
  · intro h
    cases e with
    | literal value =>
        obtain ⟨rfl, hill⟩ := Literal.reading_eq_error.1 h
        exact .numeral hill
    | ident name =>
        obtain ⟨fault, hfault, rfl⟩ := fieldReading_eq_error.1 h
        exact .name hfault
    | call name arguments =>
        obtain ⟨rfl, rfl, text, rfl, hnone⟩ := Reading.functionCall_eq_error.1 h
        exact .timestamp hnone
    | map entries =>
        obtain ⟨rfl, keys, values, m, hkeys, hvalues, hm, hkey⟩ := Reading.ofEntries_eq_error.1 h
        exact .key hkeys hvalues hm hkey
    | member object name =>
        rw [putTogether] at h
        split at h
        · rename_i path hobject
          obtain ⟨fault, hfault, rfl⟩ := fieldReading_eq_error.1 h
          exact .path hobject hfault
        · cases h
    | list =>
        rw [putTogether] at h
        split at h <;> cases h
    | rootCall name arguments => cases arguments <;> cases h
    | message type fields => cases fields <;> cases h
    | rootIdent | group | method | index | not | neg | arithmetic | relation | and | or | conditional =>
        cases h
  · intro h
    cases h with
    | numeral hill => exact Literal.reading_eq_error.2 ⟨rfl, hill⟩
    | name hfault => exact fieldReading_eq_error.2 ⟨_, hfault, rfl⟩
    | timestamp hnone => exact Reading.functionCall_eq_error.2 ⟨rfl, rfl, _, rfl, hnone⟩
    | key hkeys hvalues hm hkey =>
        exact Reading.ofEntries_eq_error.2 ⟨rfl, _, _, _, hkeys, hvalues, hm, hkey⟩
    | path hobject hfault =>
        rw [putTogether, hobject]
        exact fieldReading_eq_error.2 ⟨_, hfault, rfl⟩

/-- The parts that are read are inside an expression, where the grammar lets them stand at most one level below
it. -/
theorem child_of_operand {e : Expression} {o : Operand} (h : o ∈ e.operands) :
    o.expression ∈ e.children ∧ o.start ≤ e.rank + 1 := by
  cases e with
  | call _ items | list items =>
      obtain ⟨x, hx, rfl⟩ := List.mem_map.1 h
      exact ⟨hx, Nat.zero_le _⟩
  | map entries =>
      obtain ⟨⟨key, value⟩, hentry, ho⟩ := List.mem_flatMap.1 h
      simp only [List.mem_cons, List.not_mem_nil, or_false] at ho
      refine ⟨List.mem_flatMap.2 ⟨(key, value), hentry, ?_⟩, ?_⟩
      · rcases ho with rfl | rfl <;> simp [asOperand]
      · rcases ho with rfl | rfl <;> exact Nat.zero_le _
  | method object name arguments =>
      rcases List.mem_cons.1 h with rfl | h
      · exact ⟨List.mem_cons_self, by simp [rank, memberRank]⟩
      · obtain ⟨x, hx, rfl⟩ := List.mem_map.1 h
        exact ⟨List.mem_cons_of_mem _ hx, Nat.zero_le _⟩
  | message type fields =>
      cases fields with
      | nil =>
          obtain rfl := List.mem_singleton.1 h
          exact ⟨List.mem_cons_self, by simp [rank, memberRank]⟩
      | cons => cases h
  | group | member | neg =>
      obtain rfl := List.mem_singleton.1 h
      exact ⟨List.mem_cons_self, by simp [rank, memberRank, unaryRank, asOperand, topRank]⟩
  | relation | and | or =>
      simp only [operands, List.mem_cons, List.not_mem_nil, or_false] at h
      rcases h with rfl | rfl <;> simp [children, rank, orRank, andRank, relationRank, sumRank]
  | literal | ident | rootIdent | rootCall | index | not | arithmetic | conditional => cases h

/-- **The builder fails on a part exactly when that is misread.** The induction is on the size of the
expression, and on the way to the place. -/
theorem operandReading_fails_iff {o : Operand} :
    operandReading limit outer o = .error err ↔ Misread limit outer o err := by
  constructor
  · intro h
    induction hsize : sizeOf o.expression using Nat.strongRecOn generalizing o outer with
    | ind size ih =>
        subst hsize
        rw [operandReading, bind_eq_error] at h
        rcases h with h | ⟨r, hr, h⟩
        · rw [reading_eq, bind_eq_error] at h
          rcases h with h | ⟨u, hu, h⟩
          · obtain ⟨hdeep, rfl⟩ := checkDepth_eq_error.1 h
            exact .here (.deep hdeep)
          have hwithin := checkDepth_eq_ok.1 hu
          rcases bind_eq_error.1 h with h | ⟨rs, hrs, h⟩
          · -- the first part that fails is smaller, and those before it were read
            obtain ⟨before, part, after, rs, hoperands, hbefore, hpart⟩ := mapM_eq_error.1 h
            have hmem : part ∈ o.expression.operands := by simp [hoperands]
            have hsmaller := sizeOf_lt_of_mem_children (child_of_operand hmem).1
            exact .part hwithin hoperands hbefore (ih _ hsmaller hpart rfl)
          · exact .here (.slip hwithin hrs (putTogether_eq_error.1 h))
        · -- the expression was read, and what fails is to make it a condition
          split at h
          · rename_i hcondition
            obtain ⟨rfl, v, rfl, hv⟩ := Reading.condition_eq_error.1 (map_eq_error.1 h)
            exact .here (.unwritable hcondition hr hv)
          · cases h
  · intro h
    induction h with
    | @here outer o err h =>
        rw [operandReading, bind_eq_error]
        cases h with
        | deep hdeep =>
            rw [reading_eq, bind_eq_error]
            exact .inl (.inl (checkDepth_eq_error.2 ⟨hdeep, rfl⟩))
        | slip hwithin hrs hslip =>
            rw [reading_eq, bind_eq_error]
            refine .inl (.inr ⟨(), checkDepth_eq_ok.2 hwithin, ?_⟩)
            exact bind_eq_error.2 (.inr ⟨_, hrs, putTogether_eq_error.2 hslip⟩)
        | unwritable hcondition hread hv =>
            refine .inr ⟨_, hread, ?_⟩
            rw [if_pos hcondition, map_eq_error]
            exact Reading.condition_eq_error.2 ⟨rfl, _, rfl, hv⟩
    | part hwithin hoperands hbefore _ ih =>
        rw [operandReading, bind_eq_error, reading_eq, bind_eq_error]
        refine .inl (.inr ⟨(), checkDepth_eq_ok.2 hwithin, bind_eq_error.2 (.inl ?_)⟩)
        exact mapM_eq_error.2 ⟨_, _, _, _, hoperands, hbefore, ih⟩

end Expression

end SearchTables
