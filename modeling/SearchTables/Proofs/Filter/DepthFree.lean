import SearchTables.Proofs.Filter.Depth

/-! # Depth-free meaning — what expressions are read as within the limit

How deep an expression stands decides only whether it is read at all. Within the limit it is read as what its
parts are read as, put together, and so as the same thing at every depth and wherever the grammar lets it stand
(`Expression.reading_eq_meaning`). This is what the expression **means**. A text is parsed to the condition that
its expression means exactly when its visits are within the limit (`parseFilter_eq_ok_iff`). -/

namespace SearchTables

namespace Expression

variable {limit outer : Int} {start : Nat} {e : Expression}

/-! ## Visits of parts -/

/-- The parts of an expression are visited below it. -/
theorem visits_le_visitsBelow {o : Operand} (h : o ∈ e.operands) :
    o.expression.visits o.start ≤ e.visitsBelow :=
  ((visitsBelow_le_iff 0 topRank).1 le_rfl).2 o h

/-- An expression itself takes no deeper level than its visits. -/
theorem entered_le (outer : Int) (start : Nat) (e : Expression) :
    e.entered outer start ≤ outer + e.visits start := by
  have hown : e.entered outer start ≤ depthAt outer start e + e.visitsBelow :=
    ((visitsBelow_le_iff outer start).1 le_rfl).1
  rw [depthAt] at hown
  rw [visits, visitsTo]
  omega

/-- A part takes no more visits alone than the expression does. -/
theorem visits_le_of_mem_operands {o : Operand} (h : o ∈ e.operands) :
    o.expression.visits topRank ≤ e.visits topRank := by
  obtain ⟨-, hstart⟩ := child_of_operand h
  have hbelow := visits_le_visitsBelow h
  rw [visits, visitsTo] at hbelow ⊢
  rw [visits, visitsTo, topRank]
  omega

/-! ## Meaning -/

/-- What an expression **means**: what it is read as where the limit is no matter. -/
def meaning (e : Expression) : Except Error Reading := reading (e.visits topRank) 0 topRank e

/-- What an expression means as a condition. -/
def asCondition (e : Expression) : Except Error Predicate := do
  let r ← e.meaning
  r.condition

/-- What a part of an expression means. -/
def operandMeaning (o : Operand) : Except Error Reading := do
  let r ← o.expression.meaning
  if o.isCondition then r.condition.map .predicate else pure r

/-- Within the limit, reading an expression is to put together what its parts mean. The induction is on the
size of the expression. -/
theorem reading_eq_operands (h : outer + e.visits start ≤ limit) :
    reading limit outer start e = e.operands.mapM operandMeaning >>= e.putTogether := by
  induction hsize : sizeOf e using Nat.strongRecOn generalizing e limit outer start with
  | ind size ih =>
      subst hsize
      have hcheck : checkDepth limit outer (e.entered outer start) = .ok () :=
        checkDepth_eq_ok.2 (Int.le_trans (entered_le outer start e) h)
      have hdepth : depthAt outer start e + e.visitsBelow = outer + e.visits start := by
        rw [depthAt, visits, visitsTo]
        omega
      have hsame : ∀ o ∈ e.operands,
          operandReading limit (depthAt outer start e) o = operandMeaning o := by
        intro o ho
        have hsmaller := sizeOf_lt_of_mem_children (child_of_operand ho).1
        have hbelow := visits_le_visitsBelow ho
        -- a part is visited below the expression, so its visits are within the limit here as they are alone
        have hhere : reading limit (depthAt outer start e) o.start o.expression =
            o.expression.operands.mapM operandMeaning >>= o.expression.putTogether :=
          ih _ hsmaller (by omega) rfl
        have hfree : reading (o.expression.visits topRank) 0 topRank o.expression =
            o.expression.operands.mapM operandMeaning >>= o.expression.putTogether :=
          ih _ hsmaller (by omega) rfl
        rw [operandReading, operandMeaning, meaning, hhere, hfree]
      rw [reading_eq, hcheck, operandReadings, mapM_eq_of_map_eq (List.map_congr_left hsame)]
      rfl

/-- An expression means what its parts mean, put together. -/
theorem meaning_eq (e : Expression) : e.meaning = e.operands.mapM operandMeaning >>= e.putTogether :=
  reading_eq_operands (by omega)

/-- **Within the limit an expression is read as what it means**, at every depth and wherever it stands. -/
theorem reading_eq_meaning (h : outer + e.visits start ≤ limit) : reading limit outer start e = e.meaning := by
  rw [meaning_eq, reading_eq_operands h]

/-- So it is as a condition. -/
theorem toPredicate_eq_asCondition (h : e.visits topRank ≤ limit) : e.toPredicate limit = e.asCondition := by
  rw [toPredicate, reading_eq_meaning (by omega), asCondition]

/-- Parentheses mean what stands in them. -/
theorem meaning_group (inner : Expression) : (Expression.group inner).meaning = inner.meaning := by
  rw [meaning_eq, operands, List.mapM_cons, operandMeaning, asOperand]
  cases inner.meaning <;> rfl

/-- Empty braces mean what stands before them. -/
theorem meaning_message (type : Expression) : (Expression.message type []).meaning = type.meaning := by
  rw [meaning_eq, operands, List.mapM_cons, operandMeaning]
  cases type.meaning <;> rfl

/-- What an expression means is told by what its parts mean and by how they are put together. -/
theorem meaning_congr {e e' : Expression}
    (hoperands : e.operands.map operandMeaning = e'.operands.map operandMeaning)
    (hputTogether : ∀ rs, e.putTogether rs = e'.putTogether rs) : e.meaning = e'.meaning := by
  rw [meaning_eq, meaning_eq, mapM_eq_of_map_eq hoperands, funext hputTogether]

end Expression

/-- A text is parsed to what its expression means, when that is within the limit. -/
theorem parseFilter_eq_ok_iff {text : String} {e : Expression} {limit : Int} {p : Predicate}
    (hread : Expression.read? text = some e) :
    parseFilter text limit = .ok p ↔ e.visits Expression.topRank ≤ limit ∧ e.asCondition = .ok p := by
  have hparse : parseFilter text limit = e.toPredicate limit := by
    rw [parseFilter, hread]
  rw [hparse]
  constructor
  · intro h
    obtain ⟨r, hr, hp⟩ := bind_eq_ok.1 h
    obtain ⟨hwithin, -⟩ := Expression.madeWithin_of_reading (Expression.named_read? hread) hr
    rw [Int.zero_add] at hwithin
    rw [Expression.toPredicate_eq_asCondition hwithin] at h
    exact ⟨hwithin, h⟩
  · rintro ⟨hwithin, h⟩
    rwa [Expression.toPredicate_eq_asCondition hwithin]

end SearchTables
