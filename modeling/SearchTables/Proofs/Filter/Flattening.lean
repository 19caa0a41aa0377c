import SearchTables.Proofs.Expression.Grouping
import SearchTables.Proofs.Filter.DepthFree

/-! # Flattening — one junction for a chain, however it is grouped

The builder joins the two sides of each `&&` and `||` without compound predicates of the same kind inside. So
the predicate is flat, with the conditions of the expression for its leaves, in their order
(`Expression.flattenedTo_of_asCondition`); and since joining is associative and parentheses pass on what stands
in them, grouping changes nothing (`Expression.Regrouped.meaning_eq`). -/

namespace SearchTables

/-! ## Flat predicates -/

namespace Predicate

mutual

/-- The leaves of a predicate under its junctions, in order. -/
def leaves : Predicate → List Predicate
  | .joined _ parts => leavesOfParts parts
  | p => [p]

/-- The leaves of several predicates. -/
def leavesOfParts : List Predicate → List Predicate
  | [] => []
  | p :: rest => leaves p ++ leavesOfParts rest

end

/-- The leaves of several predicates are those of each. -/
theorem leavesOfParts_eq_flatMap (parts : List Predicate) : leavesOfParts parts = parts.flatMap leaves := by
  induction parts with
  | nil => rfl
  | cons p rest ih => rw [leavesOfParts, List.flatMap_cons, ih]

/-- A predicate is **flat** when each junction in it has at least two parts, and none that is the same
junction again. -/
def IsFlat (p : Predicate) : Prop :=
  ∀ context, ∀ node ∈ p.nodes context, ∀ junction parts, node.2 = .joined junction parts →
    2 ≤ parts.length ∧ ∀ inner, .joined junction inner ∉ parts

/-- Whether a predicate is a test: a leaf, beneath any number of members. -/
def IsTest (p : Predicate) : Prop :=
  ∃ (names : List String) (q : Predicate), q.isLeaf = true ∧ p = names.foldr .member q

variable {junction : Junction} {parts : List Predicate} {p q r : Predicate}

/-- A leaf has no junction. -/
theorem isFlat_of_isLeaf (h : p.isLeaf = true) : p.IsFlat := by
  intro context node hnode junction parts hjoined
  rw [nodes_of_isLeaf h] at hnode
  obtain rfl := List.mem_singleton.1 hnode
  obtain rfl : p = .joined junction parts := hjoined
  cases h

/-- A member has those of the condition on it. -/
theorem isFlat_member {field : String} (h : p.IsFlat) : (Predicate.member field p).IsFlat := by
  intro context node hnode junction parts hjoined
  rw [nodes] at hnode
  rcases List.mem_cons.1 hnode with rfl | hnode
  · cases hjoined
  · exact h _ node hnode junction parts hjoined

/-- A junction is flat when its parts are and are not that junction again. -/
theorem isFlat_joined_iff :
    (Predicate.joined junction parts).IsFlat ↔
      2 ≤ parts.length ∧ (∀ inner, .joined junction inner ∉ parts) ∧ ∀ q ∈ parts, q.IsFlat := by
  constructor
  · intro h
    have hself : ("", Predicate.joined junction parts) ∈ (Predicate.joined junction parts).nodes "" := by
      rw [nodes]
      exact List.mem_cons_self
    obtain ⟨htwo, hother⟩ := h "" _ hself junction parts rfl
    refine ⟨htwo, hother, fun q hq context node hnode => h context node ?_⟩
    rw [nodes, nodesOfParts_eq_flatMap]
    exact List.mem_cons_of_mem _ (List.mem_flatMap.2 ⟨q, hq, hnode⟩)
  · rintro ⟨htwo, hother, hparts⟩ context node hnode j inner hjoined
    rw [nodes, nodesOfParts_eq_flatMap] at hnode
    rcases List.mem_cons.1 hnode with rfl | hnode
    · obtain ⟨rfl, rfl⟩ := Predicate.joined.inj hjoined
      exact ⟨htwo, hother⟩
    · obtain ⟨q, hq, hnode⟩ := List.mem_flatMap.1 hnode
      exact hparts q hq context node hnode j inner hjoined

/-- A test is flat. -/
theorem IsTest.isFlat (h : p.IsTest) : p.IsFlat := by
  obtain ⟨names, q, hq, rfl⟩ := h
  induction names with
  | nil => exact isFlat_of_isLeaf hq
  | cons name names ih => exact isFlat_member ih

/-- A test is one leaf. -/
theorem IsTest.leaves (h : p.IsTest) : p.leaves = [p] := by
  obtain ⟨names, q, hq, rfl⟩ := h
  cases names with
  | nil => cases q <;> first | rfl | cases hq
  | cons => rfl

/-! ## Joined predicates -/

/-- The parts under a junction that has just been made are those of both sides. -/
theorem partsUnder_join (junction : Junction) (p q : Predicate) :
    (p.join junction q).partsUnder junction = p.partsUnder junction ++ q.partsUnder junction := by
  rw [join, partsUnder, if_pos rfl]

/-- **Joining is associative.** -/
theorem join_assoc (junction : Junction) (p q r : Predicate) :
    (p.join junction q).join junction r = p.join junction (q.join junction r) := by
  rw [join, partsUnder_join, List.append_assoc, ← partsUnder_join, ← join]

/-- The parts under a junction have the leaves of the predicate. -/
theorem leavesOfParts_partsUnder (junction : Junction) (p : Predicate) :
    leavesOfParts (p.partsUnder junction) = p.leaves := by
  have hself : leavesOfParts [p] = p.leaves := by
    rw [leavesOfParts, leavesOfParts, List.append_nil]
  cases p with
  | joined j parts =>
      rw [partsUnder]
      split
      · rfl
      · exact hself
  | _ => exact hself

/-- Joined predicates have the leaves of both, in order. -/
theorem leaves_join (junction : Junction) (p q : Predicate) :
    (p.join junction q).leaves = p.leaves ++ q.leaves := by
  rw [join, leaves, leavesOfParts_eq_flatMap, List.flatMap_append, ← leavesOfParts_eq_flatMap,
    ← leavesOfParts_eq_flatMap, leavesOfParts_partsUnder, leavesOfParts_partsUnder]

/-- The parts of a flat predicate under a junction: there is one, none is the same junction, and each is
flat. -/
theorem IsFlat.partsUnder (h : p.IsFlat) (junction : Junction) :
    1 ≤ (p.partsUnder junction).length ∧ (∀ inner, .joined junction inner ∉ p.partsUnder junction) ∧
      ∀ q ∈ p.partsUnder junction, q.IsFlat := by
  have hself : (∀ inner, p ≠ .joined junction inner) → 1 ≤ [p].length ∧
      (∀ inner, .joined junction inner ∉ [p]) ∧ ∀ q ∈ [p], q.IsFlat := by
    intro hother
    refine ⟨Nat.le_refl 1, fun inner hinner => ?_, fun q hq => ?_⟩
    · exact hother inner (List.mem_singleton.1 hinner).symm
    · obtain rfl := List.mem_singleton.1 hq
      exact h
  cases p with
  | joined j parts =>
      rw [Predicate.partsUnder]
      by_cases hj : j = junction
      · obtain rfl := hj
        obtain ⟨htwo, hother, hparts⟩ := isFlat_joined_iff.1 h
        rw [if_pos rfl]
        exact ⟨by omega, hother, hparts⟩
      · rw [if_neg hj]
        exact hself fun inner heq => hj (Predicate.joined.inj heq).1
  | _ => exact hself fun inner heq => by cases heq

/-- **Joining keeps predicates flat.** -/
theorem IsFlat.join (hp : p.IsFlat) (hq : q.IsFlat) (junction : Junction) : (p.join junction q).IsFlat := by
  obtain ⟨hpone, hpother, hpparts⟩ := hp.partsUnder junction
  obtain ⟨hqone, hqother, hqparts⟩ := hq.partsUnder junction
  refine isFlat_joined_iff.2 ⟨?_, fun inner hinner => ?_, fun r hr => ?_⟩
  · rw [List.length_append]
    omega
  · rcases List.mem_append.1 hinner with hinner | hinner
    · exact hpother inner hinner
    · exact hqother inner hinner
  · rcases List.mem_append.1 hr with hr | hr
    · exact hpparts r hr
    · exact hqparts r hr

end Predicate

/-! ## Tests -/

namespace Reading

variable {path : String} {make : String → Predicate}

/-- Whether a reading is a test as a predicate, and not a junction. -/
def IsTest (r : Reading) : Prop := r.toPredicate.IsTest

/-- Something unknown is a test. -/
theorem isTest_unknown (description : String) : (unknown description).IsTest :=
  ⟨[], .unknown description, rfl, rfl⟩

/-- So is a constant. -/
theorem isTest_constant (value : Value) : (constant value).IsTest :=
  ⟨[], .unknown "non-boolean expression", rfl, rfl⟩

/-- So is a test on the field at the end of a path. -/
theorem isTest_test (hmake : ∀ field, (make field).isLeaf = true) : (test path make).IsTest := by
  obtain ⟨parents, last, hpath⟩ :=
    List.eq_nil_or_concat (Path.segments path) |>.resolve_left (Path.segments_ne_nil path)
  rw [List.concat_eq_append] at hpath
  exact ⟨parents, make last, hmake last, leaf_eq hpath make⟩

/-- So is a field, which must be true. -/
theorem isTest_field (path : String) : (field path).IsTest :=
  isTest_test fun _ => rfl

/-- So is what a changed sign makes. -/
theorem isTest_negated (r : Reading) : r.negated.IsTest := by
  unfold negated
  split
  · exact isTest_constant _
  · exact isTest_constant _
  · exact isTest_constant _
  · exact isTest_unknown _

/-- So is a test on readings. -/
theorem TestOn.isTest {rs : List Reading} {r : Reading} (h : TestOn rs r) : r.IsTest := by
  cases h with
  | field hpath hmake => exact isTest_test hmake
  | unknown description => exact isTest_unknown description

end Reading

/-! ## Meaning and grouping -/

namespace Expression

variable {e : Expression}

/-- A junction joins what its sides mean as conditions. -/
theorem meaning_joined (junction : Junction) (left right : Expression) :
    (joined junction left right).meaning = (do
      let p ← left.asCondition
      let q ← right.asCondition
      pure (.predicate (p.join junction q))) := by
  have hside : ∀ (start : Nat) (side : Expression),
      operandMeaning ⟨start, side, true⟩ = side.asCondition.map .predicate := by
    intro start side
    rw [operandMeaning, asCondition]
    cases side.meaning <;> rfl
  cases junction with
  | all | any =>
      rw [joined, meaning_eq, operands, List.mapM_cons, List.mapM_cons, hside, hside]
      cases left.asCondition with
      | error => rfl
      | ok => cases right.asCondition <;> rfl

/-- A junction as a condition. -/
theorem asCondition_joined (junction : Junction) (left right : Expression) :
    (joined junction left right).asCondition = (do
      let p ← left.asCondition
      let q ← right.asCondition
      pure (p.join junction q)) := by
  rw [asCondition, meaning_joined]
  cases left.asCondition with
  | error => rfl
  | ok => cases right.asCondition <;> rfl

/-- Both sides of a junction that is a condition are conditions. -/
theorem exists_of_asCondition_joined (junction : Junction) {left right : Expression} {p : Predicate}
    (h : (joined junction left right).asCondition = .ok p) :
    ∃ p₁ p₂, left.asCondition = .ok p₁ ∧ right.asCondition = .ok p₂ ∧ p = p₁.join junction p₂ := by
  rw [asCondition_joined] at h
  obtain ⟨p₁, hp₁, h⟩ := bind_eq_ok.1 h
  obtain ⟨p₂, hp₂, h⟩ := bind_eq_ok.1 h
  exact ⟨p₁, p₂, hp₁, hp₂, (pure_eq_ok.1 h).symm⟩

/-- Chains that are associated differently mean the same. -/
theorem meaning_chain (junction : Junction) (a b c : Expression) :
    (joined junction (joined junction a b) c).meaning =
      (joined junction a (joined junction b c)).meaning := by
  rw [meaning_joined, meaning_joined, asCondition_joined, asCondition_joined]
  simp only [bind_assoc, pure_bind, Predicate.join_assoc]

/-- **A place keeps the meaning**: what means the same may stand in it. -/
theorem Place.meaning_eq {f : Expression → Expression} (hplace : Place f) {a b : Expression}
    (h : a.meaning = b.meaning) : (f a).meaning = (f b).meaning := by
  have hoperand : ∀ start isCondition,
      operandMeaning ⟨start, a, isCondition⟩ = operandMeaning ⟨start, b, isCondition⟩ := by
    intro start isCondition
    rw [operandMeaning, operandMeaning, h]
  cases hplace with
  | rootArgument name before after =>
      refine meaning_congr rfl fun rs => ?_
      cases before <;> rfl
  | type fields =>
      cases fields with
      | nil => rw [meaning_message, meaning_message, h]
      | cons => exact meaning_congr rfl fun rs => rfl
  | field type before name after =>
      cases before <;> exact meaning_congr rfl fun rs => rfl
  | link junction right | lastLink junction left =>
      cases junction <;> exact meaning_congr (by simp [joined, operands, hoperand]) fun rs => rfl
  | _ => exact meaning_congr (by simp [operands, asOperand, hoperand]) fun rs => rfl

/-- **Grouping does not change what an expression means**, nor how it fails. -/
theorem Regrouped.meaning_eq {e e' : Expression} (h : Regrouped e e') : e.meaning = e'.meaning := by
  induction h with
  | refl => rfl
  | symm _ ih => exact ih.symm
  | trans _ _ ihab ihbc => exact ihab.trans ihbc
  | group e => exact meaning_group e
  | chain junction a b c => exact meaning_chain junction a b c
  | inside hplace _ ih => exact hplace.meaning_eq ih

/-! ## Conditions and leaves -/

/-- What the parts of an expression make is a test, if it is no junction and passes nothing on. -/
theorem Assembled.isTest {rs : List Reading} {r : Reading} (h : e.Assembled rs r)
    (hsplit : e.isSplit = false) (hbraces : ∀ type, e ≠ .message type []) : r.IsTest := by
  cases h with
  | group | conjunction | disjunction => cases hsplit
  | braces => exact absurd rfl (hbraces _)
  | name | path => exact Reading.isTest_field _
  | negated => exact Reading.isTest_negated _
  | literal | list | map | timestamp => exact Reading.isTest_constant _
  | test h => exact h.isTest

/-- What is no chain and stands in no parentheses means a test. -/
theorem isTest_meaning {r : Reading} (hsplit : e.isSplit = false) (h : e.meaning = .ok r) : r.IsTest := by
  induction e using isSplit.induct with
  | case1 | case2 | case3 => cases hsplit
  | case4 type ih =>
      rw [meaning_message] at h
      exact ih hsplit h
  | case5 e _ _ _ hbraces =>
      rw [Expression.meaning_eq] at h
      obtain ⟨rs, hrs, h⟩ := bind_eq_ok.1 h
      exact (assembled_of_putTogether (length_of_mapM hrs) h).isTest hsplit hbraces

/-- An expression is **flattened to** a predicate that is flat and whose leaves are what its conditions mean,
in their order. -/
structure FlattenedTo (e : Expression) (p : Predicate) : Prop where
  flat : p.IsFlat
  leaves : List.Forall₂ (fun c q => c.asCondition = .ok q) e.conditions p.leaves

/-- What is no chain and stands in no parentheses is its only condition. -/
theorem FlattenedTo.of_not_split {p : Predicate} (hsplit : e.isSplit = false) (h : e.asCondition = .ok p) :
    FlattenedTo e p := by
  obtain ⟨r, hr, hcondition⟩ := bind_eq_ok.1 h
  have htest : r.IsTest := isTest_meaning hsplit hr
  rw [Reading.IsTest, ← Reading.eq_toPredicate_of_condition hcondition] at htest
  refine ⟨htest.isFlat, ?_⟩
  rw [conditions_of_not_split hsplit, htest.leaves]
  exact .cons h .nil

/-- A junction has the conditions of both sides. -/
theorem FlattenedTo.joined {left right : Expression} {p q : Predicate} (hleft : FlattenedTo left p)
    (hright : FlattenedTo right q) (junction : Junction) :
    FlattenedTo (Expression.joined junction left right) (p.join junction q) where
  flat := hleft.flat.join hright.flat junction
  leaves := by
    rw [conditions_joined, Predicate.leaves_join]
    exact List.rel_append hleft.leaves hright.leaves

/-- **An expression is flattened to what it means as a condition.** The induction goes through the chains and
the parentheses. -/
theorem flattenedTo_of_asCondition {p : Predicate} (h : e.asCondition = .ok p) : FlattenedTo e p := by
  induction e using conditions.induct generalizing p with
  | case1 inner ih =>
      rw [asCondition, meaning_group] at h
      obtain ⟨hflat, hleaves⟩ := ih h
      exact ⟨hflat, hleaves⟩
  | case2 type hsplit ih =>
      rw [asCondition, meaning_message] at h
      obtain ⟨hflat, hleaves⟩ := ih h
      refine ⟨hflat, ?_⟩
      rwa [conditions_message hsplit]
  | case3 type hsplit => exact .of_not_split (Bool.not_eq_true _ ▸ hsplit) h
  | case4 left right ihleft ihright =>
      obtain ⟨p, q, hp, hq, rfl⟩ := exists_of_asCondition_joined .all h
      exact (ihleft hp).joined (ihright hq) .all
  | case5 left right ihleft ihright =>
      obtain ⟨p, q, hp, hq, rfl⟩ := exists_of_asCondition_joined .any h
      exact (ihleft hp).joined (ihright hq) .any
  | case6 e hgroup hbraces hand hor =>
      have hsplit : e.isSplit = false := by
        unfold isSplit
        split <;> simp_all
      exact .of_not_split hsplit h

/-- Neither side of a junction takes more visits alone than the junction does. -/
theorem visits_sides_le (junction : Junction) (left right : Expression) :
    left.visits topRank ≤ (joined junction left right).visits topRank ∧
      right.visits topRank ≤ (joined junction left right).visits topRank := by
  have hsides : ∃ start start', (joined junction left right).operands =
      [⟨start, left, true⟩, ⟨start', right, true⟩] := by
    cases junction <;> exact ⟨_, _, rfl⟩
  obtain ⟨start, start', hoperands⟩ := hsides
  have hleft : ⟨start, left, true⟩ ∈ (joined junction left right).operands := by simp [hoperands]
  have hright : ⟨start', right, true⟩ ∈ (joined junction left right).operands := by simp [hoperands]
  exact ⟨visits_le_of_mem_operands hleft, visits_le_of_mem_operands hright⟩

/-- Nor does any condition of an expression. -/
theorem visits_le_of_mem_conditions {c : Expression} (h : c ∈ e.conditions) :
    c.visits topRank ≤ e.visits topRank := by
  fun_induction conditions e with
  | case1 inner ih =>
      have hinner : inner.asOperand ∈ (Expression.group inner).operands := List.mem_cons_self
      exact Nat.le_trans (ih h) (visits_le_of_mem_operands hinner)
  | case2 type hsplit ih =>
      have htype : ⟨memberRank, type, false⟩ ∈ (Expression.message type []).operands := List.mem_cons_self
      exact Nat.le_trans (ih h) (visits_le_of_mem_operands htype)
  | case4 left right ihleft ihright =>
      obtain ⟨hleft, hright⟩ := visits_sides_le .all left right
      rcases List.mem_append.1 h with h | h
      · exact Nat.le_trans (ihleft h) hleft
      · exact Nat.le_trans (ihright h) hright
  | case5 left right ihleft ihright =>
      obtain ⟨hleft, hright⟩ := visits_sides_le .any left right
      rcases List.mem_append.1 h with h | h
      · exact Nat.le_trans (ihleft h) hleft
      · exact Nat.le_trans (ihright h) hright
  | case3 | case6 =>
      obtain rfl := List.mem_singleton.1 h
      exact Nat.le_refl _

end Expression

/-! ## Texts -/

/-- **A filter is parsed to a flat predicate, however its chains are grouped.** Each junction in the predicate
has at least two parts, and none that is the same junction again. A text that differs in its grouping only is
parsed to the same predicate whenever it is within its limit. And the leaves are the conditions, each parsed as
it would be alone, in the order in which they are read from the text. -/
theorem parsed_chains_flattened {text : String} {limit : Int} {p : Predicate}
    (h : parseFilter text limit = .ok p) :
    p.IsFlat ∧ ∃ e, Expression.read? text = some e ∧
      (∀ {text' : String} {e' : Expression} {limit' : Int}, Expression.read? text' = some e' →
        Expression.Regrouped e e' →
          (parseFilter text' limit' = .ok p ↔ e'.visits Expression.topRank ≤ limit')) ∧
      Expression.InTurn text.toList e.conditions [] ∧
      List.Forall₂ (fun c q => c.toPredicate limit = .ok q) e.conditions p.leaves := by
  obtain ⟨e, hread⟩ : ∃ e, Expression.read? text = some e := by
    rw [parseFilter] at h
    split at h
    · cases h
    · rename_i e hread
      exact ⟨e, hread⟩
  obtain ⟨hwithin, hcondition⟩ := (parseFilter_eq_ok_iff hread).1 h
  obtain ⟨hflat, hleaves⟩ := Expression.flattenedTo_of_asCondition hcondition
  refine ⟨hflat, e, hread, ?_, Expression.inTurn_read? hread, ?_⟩
  · intro text' e' limit' hread' hregrouped
    have hsame : e'.asCondition = .ok p := by
      rw [Expression.asCondition, ← hregrouped.meaning_eq]
      exact hcondition
    rw [parseFilter_eq_ok_iff hread', and_iff_left hsame]
  · -- each condition takes no more visits than the filter, so alone it is within the same limit
    have hvisits : ∀ c ∈ e.conditions, (c.visits Expression.topRank : Int) ≤ limit := by
      intro c hc
      have hless := Expression.visits_le_of_mem_conditions hc
      omega
    refine List.Forall₂.imp ?_ ((List.forall₂_and_left ..).2 ⟨hvisits, hleaves⟩)
    rintro c q ⟨hc, hq⟩
    rwa [Expression.toPredicate_eq_asCondition hc]

/-- A chain of three conditions, one of them a chain of the other kind, and the same with parentheses around
the last two. -/
theorem parsed_chains_flattened_conjunction :
    let p : Predicate := .joined .all [.compare .eq "a" (.int 1),
      .joined .any [.compare .eq "b" (.bool true), .compare .eq "c" (.bool true)],
      .compare .eq "d" (.bool true)]
    parseFilter "a == 1 && (b || c) && d" 100 = .ok p ∧ p.IsFlat ∧
      parseFilter "a == 1 && ((b || c) && d)" 100 = .ok p := by
  intro p
  let first : Expression := .relation .eq (.ident "a") (.literal (.int false false [1]))
  let second : Expression := .group (.or (.ident "b") (.ident "c"))
  have hread : Expression.read? "a == 1 && (b || c) && d" =
      some (.and (.and first second) (.ident "d")) := by cbv
  have hread' : Expression.read? "a == 1 && ((b || c) && d)" =
      some (.and first (.group (.and second (.ident "d")))) := by cbv
  have hparse : parseFilter "a == 1 && (b || c) && d" 100 = .ok p := by
    rw [parseFilter, hread]
    rfl
  obtain ⟨hflat, e, he, hregrouped, -⟩ := parsed_chains_flattened hparse
  obtain rfl := Option.some.inj (hread.symm.trans he)
  -- the chain is associated to the right, and then put in parentheses
  have hchain := Expression.Regrouped.chain .all first second (.ident "d")
  have hgroup : Expression.Regrouped (.and first (.and second (.ident "d")))
      (.and first (.group (.and second (.ident "d")))) :=
    .inside (.lastLink .all first) (.symm (.group _))
  exact ⟨hparse, hflat, (hregrouped hread' (hchain.trans hgroup)).2 (by decide)⟩

end SearchTables
