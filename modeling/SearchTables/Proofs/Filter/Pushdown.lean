import SearchTables.Scan.Request
import SearchTables.Proofs.Filter.Translation
import SearchTables.Proofs.Scan.Selection

/-! # Pushdown — what a filter loses when it becomes a query

A **valuation** fixes what is true of one document: every query clause other than `bool` and
`match_all`, in the form in which it is sent, and every leaf of a filter that has no clause. A query
is then true by what `bool` means, and a predicate by what its junctions mean, a leaf with a clause
having the truth of that clause.

The query of a scan is never stronger than its base query and its filter together, and never weaker
than the base query; it is their conjunction unless something had to be left behind. The **nodes**
of a predicate are listed with their contexts, and `Schema.LeavesBehind` tells which of them get
lost: leaves that have no clause, and junctions without parts. -/

namespace SearchTables

/-! ## Valuations -/

/-- What is true of one document. -/
structure Valuation where
  /-- The truth of a clause other than `bool` and `match_all`. -/
  clause : Value → Bool
  /-- The truth of a leaf without a clause, in a context. -/
  other : String → Predicate → Bool

namespace Valuation

/-! ## Queries -/

mutual

/-- The truth of a query: `must` means all, `should` with a minimum of one at least one, and
`must_not` none. A `bool` that mixes these is a clause like any other. -/
def query (v : Valuation) : Value → Bool
  | .object [("match_all", .object [])] => true
  | .object [("bool", .object [("must", .list clauses)])] => everyQuery v clauses
  | .object [("bool", .object [("should", .list clauses), ("minimum_should_match", .int 1)])] =>
      someQuery v clauses
  | .object [("bool", .object [("must_not", .list clauses)])] => !someQuery v clauses
  | clause => v.clause clause

/-- Whether all of several queries are true. -/
def everyQuery (v : Valuation) : List Value → Bool
  | [] => true
  | q :: rest => query v q && everyQuery v rest

/-- Whether one of several queries is true. -/
def someQuery (v : Valuation) : List Value → Bool
  | [] => false
  | q :: rest => query v q || someQuery v rest

end

/-- `everyQuery` is conjunction. -/
theorem everyQuery_eq_all (v : Valuation) (queries : List Value) :
    v.everyQuery queries = queries.all v.query := by
  induction queries with
  | nil => rfl
  | cons q rest ih => rw [everyQuery, ih, List.all_cons]

/-- `someQuery` is disjunction. -/
theorem someQuery_eq_any (v : Valuation) (queries : List Value) :
    v.someQuery queries = queries.any v.query := by
  induction queries with
  | nil => rfl
  | cons q rest ih => rw [someQuery, ih, List.any_cons]

/-- The truth of a clause: that of the form in which it is sent. -/
def sent (v : Valuation) (c : Clause) : Bool := v.query c.toValue

/-- `match_all` is true of every document. -/
@[simp] theorem sent_matchAll (v : Valuation) : v.sent .matchAll = true := by
  rfl

/-- A clause in the words of the index has the truth of those words. -/
@[simp] theorem sent_native (v : Valuation) (q : Json) :
    v.sent (.native q) = v.query (.ofJson q) := by
  rfl

/-- `must` is conjunction. -/
@[simp] theorem sent_must (v : Valuation) (clauses : List Clause) :
    v.sent (.must clauses) = clauses.all v.sent := by
  have hquery : v.sent (.must clauses) = v.everyQuery (Clause.toValues clauses) := by rfl
  rw [hquery, everyQuery_eq_all, Clause.toValues_eq_map, List.all_map]
  rfl

/-- `should` is disjunction. -/
@[simp] theorem sent_should (v : Valuation) (clauses : List Clause) :
    v.sent (.should clauses) = clauses.any v.sent := by
  have hquery : v.sent (.should clauses) = v.someQuery (Clause.toValues clauses) := by rfl
  rw [hquery, someQuery_eq_any, Clause.toValues_eq_map, List.any_map]
  rfl

/-- `must_not` is negation. -/
@[simp] theorem sent_mustNot (v : Valuation) (c : Clause) : v.sent (.mustNot c) = !v.sent c := by
  have hquery : v.sent (.mustNot c) = !(v.sent c || false) := by rfl
  rw [hquery, Bool.or_false]

/-! ## Predicates and filters -/

section Filters

variable (v : Valuation) (schema : Schema)

/-- The truth of a leaf: that of its clause, if it has one. -/
def leaf (context : String) (p : Predicate) : Bool :=
  match schema.translateLeaf context p with
  | .ok (some c) => v.sent c
  | _ => v.other context p

mutual

/-- The truth of a predicate in a context. -/
def predicate (context : String) : Predicate → Bool
  | .joined .all parts => everyPart context parts
  | .joined .any parts => somePart context parts
  | .member field inner => predicate (Path.under context field) inner
  | p => v.leaf schema context p

/-- Whether all of several predicates are true. -/
def everyPart (context : String) : List Predicate → Bool
  | [] => true
  | p :: rest => predicate context p && everyPart context rest

/-- Whether one of several predicates is true. -/
def somePart (context : String) : List Predicate → Bool
  | [] => false
  | p :: rest => predicate context p || somePart context rest

end

/-- The truth of a filter: every condition is true in the context of its column. -/
def filters (f : Filters) : Bool :=
  f.items.all fun (name, p) => v.predicate schema (schema.pathOf name) p

end Filters

end Valuation

/-! ## Nodes -/

namespace Predicate

mutual

/-- A predicate and everything inside it, each with its context. -/
def nodes (context : String) : Predicate → List (String × Predicate)
  | .joined junction parts => (context, .joined junction parts) :: nodesOfParts context parts
  | .member field inner => (context, .member field inner) :: nodes (Path.under context field) inner
  | p => [(context, p)]

/-- `nodes` on several predicates. -/
def nodesOfParts (context : String) : List Predicate → List (String × Predicate)
  | [] => []
  | p :: rest => nodes context p ++ nodesOfParts context rest

end

/-- `nodesOfParts` collects the nodes of each part. -/
theorem nodesOfParts_eq_flatMap (context : String) (parts : List Predicate) :
    nodesOfParts context parts = parts.flatMap (nodes context) := by
  induction parts with
  | nil => rfl
  | cons p rest ih => rw [nodesOfParts, ih, List.flatMap_cons]

/-- A leaf is its only node. -/
theorem nodes_of_isLeaf {p : Predicate} (h : p.isLeaf = true) (context : String) :
    p.nodes context = [(context, p)] := by
  cases p <;> simp_all [isLeaf, nodes]

end Predicate

/-- The nodes of a filter, each in the context of its column. -/
def Filters.nodes (f : Filters) (schema : Schema) : List (String × Predicate) :=
  f.items.flatMap fun (name, p) => p.nodes (schema.pathOf name)

namespace Schema

/-- Whether a node gets lost on the way to a query: a leaf that has no clause, or a junction without
parts. -/
def LeavesBehind (schema : Schema) (node : String × Predicate) : Prop :=
  (node.2.isLeaf = true ∧ schema.translateLeaf node.1 node.2 = .ok none) ∨
    ∃ junction, node.2 = .joined junction []

/-- Whether no node of a predicate gets lost. -/
def Pushes (schema : Schema) (context : String) (p : Predicate) : Prop :=
  ∀ node ∈ p.nodes context, ¬ schema.LeavesBehind node

variable {schema : Schema} {context : String}

/-- A leaf gets lost unless it has a clause. -/
theorem pushes_leaf {p : Predicate} (h : p.isLeaf = true) :
    schema.Pushes context p ↔ schema.translateLeaf context p ≠ .ok none := by
  have hj : ∀ junction, p ≠ .joined junction [] := by
    rintro junction rfl
    simp [Predicate.isLeaf] at h
  simp [Pushes, LeavesBehind, Predicate.nodes_of_isLeaf h, h, hj]

/-- Nothing of a member condition gets lost unless something of what it asks of the member does. -/
theorem pushes_member {field : String} {inner : Predicate} :
    schema.Pushes context (.member field inner) ↔
      schema.Pushes (Path.under context field) inner := by
  simp [Pushes, LeavesBehind, Predicate.nodes, Predicate.isLeaf]

/-- Nothing of a junction gets lost when it has parts and nothing of any of them does. -/
theorem pushes_joined {junction : Junction} {parts : List Predicate} :
    schema.Pushes context (.joined junction parts) ↔
      parts ≠ [] ∧ ∀ p ∈ parts, schema.Pushes context p := by
  have hroot : schema.LeavesBehind (context, .joined junction parts) ↔ parts = [] := by
    simp [LeavesBehind, Predicate.isLeaf]
  simp only [Pushes, Predicate.nodes, Predicate.nodesOfParts_eq_flatMap, List.forall_mem_cons,
    List.mem_flatMap, hroot]
  constructor
  · rintro ⟨hne, h⟩
    exact ⟨hne, fun p hp node hn => h node ⟨p, hp, hn⟩⟩
  · rintro ⟨hne, h⟩
    refine ⟨hne, ?_⟩
    rintro node ⟨p, hp, hn⟩
    exact h p hp node hn

end Schema

/-! ## Truth of junctions -/

/-- What a junction makes of the truths of its parts. -/
def Junction.truth : Junction → List Bool → Bool
  | .all, truths => truths.all id
  | .any, truths => truths.any id

namespace Valuation

variable (v : Valuation) (schema : Schema) (context : String)

/-- `everyPart` is conjunction. -/
theorem everyPart_eq_all (parts : List Predicate) :
    v.everyPart schema context parts = parts.all (v.predicate schema context) := by
  induction parts with
  | nil => rfl
  | cons p rest ih => rw [everyPart, ih, List.all_cons]

/-- `somePart` is disjunction. -/
theorem somePart_eq_any (parts : List Predicate) :
    v.somePart schema context parts = parts.any (v.predicate schema context) := by
  induction parts with
  | nil => rfl
  | cons p rest ih => rw [somePart, ih, List.any_cons]

/-- The truth of a compound predicate is what its junction makes of the truths of its parts. -/
theorem predicate_joined (junction : Junction) (parts : List Predicate) :
    v.predicate schema context (.joined junction parts) =
      junction.truth (parts.map (v.predicate schema context)) := by
  cases junction with
  | all => simp [predicate, everyPart_eq_all, Junction.truth]
  | any => simp [predicate, somePart_eq_any, Junction.truth]

/-- The truth of a leaf with a clause is that of the clause. -/
theorem predicate_leaf {p : Predicate} (h : p.isLeaf = true) :
    v.predicate schema context p = v.leaf schema context p := by
  cases p <;> simp_all [Predicate.isLeaf, predicate]

/-- The truth of joined clauses is what the junction makes of their truths. -/
theorem sent_joinClauses {junction : Junction} {cs : List Clause} {c : Clause}
    (h : joinClauses junction cs = some c) : v.sent c = junction.truth (cs.map v.sent) := by
  rcases joinClauses_eq_some h with rfl | ⟨rfl, -, rfl⟩ | ⟨rfl, -, rfl⟩
  · cases junction <;> simp [Junction.truth]
  · simp [Junction.truth]
  · simp [Junction.truth]

end Valuation

/-- Only no clauses at all join to none. -/
theorem joinClauses_eq_none {junction : Junction} {cs : List Clause} :
    joinClauses junction cs = none ↔ cs = [] := by
  match cs, junction with
  | [], _ => simp [joinClauses]
  | [_], _ => simp [joinClauses]
  | _ :: _ :: _, .all | _ :: _ :: _, .any => simp [joinClauses]

/-- Joined clauses ask for something if each of them does. -/
theorem isGiven_joinClauses {junction : Junction} {cs : List Clause} {c : Clause}
    (h : joinClauses junction cs = some c) (hcs : ∀ d ∈ cs, d.isGiven = true) :
    c.isGiven = true := by
  rcases joinClauses_eq_some h with rfl | ⟨-, -, rfl⟩ | ⟨-, -, rfl⟩
  · exact hcs c (List.mem_singleton_self c)
  · rfl
  · rfl

/-- A leaf clause asks for something. -/
theorem Schema.LeafClause.isGiven {schema : Schema} {c : Clause} (h : schema.LeafClause c) :
    c.isGiven = true := by
  cases h <;> rfl

/-! ## The clause of a condition -/

/-- A clause, if there is one, asks for something and for no more than a condition does, and for
just as much when nothing of the condition gets lost. -/
structure Weakens (found : Option Clause) (truth : Valuation → Bool) (kept : Prop) : Prop where
  given : ∀ c ∈ found, c.isGiven = true
  sound : ∀ v, truth v = true → ∀ c ∈ found, v.sent c = true
  exact : kept → ∃ c, found = some c ∧ ∀ v : Valuation, v.sent c = truth v

/-- An answer for a condition: a clause, if there is one, and whether nothing of the condition gets
lost. -/
def Answers (answer : Option Clause × Bool) (truth : Valuation → Bool) (kept : Prop) : Prop :=
  Weakens answer.1 truth kept ∧ (answer.2 = true ↔ kept)

namespace Weakens

section Several

variable {α : Type} {truth : α → Valuation → Bool} {kept : α → Prop} {conditions : List α}
  {found : List (Option Clause)}

/-- Conditions of which nothing gets lost have a clause each, of the same truth. -/
theorem clauses_of_kept
    (h : List.Forall₂ (fun a c => Weakens c (truth a) (kept a)) conditions found)
    (hk : ∀ a ∈ conditions, kept a) :
    ∃ cs : List Clause, found = cs.map some ∧
      ∀ v : Valuation, cs.map v.sent = conditions.map fun a => truth a v := by
  induction h with
  | nil => exact ⟨[], rfl, fun _ => rfl⟩
  | cons ha _ ih =>
      obtain ⟨c, rfl, hc⟩ := ha.exact (hk _ (List.mem_cons_self ..))
      obtain ⟨cs, rfl, hcs⟩ := ih fun a ha => hk a (List.mem_cons_of_mem _ ha)
      exact ⟨c :: cs, rfl, fun v => by rw [List.map_cons, List.map_cons, hc, hcs]⟩

/-- Every clause that was found asks for something. -/
theorem given_of_mem (h : List.Forall₂ (fun a c => Weakens c (truth a) (kept a)) conditions found) :
    ∀ c ∈ found.filterMap id, c.isGiven = true := by
  induction h with
  | nil => simp
  | @cons a c conditions found ha _ ih =>
      cases c with
      | none => simpa using ih
      | some c =>
          rintro d hd
          rcases List.mem_cons.1 hd with rfl | hd
          · exact ha.given d rfl
          · exact ih d hd

/-- Where every condition is true, so is every clause that was found. -/
theorem all_sent (h : List.Forall₂ (fun a c => Weakens c (truth a) (kept a)) conditions found)
    {v : Valuation} (hv : (conditions.map fun a => truth a v).all id = true) :
    ((found.filterMap id).map v.sent).all id = true := by
  induction h with
  | nil => rfl
  | @cons a c conditions found ha _ ih =>
      simp only [List.map_cons, List.all_cons, id, Bool.and_eq_true] at hv
      have hrest := ih hv.2
      cases c with
      | none => simpa using hrest
      | some c => simpa [ha.sound v hv.1 c rfl] using hrest

/-- Where one condition is true, so is one clause, if every condition has a clause. -/
theorem any_sent (h : List.Forall₂ (fun a c => Weakens c (truth a) (kept a)) conditions found)
    (hall : ∀ c ∈ found, c ≠ none) {v : Valuation}
    (hv : (conditions.map fun a => truth a v).any id = true) :
    ((found.filterMap id).map v.sent).any id = true := by
  induction h with
  | nil => simp at hv
  | @cons a c conditions found ha _ ih =>
      obtain ⟨c, rfl⟩ := Option.ne_none_iff_exists'.1 (hall c (List.mem_cons_self ..))
      simp only [List.map_cons, List.any_cons, id, Bool.or_eq_true] at hv
      rcases hv with hv | hv
      · simp [ha.sound v hv c rfl]
      · have hrest := ih (fun d hd => hall d (List.mem_cons_of_mem _ hd)) hv
        simp only [List.filterMap_cons_some (f := id) rfl, List.map_cons, List.any_cons, hrest,
          Bool.or_true]

/-- The joined clauses of several conditions: a conjunction may drop some of them, a disjunction may
not. -/
theorem joinParts (junction : Junction)
    (h : List.Forall₂ (fun a c => Weakens c (truth a) (kept a)) conditions found) :
    Weakens (joinParts junction found) (fun v => junction.truth (conditions.map fun a => truth a v))
      (conditions ≠ [] ∧ ∀ a ∈ conditions, kept a) where
  given c hc := by
    rw [SearchTables.joinParts] at hc
    split at hc
    · simp at hc
    · exact isGiven_joinClauses hc (given_of_mem h)
  sound v hv c hc := by
    rw [SearchTables.joinParts] at hc
    split at hc
    · simp at hc
    · rename_i hdrop
      rw [v.sent_joinClauses hc]
      -- a conjunction may have dropped parts, a disjunction has a clause for each
      cases junction with
      | all => exact all_sent h hv
      | any =>
          refine any_sent h (fun c hc hn => hdrop ⟨rfl, ?_⟩) hv
          exact List.any_eq_true.2 ⟨c, hc, by simp [hn]⟩
  exact hk := by
    -- nothing gets lost of any part, so each has a clause and none was dropped
    obtain ⟨cs, rfl, hcs⟩ := clauses_of_kept h hk.2
    have hjoin : SearchTables.joinParts junction (cs.map some) = joinClauses junction cs := by
      simp [SearchTables.joinParts]
    have hne : cs ≠ [] := by
      rintro rfl
      exact hk.1 (List.forall₂_nil_right_iff.1 h)
    obtain ⟨c, hc⟩ := Option.ne_none_iff_exists'.1 (mt joinClauses_eq_none.1 hne)
    exact ⟨c, by rw [hjoin, hc], fun v => by rw [v.sent_joinClauses hc, hcs]⟩

variable {marked : List (Option Clause × Bool)}

/-- The clauses of several answers. -/
theorem of_answers
    (h : List.Forall₂ (fun a answer => Answers answer (truth a) (kept a)) conditions marked) :
    List.Forall₂ (fun a c => Weakens c (truth a) (kept a)) conditions (marked.map (·.1)) := by
  rw [List.forall₂_map_right_iff]
  exact h.imp fun _ _ ha => ha.1

/-- All answers say that nothing gets lost exactly when nothing of any condition does. -/
theorem all_answers
    (h : List.Forall₂ (fun a answer => Answers answer (truth a) (kept a)) conditions marked) :
    marked.all (·.2) = true ↔ ∀ a ∈ conditions, kept a := by
  induction h with
  | nil => simp
  | cons ha _ ih => rw [List.all_cons, Bool.and_eq_true, ha.2, ih, List.forall_mem_cons]

end Several

variable {schema : Schema} {context : String}

/-- The clause of a leaf has its truth. -/
theorem of_leaf {p : Predicate} {found : Option Clause} (hp : p.isLeaf = true)
    (h : schema.translateLeaf context p = .ok found) :
    Weakens found (fun v => v.predicate schema context p) (schema.Pushes context p) where
  given c hc := by
    obtain rfl : found = some c := hc
    exact (Schema.leafClause_of_translateLeaf h).isGiven
  sound v hv c hc := by
    obtain rfl : found = some c := hc
    simpa [Valuation.predicate_leaf v schema context hp, Valuation.leaf, h] using hv
  exact hk := by
    rw [Schema.pushes_leaf hp, h] at hk
    cases found with
    | none => exact absurd rfl hk
    | some c =>
        refine ⟨c, rfl, fun v => ?_⟩
        simp [Valuation.predicate_leaf v schema context hp, Valuation.leaf, h]

/-- What is asked of a member may be put for the member condition. -/
theorem of_member {field : String} {inner : Predicate} {found : Option Clause}
    (h : Weakens found (fun v => v.predicate schema (Path.under context field) inner)
      (schema.Pushes (Path.under context field) inner)) :
    Weakens found (fun v => v.predicate schema context (.member field inner))
      (schema.Pushes context (.member field inner)) := by
  simpa only [Valuation.predicate, Schema.pushes_member] using h

/-- The joined clauses of its parts may be put for a compound predicate. -/
theorem of_joined (junction : Junction) {parts : List Predicate} {found : List (Option Clause)}
    (h : List.Forall₂ (fun p c => Weakens c (fun v => v.predicate schema context p)
      (schema.Pushes context p)) parts found) :
    Weakens (SearchTables.joinParts junction found)
      (fun v => v.predicate schema context (.joined junction parts))
      (schema.Pushes context (.joined junction parts)) := by
  simpa only [Valuation.predicate_joined, Schema.pushes_joined] using Weakens.joinParts junction h

/-- There is a clause for every condition of which nothing gets lost. -/
theorem isSome_of_kept {found : Option Clause} {truth : Valuation → Bool} {kept : Prop}
    (h : Weakens found truth kept) (hk : kept) : found.isSome = true := by
  obtain ⟨c, rfl, -⟩ := h.exact hk
  rfl

end Weakens

/-! ## Translated predicates and filters -/

/-- Translation answers every predicate. -/
theorem answers_rules (schema : Schema) : Translator.Rules schema fun context p found pushed =>
    Answers (found, pushed) (fun v => v.predicate schema context p) (schema.Pushes context p) where
  leaf {context p found} hp h := by
    refine ⟨.of_leaf hp h, ?_⟩
    rw [Schema.pushes_leaf hp, h]
    cases found <;> simp
  member {context field inner found pushed} h := by
    refine ⟨.of_member h.1, ?_⟩
    rw [Schema.pushes_member, Bool.and_eq_true, h.2]
    exact ⟨And.left, fun hk => ⟨hk, h.1.isSome_of_kept hk⟩⟩
  joined {context junction parts answers} h := by
    have hweak := Weakens.of_joined junction (Weakens.of_answers h)
    refine ⟨hweak, ?_⟩
    rw [Bool.and_eq_true, Weakens.all_answers h]
    constructor
    · rintro ⟨hparts, hsome⟩
      refine Schema.pushes_joined.2 ⟨?_, hparts⟩
      -- without parts there is no clause, so the flag tells
      rintro rfl
      obtain rfl := List.forall₂_nil_left_iff.1 h
      cases junction <;> simp [joinParts, joinClauses] at hsome
    · intro hk
      exact ⟨(Schema.pushes_joined.1 hk).2, hweak.isSome_of_kept hk⟩

/-- A translated filter asks for something, and for no more than the filter does; it asks for just
as much when everything was pushed, which is so when no node of the filter gets lost. -/
theorem translateFilters_weakens {f : Filters} {schema : Schema} {translation : Translation}
    (h : translateFilters f schema = .ok translation) :
    (∀ c ∈ translation.clause, c.isGiven = true) ∧
      (∀ v : Valuation, v.filters schema f = true → translation.clause.all v.sent = true) ∧
      (translation.fullyPushed = true →
        ∀ v : Valuation, translation.clause.all v.sent = v.filters schema f) ∧
      (translation.fullyPushed = true ↔ ∀ node ∈ f.nodes schema, ¬ schema.LeavesBehind node) := by
  rw [translateFilters] at h
  split at h
  · simp at h
  · rename_i clauses t hitems
    obtain rfl := Except.ok.inj h
    -- the induction over the translation pairs the clause of each item with what it asks
    obtain ⟨marked, rfl, rfl, hmarked⟩ :=
      Translator.translateColumns_induct (answers_rules schema) rfl hitems
    have hweak := Weakens.of_answers hmarked
    have hflag := Weakens.all_answers hmarked
    have hall : ∀ v : Valuation, v.filters schema f =
        (f.items.map fun item => v.predicate schema (schema.pathOf item.1) item.2).all id := by
      intro v
      rw [Valuation.filters, List.all_map]
      rfl
    refine ⟨?_, fun v hv => ?_, fun hp v => ?_, ?_⟩
    · intro c (hc : joinClauses .all _ = some c)
      exact isGiven_joinClauses hc (Weakens.given_of_mem hweak)
    · rw [Option.all_eq_true]
      intro c (hc : joinClauses .all _ = some c)
      rw [v.sent_joinClauses hc]
      exact Weakens.all_sent hweak (hall v ▸ hv)
    · obtain ⟨cs, hfound, hcs⟩ := Weakens.clauses_of_kept hweak (hflag.1 (by simpa using hp))
      have hjoin : (marked.map (·.1)).filterMap id = cs := by
        rw [hfound]
        simp
      rw [hall v, ← hcs v]
      simp only [hjoin]
      cases hc : joinClauses .all cs with
      | none => simp [joinClauses_eq_none.1 hc]
      | some c => simp [v.sent_joinClauses hc, Junction.truth]
    · simp only [Translator.after_fullyPushed, Bool.true_and, hflag, Filters.nodes,
        List.mem_flatMap, Schema.Pushes]
      constructor
      · rintro h node ⟨item, hitem, hnode⟩
        exact h item hitem node hnode
      · intro h item hitem node hnode
        exact h node ⟨item, hitem, hnode⟩

/-- A base query and a filter combine to their conjunction, one that is not there being true. -/
theorem Valuation.sent_combine (v : Valuation) {base extra : Option Clause}
    (hbase : ∀ c ∈ base, c.isGiven = true) (hextra : ∀ c ∈ extra, c.isGiven = true) :
    v.sent (Clause.combine base extra) = (base.all v.sent && extra.all v.sent) := by
  have hkeep : ∀ {found : Option Clause}, (∀ c ∈ found, c.isGiven = true) →
      found.filter Clause.isGiven = found := by
    intro found hfound
    cases found with
    | none => rfl
    | some c => simp [Option.filter, hfound c rfl]
  rw [Clause.combine, hkeep hbase, hkeep hextra]
  cases base <;> cases extra <;> simp

namespace ScanOrder

/-- **The query of a scan lies between its base query and its base query with the filter.** Whatever
is true of a document, the query follows from base query and filter and implies the base query, and
it is their conjunction when the scan says that everything was pushed. That is so unless a leaf of
the filter has no clause or one of its junctions has no parts. -/
theorem query_between_base_and_filter {order : ScanOrder} {schema : Schema} {index : String}
    {settings : ScanSettings} {r : ScanRequest} (h : order.compile schema index settings = .ok r)
    (hbase : ∀ q ∈ order.baseQuery, q.isGiven = true) :
    (∃ query, r.body.get? "query" = some query ∧
      ∀ v : Valuation,
        let base := order.baseQuery.all fun q => v.query (.ofJson q)
        let filter := v.filters schema order.filters
        (base = true → filter = true → v.query query = true) ∧
          (v.query query = true → base = true) ∧
          (r.fullyPushed = true → (v.query query = true ↔ base = true ∧ filter = true))) ∧
      (r.fullyPushed = false ↔ ∃ node ∈ order.filters.nodes schema, schema.LeavesBehind node) := by
  obtain ⟨translation, htranslation, hquery, hpushed⟩ := (compiled_of_compile h).filters
  obtain ⟨hgiven, hsound, hexact, hflag⟩ := translateFilters_weakens htranslation
  refine ⟨⟨r.query.toValue, by simp [ScanRequest.body, Value.get?], fun v => ?_⟩, ?_⟩
  · have hsent : v.query r.query.toValue =
        ((order.baseQuery.all fun q => v.query (.ofJson q)) && translation.clause.all v.sent) := by
      -- the base query goes into the query as it is
      have hb : ∀ c ∈ order.baseQuery.map Clause.native, c.isGiven = true := by
        intro c hc
        obtain ⟨q, hq, rfl⟩ := Option.map_eq_some_iff.1 hc
        exact hbase q hq
      have := v.sent_combine hb hgiven
      rw [← hquery] at this
      rw [← Valuation.sent, this, Option.all_map]
      simp
    simp only [hsent, Bool.and_eq_true]
    refine ⟨fun hb hf => ⟨hb, hsound v hf⟩, And.left, fun hp => ?_⟩
    rw [hexact (hpushed ▸ hp) v]
  · rw [hpushed, ← Bool.not_eq_true, hflag]
    simp

/-- Half of a conjunction is pushed: the query keeps the disjunction and lets the unknown condition
go. -/
theorem query_between_base_and_filter_half_pushed :
    let order : ScanOrder :=
      { columns := []
        filters := .row (.joined .all
          [.joined .any [.compare .eq "a" (.int 1), .member "b" (.isNull "c")], .unknown ""])
        baseQuery := some (.obj [("exists", .obj [("field", .str "d")])]) }
    ∃ r, order.compile { columns := [] } "i" {} = .ok r ∧
      (∀ q ∈ order.baseQuery, q.isGiven = true) ∧
      r.fullyPushed = false ∧ ∃ query, r.body.get? "query" = some query ∧ ∀ v : Valuation,
        v.query query = true → order.baseQuery.all (fun q => v.query (.ofJson q)) = true := by
  intro order
  have hbase : ∀ q ∈ order.baseQuery, q.isGiven = true := by
    intro q hq
    obtain rfl := Option.some.inj hq
    rfl
  obtain ⟨r, hr⟩ : ∃ r, order.compile { columns := [] } "i" {} = .ok r := ⟨_, rfl⟩
  obtain ⟨⟨query, hquery, hv⟩, hpushed⟩ := query_between_base_and_filter hr hbase
  refine ⟨r, hr, hbase, hpushed.2 ?_, query, hquery, fun v => (hv v).2.1⟩
  exact ⟨("", .unknown ""), by simp [order, Filters.nodes, Filters.items, Predicate.nodes,
    Predicate.nodesOfParts, Schema.pathOf, Schema.findColumn?], .inl ⟨rfl, rfl⟩⟩

end ScanOrder
end SearchTables
