import SearchTables.Proofs.Expression.ReadNames
import SearchTables.Proofs.Filter.Misreadings
import SearchTables.Proofs.Filter.Refusals
import SearchTables.Proofs.Geometry.BoxFailures

/-! # Depth — a filter that was read is never too deep to translate

The reader of filters counts levels of the grammar, and the translator counts levels of the
predicate. `Expression.visits` is how deep the first one goes: at least as deep as the predicate
nests that it puts together, since every member on a path takes a visit of its own and joining
predicates of one kind adds no level (`Expression.madeWithin_of_reading`). So under one limit for both,
what the first one lets through never is too deep for the second one. -/

namespace SearchTables

/-! ## How deep readings nest -/

/-- How many levels a reading nests as a predicate: a field as many as there are names on its path. -/
def Reading.size : Reading → Nat
  | .field path => (Path.segments path).length
  | .constant _ => 1
  | .predicate p => p.depth

namespace Predicate

/-- A leaf is one level. -/
theorem depth_of_isLeaf {p : Predicate} (h : p.isLeaf = true) : p.depth = 1 := by
  cases p <;> simp_all [isLeaf, depth]

/-- Members on the way add a level each. -/
theorem depth_foldr_member (names : List String) (p : Predicate) :
    (names.foldr .member p).depth = names.length + p.depth := by
  induction names with
  | nil => simp
  | cons name names ih =>
      rw [List.foldr_cons, depth, ih, List.length_cons]
      omega

/-- Several predicates nest as deep as those of two lists together. -/
theorem depthOfParts_append (ps qs : List Predicate) :
    depthOfParts (ps ++ qs) = max (depthOfParts ps) (depthOfParts qs) := by
  induction ps with
  | nil => simp [depthOfParts]
  | cons p ps ih => rw [List.cons_append, depthOfParts, depthOfParts, ih, Nat.max_assoc]

/-- The parts under a junction nest no deeper than the predicate. -/
theorem depthOfParts_partsUnder_le (junction : Junction) (p : Predicate) :
    depthOfParts (p.partsUnder junction) ≤ p.depth := by
  cases p with
  | joined j parts =>
      rw [partsUnder]
      split
      · rw [depth]
        omega
      · simp [depthOfParts]
  | _ => simp [partsUnder, depthOfParts]

/-- **Joining two predicates adds at most one level.** -/
theorem depth_join_le (junction : Junction) (p q : Predicate) :
    (p.join junction q).depth ≤ max p.depth q.depth + 1 := by
  have hp := depthOfParts_partsUnder_le junction p
  have hq := depthOfParts_partsUnder_le junction q
  rw [join, depth, depthOfParts_append]
  omega

end Predicate

namespace Reading

variable {path : String} {make : String → Predicate}

/-- A test at the end of a path nests as deep as there are names on the path. -/
theorem depth_leaf (hmake : ∀ field, (make field).isLeaf = true) :
    (leaf path make).depth = (Path.segments path).length := by
  obtain ⟨parents, last, hpath⟩ :=
    List.eq_nil_or_concat (Path.segments path) |>.resolve_left (Path.segments_ne_nil path)
  rw [List.concat_eq_append] at hpath
  rw [leaf_eq hpath, Predicate.depth_foldr_member, Predicate.depth_of_isLeaf (hmake last), hpath,
    List.length_append]
  rfl

/-- A condition is the predicate of its reading. -/
theorem eq_toPredicate_of_condition {r : Reading} {p : Predicate} (h : r.condition = .ok p) :
    p = r.toPredicate := by
  unfold condition at h
  split at h
  · split at h
    · exact (Except.ok.inj h).symm
    · cases h
  · exact (Except.ok.inj h).symm

/-- A reading nests as deep as its predicate. -/
theorem depth_toPredicate (r : Reading) : r.toPredicate.depth = r.size := by
  cases r with
  | field path =>
      have hmake : ∀ field, (Predicate.compare .eq field (.bool true)).isLeaf = true := fun _ => rfl
      exact depth_leaf hmake
  | constant value => rfl
  | predicate p => rfl

/-- A changed sign makes a constant or something unknown. -/
theorem size_negated {r : Reading} : r.negated.size = 1 := by
  unfold negated
  split <;> rfl

/-- A condition nests as deep as its reading. -/
theorem depth_of_condition {r : Reading} {p : Predicate} (h : r.condition = .ok p) : p.depth = r.size := by
  obtain rfl := eq_toPredicate_of_condition h
  exact depth_toPredicate r

/-- Joined readings add one level. -/
theorem size_join_le {n : Nat} {left right : Reading} (hleft : left.size ≤ n) (hright : right.size ≤ n)
    (junction : Junction) :
    (predicate (left.toPredicate.join junction right.toPredicate)).size ≤ n + 1 := by
  rw [← depth_toPredicate] at hleft hright
  exact Nat.le_trans (Predicate.depth_join_le ..) (Nat.succ_le_succ (Nat.max_le.2 ⟨hleft, hright⟩))

/-- A test on readings nests as deep as one of them, or has one level. -/
theorem TestOn.size_le {n : Nat} {rs : List Reading} {r : Reading} (h : TestOn rs r) (hn : 1 ≤ n)
    (hrs : ∀ s ∈ rs, s.size ≤ n) : r.size ≤ n := by
  cases h with
  | field hpath hmake => exact Nat.le_trans (Nat.le_of_eq (depth_leaf hmake)) (hrs _ hpath)
  | unknown => exact hn

end Reading

/-! ## Visits -/

namespace Expression

/-- How many visits lead to an expression where the grammar allows rank `start`: one for each level
down to its own rank. -/
def visitsTo (start : Nat) (e : Expression) : Nat := e.rank - start + 1

mutual

/-- How many visits nest below an expression, to the deepest one of its parts that are read. -/
def visitsBelow : Expression → Nat
  | .literal _ | .ident _ | .rootCall _ (_ :: _) | .index _ _ | .message _ (_ :: _) | .not _
  | .arithmetic _ _ _ | .conditional _ _ _ => 0
  | .rootIdent _ | .rootCall _ [] => 1
  | .call _ arguments => visitsOfAll arguments
  | .group inner => visitsTo topRank inner + visitsBelow inner
  | .list items => visitsOfAll items
  | .map entries => visitsOfEntries entries
  | .member object _ => visitsTo memberRank object + visitsBelow object
  | .method object _ arguments =>
      max (visitsTo memberRank object + visitsBelow object) (visitsOfAll arguments)
  | .message type [] => visitsTo memberRank type + visitsBelow type
  | .neg operand => visitsTo unaryRank operand + visitsBelow operand
  | .relation _ left right =>
      max (visitsTo relationRank left + visitsBelow left) (visitsTo sumRank right + visitsBelow right)
  | .and left right =>
      max (visitsTo andRank left + visitsBelow left) (visitsTo relationRank right + visitsBelow right)
  | .or left right =>
      max (visitsTo orRank left + visitsBelow left) (visitsTo andRank right + visitsBelow right)

/-- The visits to the deepest part of several whole expressions. -/
def visitsOfAll : List Expression → Nat
  | [] => 0
  | e :: rest => max (visitsTo topRank e + visitsBelow e) (visitsOfAll rest)

/-- The visits to the deepest part of the entries of a map. -/
def visitsOfEntries : List (Expression × Expression) → Nat
  | [] => 0
  | (key, value) :: rest =>
      max (max (visitsTo topRank key + visitsBelow key) (visitsTo topRank value + visitsBelow value))
        (visitsOfEntries rest)

end

/-- **How many visits nest when an expression is read** where the grammar allows rank `start`. -/
def visits (start : Nat) (e : Expression) : Nat := visitsTo start e + visitsBelow e

/-- The visits to several expressions are within a bound when those to each of them are. -/
theorem visitsOfAll_le_iff {n : Nat} {es : List Expression} :
    visitsOfAll es ≤ n ↔ ∀ e ∈ es, e.visits topRank ≤ n := by
  induction es with
  | nil => simp [visitsOfAll]
  | cons e rest ih => rw [visitsOfAll, Nat.max_le, ih, List.forall_mem_cons, visits]

/-- The visits to the entries of a map are those to the keys and values. -/
theorem visitsOfEntries_eq (entries : List (Expression × Expression)) :
    visitsOfEntries entries = visitsOfAll (entries.flatMap fun (key, value) => [key, value]) := by
  induction entries with
  | nil => rfl
  | cons entry rest ih =>
      obtain ⟨key, value⟩ := entry
      rw [visitsOfEntries, ih, Nat.max_assoc]
      rfl

/-- **The visits below an expression are within a bound** when its own levels and the visits to its parts
are. -/
theorem visitsBelow_le_iff (outer : Int) (start : Nat) {e : Expression} {n : Nat} :
    e.visitsBelow ≤ n ↔ e.entered outer start ≤ depthAt outer start e + n ∧
      ∀ o ∈ e.operands, o.expression.visits o.start ≤ n := by
  -- what the expression takes itself says nothing about the bound, except that a name after a dot has a level more
  have hown : depthAt outer start e ≤ depthAt outer start e + n := by omega
  have hone : 1 ≤ n ↔ depthAt outer start e + 1 ≤ depthAt outer start e + n := by omega
  have hparts : ∀ es : List Expression, (∀ o ∈ es.map asOperand, o.expression.visits o.start ≤ n) ↔
      visitsOfAll es ≤ n := by
    intro es
    rw [List.forall_mem_map, visitsOfAll_le_iff]
    rfl
  cases e with
  | call name arguments | list arguments => simp only [visitsBelow, entered, operands, hparts, hown, true_and]
  | map entries =>
      have hoperands : (Expression.map entries).operands =
          (entries.flatMap fun (key, value) => [key, value]).map asOperand := by
        rw [operands, List.map_flatMap]
        rfl
      simp only [visitsBelow, entered, hoperands, hparts, hown, true_and, visitsOfEntries_eq]
  | method object name arguments =>
      simp only [visitsBelow, entered, operands, List.forall_mem_cons, hparts, hown, true_and, Nat.max_le]
      rfl
  | rootIdent name => simpa [visitsBelow, entered, operands] using hone
  | rootCall name arguments =>
      cases arguments with
      | nil => simpa [visitsBelow, entered, operands] using hone
      | cons => simp [visitsBelow, entered, operands, hown]
  | message type fields => cases fields <;> simp [visitsBelow, entered, operands, visits, hown]
  | _ => simp [visitsBelow, entered, operands, asOperand, visits, hown]

/-- What an expression takes itself is at least its depth. -/
theorem depthAt_le_entered (outer : Int) (start : Nat) (e : Expression) :
    depthAt outer start e ≤ e.entered outer start := by
  unfold entered
  split <;> omega

/-- A reading that was **made within a limit** below a given depth: the visits that it took are
within the limit, and it nests no deeper than they do. -/
structure MadeWithin (limit outer : Int) (visits : Nat) (r : Reading) : Prop where
  within : outer + visits ≤ limit
  size_le : r.size ≤ visits

variable {limit outer : Int} {start : Nat} {e : Expression} {r : Reading}

/-- One more level above what was read below an expression. -/
theorem MadeWithin.of_below (hwithin : depthAt outer start e + visitsBelow e ≤ limit)
    (hsize : r.size ≤ visitsBelow e + 1) : MadeWithin limit outer (e.visits start) r where
  within := by
    rw [depthAt] at hwithin
    rw [visits, visitsTo]
    omega
  size_le := by
    rw [visits, visitsTo]
    omega

/-- **What is put together nests one level deeper than its parts at most.** The names make one step of a path
each. -/
theorem Assembled.size_le {rs : List Reading} {n : Nat} (h : e.Assembled rs r) (hnames : Named e.names)
    (hrs : ∀ s ∈ rs, s.size ≤ n) : r.size ≤ n + 1 := by
  cases h with
  | group | braces => exact Nat.le_succ_of_le (hrs _ List.mem_cons_self)
  | conjunction | disjunction =>
      exact Reading.size_join_le (hrs _ List.mem_cons_self)
        (hrs _ (List.mem_cons_of_mem _ List.mem_cons_self)) _
  | name =>
      have hvalid := validSegment_of_isName (hnames _ List.mem_cons_self)
      rw [Reading.size, Path.segments_of_validSegment hvalid]
      exact Nat.le_add_left ..
  | @path object name path =>
      have hvalid := validSegment_of_isName ((named_append.1 hnames).2 name List.mem_cons_self)
      rw [Reading.size, Path.segments_member path hvalid, List.length_append]
      exact Nat.succ_le_succ (hrs _ List.mem_cons_self)
  | negated => exact Nat.le_trans (Nat.le_of_eq Reading.size_negated) (Nat.le_add_left ..)
  | literal | list | map | timestamp => exact Nat.le_add_left ..
  | test h => exact h.size_le (Nat.le_add_left ..) fun s hs => Nat.le_succ_of_le (hrs s hs)

/-- **A reading nests no deeper than the visits that it takes**, and these are within the limit. The
induction is on the size of the expression. -/
theorem madeWithin_of_reading (hnames : Named e.names) (h : reading limit outer start e = .ok r) :
    MadeWithin limit outer (e.visits start) r := by
  induction hsize : sizeOf e using Nat.strongRecOn generalizing outer start e r with
  | ind size ih =>
      subst hsize
      rw [reading_eq] at h
      obtain ⟨u, hu, h⟩ := bind_eq_ok.1 h
      obtain ⟨rs, hrs, h⟩ := bind_eq_ok.1 h
      -- a part was made within the limit, and a condition nests as deep as what it was made of
      have hpart : ∀ {o : Operand} {s : Reading}, o ∈ e.operands →
          operandReading limit (depthAt outer start e) o = .ok s →
            MadeWithin limit (depthAt outer start e) (o.expression.visits o.start) s := by
        intro o s ho hread
        rw [operandReading] at hread
        obtain ⟨found, hfound, hread⟩ := bind_eq_ok.1 hread
        obtain ⟨hchild, -⟩ := child_of_operand ho
        have hown : Named o.expression.names := fun n hn =>
          hnames n (names_subset_of_mem_children hchild hn)
        have hmade := ih _ (sizeOf_lt_of_mem_children hchild) hown hfound rfl
        split at hread
        · obtain ⟨p, hp, rfl⟩ := map_eq_ok.1 hread
          exact ⟨hmade.within, Nat.le_trans (Nat.le_of_eq (Reading.depth_of_condition hp)) hmade.size_le⟩
        · obtain rfl := Except.ok.inj hread
          exact hmade
      have hentered : e.entered outer start ≤ limit := checkDepth_eq_ok.1 hu
      have hdepth := depthAt_le_entered outer start e
      have hvisits : ∀ o ∈ e.operands, depthAt outer start e + o.expression.visits o.start ≤ limit := by
        intro o ho
        obtain ⟨s, hs⟩ := exists_mapM_eq_ok.1 ⟨rs, hrs⟩ o ho
        exact (hpart ho hs).within
      have hbelow : e.visitsBelow ≤ (limit - depthAt outer start e).toNat := by
        refine (visitsBelow_le_iff outer start).2 ⟨by omega, fun o ho => ?_⟩
        have hwithin := hvisits o ho
        omega
      have hassembled := assembled_of_putTogether (length_of_mapM hrs) h
      refine .of_below (by omega) (hassembled.size_le hnames fun s hs => ?_)
      obtain ⟨o, ho, hread⟩ := exists_of_mem_mapM hrs hs
      exact Nat.le_trans (hpart ho hread).size_le (((visitsBelow_le_iff outer start).1 le_rfl).2 o ho)

end Expression

/-! ## Failures within the limit -/

/-- Whether an outcome, if it is a failure, is one that is not about depth. -/
def Shallow {α : Type} (outcome : Except Error α) : Prop :=
  ∀ e, outcome = .error e → e.family ≠ .depth

namespace Shallow

variable {α β : Type} {outcome : Except Error α}

/-- A value is no failure. -/
theorem ok (a : α) : Shallow (.ok a) := fun _ h => nomatch h

/-- A failure that is not about depth. -/
theorem error {e : Error} (h : e.family ≠ .depth) : Shallow (.error e : Except Error α) := by
  rintro e' he'
  obtain rfl := Except.error.inj he'
  exact h

/-- Two steps, neither of which fails for depth. -/
theorem bind {next : α → Except Error β} (h : Shallow outcome) (hnext : ∀ a, Shallow (next a)) :
    Shallow (outcome >>= next) := by
  cases outcome with
  | ok a => exact hnext a
  | error e => exact error (h e rfl)

/-- A changed outcome. -/
theorem map {f : α → β} (h : Shallow outcome) : Shallow (outcome.map f) := by
  cases outcome with
  | ok a => exact ok _
  | error e => exact error (h e rfl)

end Shallow

namespace Schema

variable (s : Schema)

/-- A target of exact matching. -/
theorem shallow_exactField (field : String) : Shallow (s.exactField field) := by
  rw [exactField]
  split
  · split
    · exact .ok _
    · exact .error (by simp [Error.family])
  · exact .ok _

/-- A constant in the words of a query. -/
theorem shallow_queryConstant (v : Value) : Shallow (queryConstant v) := by
  unfold queryConstant
  split
  case h_8 => split <;> first | exact .ok _ | exact .error (by simp [Error.family])
  all_goals exact .ok _

/-- Several constants in the words of a query. -/
theorem shallow_queryConstants (constants : List Value) : Shallow (queryConstants constants) := by
  fun_induction queryConstants constants with
  | case1 => exact .ok _
  | case2 rest ih => exact ih
  | case3 v rest hv j hj ih => exact ih.map
  | case4 v rest hv hnone => exact .ok _
  | case5 v rest hv e he => exact .error (shallow_queryConstant v e he)

/-- A test on a field fails only as the test does. -/
theorem shallow_leafClause {field : String} {clause : Except Error (Option Clause)}
    (h : Shallow clause) : Shallow (leafClause field clause) := by
  rw [leafClause]
  split
  · exact .ok _
  · exact h

/-- The clause of a comparison. -/
theorem shallow_compareClause (op : CompareOp) (field : String) (constant : Value) :
    Shallow (s.compareClause op field constant) := by
  refine (s.shallow_exactField field).bind fun target => (shallow_queryConstant constant).bind ?_
  rintro (- | value)
  · exact .ok _
  · cases op
    case eq | ne => exact .ok _
    all_goals
      change Shallow (if field = idColumn then _ else _)
      split <;> exact .ok _

/-- The clause of a membership. -/
theorem shallow_amongClause (field : String) (constants : List Value) :
    Shallow (s.amongClause field constants) := by
  refine (s.shallow_exactField field).bind fun target => (shallow_queryConstants constants).bind ?_
  rintro (- | - | ⟨v, vs⟩) <;> exact .ok _

/-- The clause of a pattern. -/
theorem shallow_patternClause (field pattern : String) (ignoreCase : Bool) (escape : String) :
    Shallow (s.patternClause field pattern ignoreCase escape) := by
  refine (s.shallow_exactField field).bind fun target => ?_
  split <;> exact .ok _

/-- The clause of a spatial relation. -/
theorem shallow_spatialClause (relation : SpatialRelation) (field : String) (geometry : Value)
    (fieldFirst : Bool) : Shallow (s.spatialClause relation field geometry fieldFirst) := by
  rw [spatialClause]
  split
  · exact .ok _
  split
  · exact .ok _
  generalize (if fieldFirst = true then relation else relation.swapped) = placed
  dsimp only
  split
  · split
    · rename_i e hbox
      refine .error fun hfamily => ?_
      have hbare := Box.not_isDescribed_of_ofGeometry? hbox
      rw [Error.isDescribed, hfamily] at hbare
      cases hbare
    · exact .ok _
    · exact .ok _
  · exact .ok _

/-- A leaf does not fail for its depth. -/
theorem shallow_translateLeaf (context : String) (p : Predicate) :
    Shallow (s.translateLeaf context p) := by
  cases p with
  | compare op field constant => exact shallow_leafClause (s.shallow_compareClause op _ constant)
  | among field constants => exact shallow_leafClause (s.shallow_amongClause _ constants)
  | isNull field | notNull field => exact shallow_leafClause (.ok _)
  | like field pattern ignoreCase escape =>
      exact shallow_leafClause (s.shallow_patternClause _ pattern ignoreCase escape)
  | spatial relation field geometry fieldFirst =>
      exact shallow_leafClause (s.shallow_spatialClause relation _ geometry fieldFirst)
  | joined | member | unknown => exact .ok _

end Schema

/-- **A predicate that nests within the limit does not fail for its depth.** -/
theorem shallow_translate {s : Schema} {limit : Int} {p : Predicate} (h : p.depth ≤ limit)
    (context : String) :
    Shallow (Translator.translate { schema := s, maxDepth := limit } context p).1 := by
  intro e he
  have hfirst : failure? (Translator.translate { schema := s, maxDepth := limit } context p).1 =
      (p.places 1 context).findSome? (s.placeFailure? limit) := Translator.failure?_translate rfl
  rw [he] at hfirst
  obtain ⟨⟨level, context, q⟩, hplace, hfails⟩ := List.exists_of_findSome?_eq_some hfirst.symm
  -- no place is past the limit, so the failure is that of a leaf
  have hlevel : level ≤ limit :=
    (Predicate.places_le_iff limit 0 _ p).2 (by simpa using h) _ hplace
  rw [Schema.placeFailure?, if_neg (Int.not_lt.2 hlevel)] at hfails
  exact s.shallow_translateLeaf context q e (failure?_eq_some.1 hfails)

/-- **A filter that was read is never too deep to translate.** Its predicate nests no deeper than the
visits that reading its expression took, and these are within the limit; so a translator with the
same limit does not refuse it for its depth, whatever the schema and the context. -/
theorem translation_of_parsed_not_too_deep {text : String} {limit : Int} {p : Predicate}
    (h : parseFilter text limit = .ok p) :
    (∃ e, Expression.read? text = some e ∧ p.depth ≤ e.visits Expression.topRank ∧
        e.visits Expression.topRank ≤ limit) ∧
      ∀ (s : Schema) (context : String),
        Shallow (Translator.translate { schema := s, maxDepth := limit } context p).1 := by
  rw [parseFilter] at h
  split at h
  · cases h
  rename_i e hread
  obtain ⟨r, hr, hp⟩ := bind_eq_ok.1 h
  obtain ⟨hwithin, hsize⟩ := Expression.madeWithin_of_reading (Expression.named_read? hread) hr
  rw [← Reading.depth_of_condition hp] at hsize
  exact ⟨⟨e, hread, hsize, by omega⟩, fun s context => shallow_translate (by omega) context⟩

/-- A path of three names, compared under a conjunction, with no level to spare. -/
theorem translation_of_parsed_not_too_deep_conjunction :
    let p : Predicate := .joined .all [.member "a" (.member "b" (.compare .eq "c" (.int 1))), .isNull "d"]
    parseFilter "a.b.c == 1 && d == null" 16 = .ok p ∧
      (∀ (s : Schema) (context : String),
        Shallow (Translator.translate { schema := s, maxDepth := 16 } context p).1) := by
  intro p
  have hread : Expression.read? "a.b.c == 1 && d == null" =
      some (.and
        (.relation .eq (.member (.member (.ident "a") "b") "c") (.literal (.int false false [1])))
        (.relation .eq (.ident "d") (.literal .null))) := by cbv
  have hparse : parseFilter "a.b.c == 1 && d == null" 16 = .ok p := by
    rw [parseFilter, hread]
    rfl
  exact ⟨hparse, (translation_of_parsed_not_too_deep hparse).2⟩

end SearchTables
