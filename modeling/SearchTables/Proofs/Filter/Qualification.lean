import SearchTables.Proofs.Filter.Pushdown
import SearchTables.Proofs.Mapping.Resolution
import SearchTables.Session

/-! # Qualification — translation depends on full paths only

A condition can stand at a path in several ways: in the context of a column, beneath members, or
with dots in the name of its field. **Qualifying** a predicate writes all of that into the fields of
its leaves. `Schema.answer` is translation without a level and without a state; it agrees with a
translator as long as the level stays within its limit (`Translator.translate_eq`), and qualifying
does not change it (`Schema.answer_qualified`). -/

namespace SearchTables

/-! ## Qualified predicates -/

namespace Path

/-- The path through names that are not empty is not empty. -/
theorem ofSegments_ne_empty_of_cons {name : String} (hname : name ≠ "") (names : List String) :
    ofSegments (name :: names) ≠ "" := by
  cases names with
  | nil => simpa [ofSegments] using hname
  | cons other names =>
      rw [ofSegments, String.intercalate_cons_cons]
      simp

/-- **One more name goes to the end of a path**, however the path was put together. -/
theorem under_join (parts : List String) (name : String) :
    under (join parts) name = join (parts ++ [name]) := by
  rw [join, join, List.filter_append]
  rcases hparts : parts.filter (· ≠ "") with - | ⟨first, rest⟩
  · -- nothing above the name
    have hempty : ofSegments [] = "" := rfl
    rw [hempty, under_empty, List.nil_append]
    by_cases hname : name = "" <;> simp [hname, ofSegments]
  · have hfirst : first ≠ "" := by
      have hmem : first ∈ parts.filter (· ≠ "") := hparts ▸ List.mem_cons_self ..
      simpa using (List.mem_filter.1 hmem).2
    have hne := ofSegments_ne_empty_of_cons hfirst rest
    by_cases hname : name = ""
    · simp [hname, under_of_empty hne]
    · have hkeep : [name].filter (· ≠ "") = [name] := by simp [hname]
      rw [under_of_ne hne hname, hkeep, ofSegments_append (List.cons_ne_nil _ _) (List.cons_ne_nil _ _)]
      simp [ofSegments]

/-- The path through one name is that name. -/
theorem join_singleton (name : String) : join [name] = name := by
  have h := under_join [] name
  rwa [join, List.filter_nil, ofSegments, String.intercalate_nil, under_empty, eq_comm] at h

end Path

namespace Predicate

mutual

/-- A predicate with its full paths: the parts of the context and the members on the way down, joined
with the field of each leaf. -/
def qualified (parts : List String) : Predicate → Predicate
  | .joined junction ps => .joined junction (qualifiedParts parts ps)
  | .member field inner => qualified (parts ++ [field]) inner
  | .compare op field constant => .compare op (Path.join (parts ++ [field])) constant
  | .among field constants => .among (Path.join (parts ++ [field])) constants
  | .isNull field => .isNull (Path.join (parts ++ [field]))
  | .notNull field => .notNull (Path.join (parts ++ [field]))
  | .like field pattern ignoreCase escape =>
      .like (Path.join (parts ++ [field])) pattern ignoreCase escape
  | .spatial relation field geometry fieldFirst =>
      .spatial relation (Path.join (parts ++ [field])) geometry fieldFirst
  | .unknown description => .unknown description

/-- `qualified` on several predicates. -/
def qualifiedParts (parts : List String) : List Predicate → List Predicate
  | [] => []
  | p :: rest => qualified parts p :: qualifiedParts parts rest

end

mutual

/-- How many levels a predicate nests, its own among them. -/
def depth : Predicate → Nat
  | .joined _ parts => depthOfParts parts + 1
  | .member _ inner => depth inner + 1
  | _ => 1

/-- The most levels that one of several predicates nests. -/
def depthOfParts : List Predicate → Nat
  | [] => 0
  | p :: rest => max (depth p) (depthOfParts rest)

end

/-- Each of several predicates nests at most as deep as all of them. -/
theorem depthOfParts_le_iff {parts : List Predicate} {n : Nat} :
    depthOfParts parts ≤ n ↔ ∀ p ∈ parts, p.depth ≤ n := by
  induction parts with
  | nil => simp [depthOfParts]
  | cons p rest ih => rw [depthOfParts, Nat.max_le, ih, List.forall_mem_cons]

end Predicate

/-! ## Translation without a state -/

/-- Whether an answer leaves nothing behind: only a missing clause does. -/
def leavesNothing : Except Error (Option Clause) → Bool
  | .ok none => false
  | _ => true

namespace Schema

variable (s : Schema)

mutual

/-- What a predicate comes to in a context, and whether nothing was left behind until then. -/
def answer (context : String) : Predicate → Except Error (Option Clause) × Bool
  | .joined junction parts =>
      let (found, pushed) := answers context parts
      let found := found.map (joinParts junction)
      (found, pushed && leavesNothing found)
  | .member field inner => answer (Path.under context field) inner
  | leaf => (s.translateLeaf context leaf, leavesNothing (s.translateLeaf context leaf))

/-- What several predicates come to in a context, up to the first failure. -/
def answers (context : String) : List Predicate → Except Error (List (Option Clause)) × Bool
  | [] => (.ok [], true)
  | p :: rest =>
      match answer context p with
      | (.error e, pushed) => (.error e, pushed)
      | (.ok c, pushed) => ((answers context rest).1.map (c :: ·), pushed && (answers context rest).2)

end

variable {s}

/-- A leaf comes to its clause. -/
theorem answer_of_isLeaf {p : Predicate} (hp : p.isLeaf = true) (context : String) :
    s.answer context p = (s.translateLeaf context p, leavesNothing (s.translateLeaf context p)) := by
  cases p <;> simp_all [Predicate.isLeaf, answer]

/-- An answer that says that nothing was left behind is no missing clause. -/
theorem leavesNothing_of_answer : ∀ {context : String} {p : Predicate},
    (s.answer context p).2 = true → leavesNothing (s.answer context p).1 = true
  | _, .joined _ _, h => by
      rw [answer] at h ⊢
      exact (Bool.and_eq_true_iff.1 h).2
  | _, .member _ inner, h => by
      rw [answer] at h ⊢
      exact leavesNothing_of_answer (p := inner) h
  | _, .compare .., h | _, .among .., h | _, .isNull _, h | _, .notNull _, h | _, .like .., h
  | _, .spatial .., h | _, .unknown _, h => by
      rw [answer_of_isLeaf rfl] at h ⊢
      exact h

/-! ## Qualifying changes nothing -/

/-- A leaf has the same clause however its full path is split. -/
theorem translateLeaf_qualified (parts : List String) {p : Predicate} (hp : p.isLeaf = true) :
    s.translateLeaf "" (p.qualified parts) = s.translateLeaf (Path.join parts) p := by
  cases p <;>
    simp_all [Predicate.isLeaf, Predicate.qualified, translateLeaf, Path.under_join, Path.under_empty]

mutual

/-- **A predicate comes to the same as its qualified form.** -/
theorem answer_qualified (parts : List String) : ∀ p : Predicate,
    s.answer "" (p.qualified parts) = s.answer (Path.join parts) p
  | .joined junction ps => by
      rw [Predicate.qualified, answer, answer, answers_qualified parts ps]
  | .member field inner => by
      rw [Predicate.qualified, answer, answer_qualified (parts ++ [field]) inner, Path.under_join]
  | .compare .. | .among .. | .isNull _ | .notNull _ | .like .. | .spatial .. | .unknown _ => by
      rw [answer_of_isLeaf rfl, answer_of_isLeaf rfl, translateLeaf_qualified parts rfl]

/-- Several predicates come to the same as their qualified forms. -/
theorem answers_qualified (parts : List String) : ∀ ps : List Predicate,
    s.answers "" (Predicate.qualifiedParts parts ps) = s.answers (Path.join parts) ps
  | [] => rfl
  | p :: rest => by
      rw [Predicate.qualifiedParts, answers, answers, answer_qualified parts p,
        answers_qualified parts rest]

end

/-- One more predicate is looked at after the others. -/
theorem answers_append (context : String) (ps qs : List Predicate) :
    s.answers context (ps ++ qs) =
      match s.answers context ps with
      | (.error e, pushed) => (.error e, pushed)
      | (.ok cs, pushed) =>
          ((s.answers context qs).1.map (cs ++ ·), pushed && (s.answers context qs).2) := by
  induction ps with
  | nil => rcases hqs : s.answers context qs with ⟨e | cs, pushed⟩ <;> simp [answers, Except.map, hqs]
  | cons p rest ih =>
      rw [List.cons_append, answers, answers, ih]
      rcases s.answer context p with ⟨e | c, pushed⟩
      · rfl
      · rcases s.answers context rest with ⟨e | cs, more⟩
        · rfl
        · rcases s.answers context qs with ⟨e | ds, most⟩ <;> simp [Except.map, Bool.and_assoc]

end Schema

/-! ## The translator -/

namespace Translator

variable {t : Translator} {context context' : String} {p q : Predicate}

/-- Whether a predicate nests no deeper than a translator goes from where it is. -/
def Reaches (t : Translator) (p : Predicate) : Prop := t.depth + p.depth ≤ t.maxDepth

/-- A translator that was not used yet goes down a hundred levels. -/
theorem reaches_fresh_iff {s : Schema} :
    ({ schema := s } : Translator).Reaches p ↔ p.depth ≤ 100 := by
  have hdepth : ({ schema := s } : Translator).depth = 0 := rfl
  have hmax : ({ schema := s } : Translator).maxDepth = 100 := rfl
  rw [Reaches, hdepth, hmax]
  omega

/-- Coming back up with an answer: the level is as before, and the flag tells whether the answer left
something behind. -/
theorem leave_note_of_enter (t : Translator) (pushed : Bool) (found : Except Error (Option Clause)) :
    (t.enter.after pushed).leave.note found = t.after (pushed && leavesNothing found) := by
  rcases found with e | - | c <;> simp [note, leave, after, enter, leavesNothing]

/-- Below its limit a translator goes down. -/
theorem not_tooDeep_enter {n : Nat} (h : t.depth + (n + 1 : Nat) ≤ t.maxDepth) :
    t.enter.tooDeep = false := by
  have hlevel : ¬ t.maxDepth < t.depth + 1 := by omega
  exact decide_eq_false hlevel

/-- A leaf within the limit is answered as the schema does. -/
theorem translate_eq_of_isLeaf (hp : p.isLeaf = true) (h : t.Reaches p) :
    t.translate context p = ((t.schema.answer context p).1, t.after (t.schema.answer context p).2) := by
  have hdepth : p.depth = 0 + 1 := by cases p <;> simp_all [Predicate.isLeaf, Predicate.depth]
  rw [Reaches, hdepth] at h
  have hback := leave_note_of_enter t true (t.schema.translateLeaf context p)
  rw [after_true, Bool.true_and] at hback
  rw [translate_of_isLeaf hp, not_tooDeep_enter h, if_neg Bool.false_ne_true, hback,
    Schema.answer_of_isLeaf hp]

mutual

/-- **Within its limit a translator does what needs no level and no state**: it answers as the schema
does, and its flag drops when something was left behind. -/
theorem translate_eq : ∀ {t : Translator} {context : String} {p : Predicate}, t.Reaches p →
    t.translate context p = ((t.schema.answer context p).1, t.after (t.schema.answer context p).2)
  | t, context, .joined junction parts, h => by
      rw [Reaches, Predicate.depth] at h
      have hparts : t.enter.translateParts context parts = _ :=
        translateParts_eq (by simp only [enter]; omega)
      simp only [translate, not_tooDeep_enter h, Bool.false_eq_true, if_false, hparts, Schema.answer]
      rw [leave_note_of_enter]
      rfl
  | t, context, .member field inner, h => by
      rw [Reaches, Predicate.depth] at h
      have hinner : t.enter.translate (Path.under context field) inner = _ :=
        translate_eq (by simp only [Reaches, enter]; omega)
      simp only [translate, not_tooDeep_enter h, Bool.false_eq_true, if_false, hinner, Schema.answer]
      rw [leave_note_of_enter]
      -- a member condition adds nothing to the flag of what it asks of the member
      have hflag : ∀ a : Except Error (Option Clause) × Bool, (a.2 = true → leavesNothing a.1 = true) →
          (a.2 && leavesNothing a.1) = a.2 := by
        rintro ⟨found, pushed⟩ hfound
        cases pushed <;> simp_all
      exact congrArg (fun pushed => (_, t.after pushed)) (hflag _ Schema.leavesNothing_of_answer)
  | t, context, .compare .., h | t, context, .among .., h | t, context, .isNull _, h
  | t, context, .notNull _, h | t, context, .like .., h | t, context, .spatial .., h
  | t, context, .unknown _, h => translate_eq_of_isLeaf rfl h

/-- Several predicates one after the other, within the limit. -/
theorem translateParts_eq : ∀ {t : Translator} {context : String} {parts : List Predicate},
    t.depth + Predicate.depthOfParts parts ≤ t.maxDepth →
    t.translateParts context parts =
      ((t.schema.answers context parts).1, t.after (t.schema.answers context parts).2)
  | t, context, [], _ => by rw [translateParts, Schema.answers, after_true]
  | t, context, p :: rest, h => by
      rw [Predicate.depthOfParts] at h
      have hp : t.translate context p = _ := translate_eq (by rw [Reaches]; omega)
      rw [translateParts, hp, Schema.answers]
      rcases t.schema.answer context p with ⟨e | c, pushed⟩
      · rfl
      · have hrest : (t.after pushed).translateParts context rest = _ :=
          translateParts_eq (by simp only [after]; omega)
        simp only [hrest, after_schema, after_after]
        rcases t.schema.answers context rest with ⟨e | cs, more⟩ <;> rfl

end

/-- **Predicates with the same full paths are translated alike**: the same clause or failure, and the
same translator afterwards. -/
theorem translate_congr {parts parts' : List String} (hp : t.Reaches p) (hq : t.Reaches q)
    (h : p.qualified parts = q.qualified parts') :
    t.translate (Path.join parts) p = t.translate (Path.join parts') q := by
  rw [translate_eq hp, translate_eq hq, ← Schema.answer_qualified, ← Schema.answer_qualified, h]

/-! ## Conditions by column -/

/-- Conditions by column come to what the same conditions come to beneath members. -/
theorem translateColumns_eq : ∀ {t : Translator} {items : List (String × Predicate)},
    (∀ item ∈ items, t.Reaches item.2) →
    translateColumns t items =
      let found := t.schema.answers ""
        (items.map fun (name, p) => .member (t.schema.pathOf name) p)
      (found.1.map (·.filterMap id), t.after found.2)
  | t, [], _ => by
      simp only [translateColumns, List.map_nil, Schema.answers, after_true]
      rfl
  | t, (name, p) :: rest, h => by
      rw [List.forall_mem_cons] at h
      rw [translateColumns, translate_eq h.1, List.map_cons, Schema.answers, Schema.answer,
        Path.under_empty]
      rcases t.schema.answer (t.schema.pathOf name) p with ⟨e | c, pushed⟩
      · rfl
      · have hrest : translateColumns (t.after pushed) rest = _ := translateColumns_eq h.2
        simp only [hrest, after_schema, after_after]
        rcases t.schema.answers "" _ with ⟨e | cs, more⟩
        · rfl
        · cases c <;> rfl

end Translator

/-- What one predicate is translated to at a path, and whether rows need not be checked again. -/
def Schema.translation (s : Schema) (path : String) (p : Predicate) : Except Error Translation :=
  let (found, t) := Translator.translate { schema := s } path p
  found.map fun clause => ⟨clause, t.fullyPushed⟩

/-- **Conjunction of translations**: the conditions by column, whose own clauses are given, and then a
condition on the row. The first failure stands for all of it. -/
inductive Conjoins (own : Except Error (List Clause)) : Except Error Translation →
    Except Error Translation → Except Error Translation → Prop where
  | columnFails (e : Error) (row : Except Error Translation) :
      Conjoins own (.error e) (.error e) row
  | rowFails (columns : Translation) (e : Error) : Conjoins own (.error e) (.ok columns) (.error e)
  | both {clauses : List Clause} (h : own = .ok clauses) (clause : Option Clause) (pushed pushed' : Bool) :
      Conjoins own (.ok ⟨joinClauses .all (clauses ++ clause.toList), pushed && pushed'⟩)
        (.ok ⟨joinClauses .all clauses, pushed⟩) (.ok ⟨clause, pushed'⟩)

/-- Joined clauses are true together, and nothing is true of every document. -/
theorem Valuation.all_joinClauses (v : Valuation) (clauses : List Clause) :
    (joinClauses .all clauses).all v.sent = clauses.all v.sent := by
  cases hjoin : joinClauses .all clauses with
  | none => rw [joinClauses_eq_none.1 hjoin, Option.all_none, List.all_nil]
  | some c =>
      rw [Option.all_some, v.sent_joinClauses hjoin, Junction.truth, List.all_map]
      rfl

/-- A conjunction of translations is true where both are. -/
theorem Conjoins.all_sent {own : Except Error (List Clause)} {whole columns row : Translation}
    (h : Conjoins own (.ok whole) (.ok columns) (.ok row)) (v : Valuation) :
    whole.clause.all v.sent = (columns.clause.all v.sent && row.clause.all v.sent) := by
  cases h with
  | both hown clause =>
      simp only [v.all_joinClauses, List.all_append]
      cases clause <;> simp

namespace Schema

variable {s : Schema}

/-- When every column stands at its name, so does every name. -/
theorem pathOf_eq (h : ∀ c ∈ s.columns, c.path = c.name) (name : String) : s.pathOf name = name := by
  rw [pathOf]
  cases hfind : s.findColumn? name with
  | none => rfl
  | some c =>
      rw [findColumn?] at hfind
      have hname : c.name = name := by simpa using List.find?_some hfind
      exact (h c (List.mem_reverse.1 (List.mem_of_find?_eq_some hfind))).trans hname

/-- A filter on the whole row is translated where its empty name stands. -/
theorem translateFilters_row (s : Schema) (p : Predicate) :
    translateFilters (.row p) s = s.translation (s.pathOf "") p := by
  rw [translateFilters, translation, Filters.items, translateColumns]
  rcases Translator.translate { schema := s } (s.pathOf "") p with ⟨e | c, t⟩
  · rfl
  · cases c <;> rfl

/-- Filters by column together with a condition are one predicate: a conjunction of what is asked at
the path of each column, and the condition. -/
theorem with_columns (s : Schema) (items : List (String × Predicate)) (condition : Predicate) :
    (Filters.columns items).with condition s = .row (.joined .all
      (items.map (fun (name, p) => .member (s.pathOf name) p) ++ [condition])) := rfl

/-- Within the limit, the translation of a predicate is what it comes to. -/
theorem translation_eq {p : Predicate} (h : ({ schema := s } : Translator).Reaches p) (path : String) :
    s.translation path p = (s.answer path p).1.map fun clause => ⟨clause, (s.answer path p).2⟩ := by
  rw [translation, Translator.translate_eq h]
  simp only [Translator.after_fullyPushed, Bool.true_and]

/-- A conjunction whose last part left nothing behind has a clause. -/
theorem leavesNothing_joinParts {cs : List (Option Clause)} {c : Option Clause}
    (h : leavesNothing (.ok c) = true) : leavesNothing (.ok (joinParts .all (cs ++ [c]))) = true := by
  cases c with
  | none => cases h
  | some c =>
      have hne : (cs ++ [some c]).filterMap id ≠ [] := by simp
      cases hjoin : joinParts .all (cs ++ [some c]) with
      | none =>
          rw [joinParts, if_neg (fun h => absurd h.1 (by decide))] at hjoin
          exact absurd (joinClauses_eq_none.1 hjoin) hne
      | some _ => rfl

/-- **Filters by column with a condition come to the conjunction of both.** -/
theorem conjoins_with {items : List (String × Predicate)} {condition tree : Predicate}
    (htree : (Filters.columns items).with condition s = .row tree)
    (hreach : ({ schema := s } : Translator).Reaches tree) :
    Conjoins (translateColumns { schema := s } items).1 (s.translation "" tree)
      (translateFilters (.columns items) s) (s.translation "" condition) := by
  rw [with_columns] at htree
  obtain rfl := Filters.row.inj htree
  have hparts := Translator.reaches_fresh_iff.1 hreach
  rw [Predicate.depth] at hparts
  have hdepth : ∀ p ∈ items.map (fun (name, p) => Predicate.member (s.pathOf name) p) ++ [condition],
      p.depth ≤ 99 := Predicate.depthOfParts_le_iff.1 (by omega)
  rw [List.forall_mem_append, List.forall_mem_map, List.forall_mem_singleton] at hdepth
  have hitems : ∀ item ∈ items, ({ schema := s } : Translator).Reaches item.2 := by
    intro item hitem
    have hmember := hdepth.1 item hitem
    rw [Predicate.depth] at hmember
    exact Translator.reaches_fresh_iff.2 (by omega)
  have hcondition : ({ schema := s } : Translator).Reaches condition :=
    Translator.reaches_fresh_iff.2 (by omega)
  rw [translateFilters, Filters.items, Translator.translateColumns_eq hitems, translation_eq hreach,
    translation_eq hcondition, answer, answers_append, answers, answers]
  rcases s.answers "" _ with ⟨e | cs, pushed⟩
  · exact .columnFails e _
  · have hrow : (s.answer "" condition).2 = true → leavesNothing (s.answer "" condition).1 = true :=
      leavesNothing_of_answer
    rcases hcome : s.answer "" condition with ⟨e | c, pushed'⟩
    · exact .rowFails _ e
    · rw [hcome] at hrow
      -- a condition that left nothing behind has a clause, and so has the conjunction
      have hflag : ((pushed && (pushed' && true)) && leavesNothing (.ok (joinParts .all (cs ++ [c])))) =
          (pushed && pushed') := by
        cases pushed' with
        | false => simp
        | true => simp [leavesNothing_joinParts (hrow rfl)]
      have hjoin : joinParts .all (cs ++ [c]) = joinClauses .all (cs.filterMap id ++ c.toList) := by
        rw [joinParts, if_neg (fun h => absurd h.1 (by decide)), List.filterMap_append]
        cases c <;> rfl
      have hown : (Except.ok (cs.filterMap id) : Except Error _) = .ok (cs.filterMap id) := rfl
      have hboth := Conjoins.both hown c pushed pushed'
      rw [← hflag, ← hjoin] at hboth
      simpa [Except.map] using hboth

/-- **Translation depends on full paths only.** Predicates in contexts come to the same clause or
failure, and leave the translator in the same state, when they are the same once qualified and nest
within the limit. So filters by column with a condition come to the conjunction of what the filters
and the condition come to alone, with one flag for both; and this is how the filters of a scan are
translated whenever the empty name is the top of the table, as it is in every schema that was
resolved. -/
theorem translation_of_full_paths (s : Schema) :
    (∀ {t : Translator} {context context' : String} {p q : Predicate}, t.schema = s →
      t.Reaches p → t.Reaches q → p.qualified [context] = q.qualified [context'] →
      t.translate context p = t.translate context' q) ∧
    (∀ {items : List (String × Predicate)} {condition tree : Predicate},
      (Filters.columns items).with condition s = .row tree →
      ({ schema := s } : Translator).Reaches tree →
      Conjoins (translateColumns { schema := s } items).1 (s.translation "" tree)
          (translateFilters (.columns items) s) (s.translation "" condition) ∧
        (s.pathOf "" = "" →
          Conjoins (translateColumns { schema := s } items).1
            (translateFilters ((Filters.columns items).with condition s) s)
            (translateFilters (.columns items) s) (translateFilters (.row condition) s))) ∧
    (∀ {τ : Type} {service : ClusterService τ} {index : String} {baseQuery : Option Json}
      {settings : ScanSettings} {state later : τ},
      resolveSchema service index baseQuery settings state = (.ok s, later) → s.pathOf "" = "") := by
  refine ⟨?_, ?_, ?_⟩
  · rintro t context context' p q rfl hp hq h
    have hsame := Translator.translate_congr hp hq h
    rwa [Path.join_singleton, Path.join_singleton] at hsame
  · intro items condition tree htree hreach
    have hconjoins := conjoins_with htree hreach
    refine ⟨hconjoins, fun htop => ?_⟩
    rwa [htree, translateFilters_row, translateFilters_row, htop]
  · intro τ service index baseQuery settings state later h
    exact pathOf_eq (path_eq_name_of_resolveSchema h) ""

/-- A name that is matched on its companion, once as the member of a column and once by its full path. -/
theorem translation_of_full_paths_companion :
    let s : Schema :=
      { columns := [{ name := "who", path := "user", type := .struct [("name", .varchar)] }]
        fullTextPaths := ["user.name"], companions := [("user.name", "user.name.raw")] }
    let t : Translator := { schema := s }
    let p : Predicate := .member "name" (.compare .eq "" (.str "x"))
    let q : Predicate := .compare .eq "user.name" (.str "x")
    let tree : Predicate := .joined .all [.member "user" p, .isNull "age"]
    (t.Reaches p ∧ t.Reaches q ∧ p.qualified ["user"] = q.qualified [""] ∧
      (Filters.columns [("who", p)]).with (.isNull "age") s = .row tree ∧ t.Reaches tree ∧
      s.pathOf "" = "") ∧
    t.translate "user" p = t.translate "" q ∧
    Conjoins (.ok [.term "user.name.raw" (.str "x") false])
      (translateFilters (.row tree) s) (translateFilters (.columns [("who", p)]) s)
      (translateFilters (.row (.isNull "age")) s) := by
  intro s t p q tree
  have hp : t.Reaches p := Translator.reaches_fresh_iff.2 (by decide)
  have hq : t.Reaches q := Translator.reaches_fresh_iff.2 (by decide)
  have hqualified : p.qualified ["user"] = q.qualified [""] := by rfl
  have htree : (Filters.columns [("who", p)]).with (.isNull "age") s = .row tree := by rfl
  have hreach : t.Reaches tree := Translator.reaches_fresh_iff.2 (by decide)
  have htop : s.pathOf "" = "" := by rfl
  obtain ⟨hsame, hconjoins, -⟩ := translation_of_full_paths s
  have hown : (translateColumns t [("who", p)]).1 = .ok [.term "user.name.raw" (.str "x") false] := by
    rfl
  have hscan := (hconjoins htree hreach).2 htop
  rw [htree, hown] at hscan
  exact ⟨⟨hp, hq, hqualified, htree, hreach, htop⟩, hsame rfl hp hq hqualified, hscan⟩

end Schema

end SearchTables
