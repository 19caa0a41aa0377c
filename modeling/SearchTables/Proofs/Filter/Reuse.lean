import SearchTables.Proofs.Filter.Depth

/-! # Reuse — one translator for several predicates

A failure ends its own call only, and the translator goes on with the next predicate. `Translator.run`
is such a use. Every call leaves the translator at the level where it was, except one that fails for
its depth: the level that was one too many is not left again (`Translator.exists_translate_eq_sink`).
A translator that lost levels answers like a new one whose limit is lower by as many
(`Translator.translate_sunk`). So after a failure for depth it refuses more for their depth, and
everything else is answered as before (`Translator.translate_after_run`). -/

namespace SearchTables

/-! ## Failures for depth -/

/-- How many levels a failure costs a translator: one if it is for depth. -/
def Error.levelsLost : Error → Nat
  | .predicateTooDeep _ => 1
  | _ => 0

/-- How many levels an answer costs the translator that gave it. -/
def levelsLost {α : Type} : Except Error α → Nat
  | .error e => e.levelsLost
  | .ok _ => 0

/-- A failure in the words of a translator with another limit. -/
def Error.withLimit (limit : Int) : Error → Error
  | .predicateTooDeep _ => .predicateTooDeep limit
  | e => e

section

variable {α β : Type}

/-- A changed answer costs as much. -/
@[simp] theorem levelsLost_map (x : Except Error α) (f : α → β) : levelsLost (x.map f) = levelsLost x := by
  cases x <;> rfl

/-- What does not fail for its depth costs no level. -/
theorem Shallow.levelsLost_eq_zero {x : Except Error α} (h : Shallow x) : levelsLost x = 0 := by
  cases x with
  | error e =>
      have hfamily := h e rfl
      cases e <;> first | rfl | exact absurd rfl hfamily
  | ok a => rfl

/-- A failure for another reason than depth is worded alike under every limit. -/
theorem Error.withLimit_of_family {limit : Int} {e : Error} (h : e.family ≠ .depth) :
    e.withLimit limit = e := by
  unfold withLimit
  split
  · exact absurd rfl h
  · rfl

/-- The failure of an answer in other words. -/
theorem failure?_mapError (x : Except Error α) (f : Error → Error) :
    failure? (x.mapError f) = (failure? x).map f := by
  cases x <;> rfl

/-- Answers are the same when they have the same failure, or the same value where they have none. -/
theorem eq_of_failure?_eq {x y : Except Error α} (hfailure : failure? x = failure? y)
    (hvalue : failure? x = none → x = y) : x = y := by
  cases x with
  | error e => exact (failure?_eq_some.1 hfailure.symm).symm
  | ok a => exact hvalue rfl

end

/-! ## Where a call leaves its translator -/

namespace Translator

variable {t : Translator} {context : String} {p : Predicate}

/-- A translator that did not come back up from some levels. -/
def sink (t : Translator) (levels : Nat) : Translator := { t with depth := t.depth + levels }

@[simp] theorem sink_schema (levels : Nat) : (t.sink levels).schema = t.schema := rfl

@[simp] theorem sink_maxDepth (levels : Nat) : (t.sink levels).maxDepth = t.maxDepth := rfl

@[simp] theorem sink_depth (levels : Nat) : (t.sink levels).depth = t.depth + levels := rfl

@[simp] theorem sink_fullyPushed (levels : Nat) : (t.sink levels).fullyPushed = t.fullyPushed := rfl

@[simp] theorem sink_zero : t.sink 0 = t := by simp [sink]

/-- Levels that are lost one after the other. -/
@[simp] theorem sink_sink (levels more : Nat) : (t.sink levels).sink more = t.sink (levels + more) := by
  simp [sink, Int.add_assoc]

/-- The flag has nothing to do with the level. -/
@[simp] theorem after_sink (levels : Nat) (pushed : Bool) :
    (t.sink levels).after pushed = (t.after pushed).sink levels := rfl

/-- Going down a level and not coming back up. -/
theorem enter_eq_sink : t.enter = (t.after true).sink 1 := by
  rw [after_true]
  rfl

/-- Coming back up one level with an answer, where some levels below were lost. -/
theorem leave_note_of_sunk (pushed : Bool) (levels : Nat) (found : Except Error (Option Clause)) :
    ((t.enter.after pushed).sink levels).leave.note found =
      (t.after (pushed && leavesNothing found)).sink levels := by
  have hup : ((t.enter.after pushed).sink levels).leave = ((t.enter.after pushed).leave).sink levels := by
    simp only [leave, sink, after, enter, mk.injEq, true_and, and_true]
    omega
  rw [hup, ← leave_note_of_enter]
  rcases found with e | - | c <;> rfl

/-- A leaf costs a level when it stands too deep. -/
theorem exists_translate_eq_sink_of_isLeaf (hp : p.isLeaf = true) :
    ∃ pushed, (t.translate context p).2 = (t.after pushed).sink (levelsLost (t.translate context p).1) := by
  rw [translate_of_isLeaf hp]
  split
  · exact ⟨true, enter_eq_sink⟩
  · have hshallow : levelsLost (t.schema.translateLeaf context p) = 0 :=
      (t.schema.shallow_translateLeaf context p).levelsLost_eq_zero
    refine ⟨leavesNothing (t.schema.translateLeaf context p), ?_⟩
    have hback := leave_note_of_enter t true (t.schema.translateLeaf context p)
    rw [after_true, Bool.true_and] at hback
    rw [hback, hshallow, sink_zero]

mutual

/-- **A call leaves its translator where it was, but for its flag and for the level that a failure for
depth costs**, whatever the predicate and wherever it fails. A failure inside passes through every
level above it, and each of them is left. -/
theorem exists_translate_eq_sink : ∀ (t : Translator) (context : String) (p : Predicate),
    ∃ pushed, (t.translate context p).2 = (t.after pushed).sink (levelsLost (t.translate context p).1)
  | t, context, .joined junction parts => by
      obtain ⟨pushed, hparts⟩ := exists_translateParts_eq_sink t.enter context parts
      rw [translate]
      split
      · exact ⟨true, enter_eq_sink⟩
      · simp only [hparts, leave_note_of_sunk, levelsLost_map]
        exact ⟨_, rfl⟩
  | t, context, .member field inner => by
      obtain ⟨pushed, hinner⟩ := exists_translate_eq_sink t.enter (Path.under context field) inner
      rw [translate]
      split
      · exact ⟨true, enter_eq_sink⟩
      · simp only [hinner, leave_note_of_sunk]
        exact ⟨_, rfl⟩
  | _, _, .compare .. | _, _, .among .. | _, _, .isNull _ | _, _, .notNull _ | _, _, .like ..
  | _, _, .spatial .. | _, _, .unknown _ => exists_translate_eq_sink_of_isLeaf rfl

/-- Several predicates leave the translator where it was, but for the same. -/
theorem exists_translateParts_eq_sink : ∀ (t : Translator) (context : String) (parts : List Predicate),
    ∃ pushed, (t.translateParts context parts).2 =
      (t.after pushed).sink (levelsLost (t.translateParts context parts).1)
  | t, _, [] => ⟨true, by simp [translateParts, levelsLost]⟩
  | t, context, p :: rest => by
      obtain ⟨pushed, hp⟩ := exists_translate_eq_sink t context p
      rw [translateParts]
      rcases htranslate : t.translate context p with ⟨e | c, u⟩ <;> rw [htranslate] at hp
      · exact ⟨pushed, hp⟩
      · -- a part that did not fail lost no level, so the others start where it did
        obtain rfl : u = t.after pushed := hp.trans sink_zero
        obtain ⟨more, hrest⟩ := exists_translateParts_eq_sink (t.after pushed) context rest
        rw [after_after] at hrest
        refine ⟨pushed && more, ?_⟩
        rcases hothers : (t.after pushed).translateParts context rest with ⟨e | cs, w⟩ <;>
          simp only [hothers] at hrest ⊢ <;> exact hrest

end

end Translator

/-! ## What a translator answers that lost levels -/

namespace Predicate

mutual

/-- The places of a predicate that stands deeper are its places, each of them as much deeper. -/
theorem places_add (levels : Nat) : ∀ (level : Nat) (context : String) (p : Predicate),
    p.places (level + levels) context = (p.places level context).map fun place => (place.1 + levels, place.2)
  | level, context, .joined junction parts => by
      rw [places, places, List.map_cons, ← placesOfParts_add levels (level + 1) context parts,
        Nat.add_right_comm]
  | level, context, .member field inner => by
      rw [places, places, List.map_cons, ← places_add levels (level + 1) _ inner, Nat.add_right_comm]
  | _, _, .compare .. | _, _, .among .. | _, _, .isNull _ | _, _, .notNull _ | _, _, .like ..
  | _, _, .spatial .. | _, _, .unknown _ => rfl

/-- So are the places of several predicates. -/
theorem placesOfParts_add (levels : Nat) : ∀ (level : Nat) (context : String) (parts : List Predicate),
    placesOfParts (level + levels) context parts =
      (placesOfParts level context parts).map fun place => (place.1 + levels, place.2)
  | _, _, [] => rfl
  | level, context, p :: rest => by
      rw [placesOfParts, placesOfParts, List.map_append, ← places_add levels level context p,
        ← placesOfParts_add levels level context rest]

end

end Predicate

namespace Schema

variable {s : Schema}

/-- **A place that stands deeper fails as it does under a lower limit**, in the words of its own. -/
theorem placeFailure?_add (limit : Int) (levels : Nat) (place : Nat × String × Predicate) :
    s.placeFailure? limit (place.1 + levels, place.2) =
      (s.placeFailure? (limit - levels) place).map (Error.withLimit limit) := by
  obtain ⟨level, context, p⟩ := place
  simp only [placeFailure?]
  by_cases hdeep : limit - levels < level
  · rw [if_pos hdeep, if_pos (by push_cast; omega)]
    rfl
  · rw [if_neg hdeep, if_neg (by push_cast; omega)]
    -- a leaf does not look at the level, and its failures do not name the limit
    have hshallow := s.shallow_translateLeaf context p
    cases hleaf : s.translateLeaf context p with
    | ok c => rfl
    | error e => exact congrArg some (Error.withLimit_of_family (hshallow e hleaf)).symm

/-- A place that stands deeper fails as it does, or for its level. -/
theorem placeFailure?_add_eq_or (s : Schema) (limit : Int) (levels : Nat)
    (place : Nat × String × Predicate) :
    s.placeFailure? limit (place.1 + levels, place.2) = s.placeFailure? limit place ∨
      0 < levels ∧ s.placeFailure? limit (place.1 + levels, place.2) = some (.predicateTooDeep limit) := by
  obtain ⟨level, context, p⟩ := place
  simp only [placeFailure?]
  by_cases hdeep : limit < level
  · rw [if_pos hdeep, if_pos (by push_cast; omega)]
    exact .inl rfl
  by_cases hlost : limit < (level + levels : Nat)
  · exact .inr ⟨by omega, if_pos hlost⟩
  · rw [if_neg hdeep, if_neg hlost]
    exact .inl rfl

end Schema

/-- A search for the first of something, where some items may all give the same instead. -/
theorem findSome?_eq_or {α β : Type} {f g : α → Option β} {b : β} {P : Prop}
    (h : ∀ a, f a = g a ∨ P ∧ f a = some b) (items : List α) :
    items.findSome? f = items.findSome? g ∨ P ∧ items.findSome? f = some b := by
  induction items with
  | nil => exact .inl rfl
  | cons a rest ih =>
      rw [List.findSome?_cons, List.findSome?_cons]
      rcases h a with ha | ⟨hP, ha⟩
      · rw [ha]
        cases g a with
        | some c => exact .inl rfl
        | none => exact ih
      · exact .inr ⟨hP, by rw [ha]⟩

namespace Translator

variable {t : Translator} {s : Schema} {limit : Int} {levels : Nat} {context : String} {p : Predicate}

/-- A new translator. -/
def fresh (s : Schema) (limit : Int) : Translator := { schema := s, maxDepth := limit }

/-- The first level of a new translator. -/
theorem depth_fresh (s : Schema) (limit : Int) : (fresh s limit).depth + 1 = (1 : Nat) := rfl

/-- A translation that succeeds went no deeper than the limit. -/
theorem reaches_of_failure?_eq_none {level : Nat} (hlevel : t.depth = level)
    (h : failure? (t.translate context p).1 = none) : t.Reaches p := by
  have hbelow : t.depth + 1 = (level + 1 : Nat) := by omega
  rw [failure?_translate hbelow, List.findSome?_eq_none_iff] at h
  have hplaces : ∀ place ∈ p.places (level + 1) context, place.1 ≤ t.maxDepth := by
    intro place hplace
    by_contra hdeep
    have hnone := h place hplace
    rw [Schema.placeFailure?, if_pos (by omega)] at hnone
    cases hnone
  have hdepth := (Predicate.places_le_iff t.maxDepth level context p).1 hplaces
  rw [Reaches, hlevel]
  exact hdepth

/-- Within its limit a translator that lost levels answers as a new one does. -/
theorem translate_sunk_of_le (ht : t.schema = s) (hmax : t.maxDepth = limit) (hdepth : t.depth = levels)
    (h : p.depth + levels ≤ limit) :
    (t.translate context p).1 = ((fresh s limit).translate context p).1 := by
  have hsunk : t.Reaches p := by rw [Reaches, hdepth, hmax]; omega
  have hfresh : (fresh s limit).Reaches p := by simp only [Reaches, fresh]; omega
  rw [translate_eq hsunk, translate_eq hfresh, ht]
  rfl

/-- **A translator that lost levels answers like a new one with as much less to go**, in the words of
its own limit. -/
theorem translate_sunk (ht : t.schema = s) (hmax : t.maxDepth = limit) (hdepth : t.depth = levels) :
    (t.translate context p).1 =
      ((fresh s (limit - levels)).translate context p).1.mapError (Error.withLimit limit) := by
  subst ht hmax
  have hbelow : t.depth + 1 = (1 + levels : Nat) := by omega
  have hfirst : failure? (t.translate context p).1 = (failure?
      ((fresh t.schema (t.maxDepth - levels)).translate context p).1).map (Error.withLimit t.maxDepth) := by
    rw [failure?_translate hbelow, failure?_translate (depth_fresh ..), Predicate.places_add,
      List.findSome?_map]
    simp only [Function.comp_def, Schema.placeFailure?_add]
    exact (List.map_findSome? ..).symm
  refine eq_of_failure?_eq (hfirst.trans (failure?_mapError _ _).symm) fun hnone => ?_
  -- both go as deep as the predicate nests
  have hsunk := reaches_of_failure?_eq_none hdepth hnone
  have hless : (fresh t.schema (t.maxDepth - levels)).Reaches p := by
    rw [Reaches, hdepth] at hsunk
    simp only [Reaches, fresh]
    omega
  rw [translate_eq hsunk] at hnone ⊢
  rw [translate_eq hless]
  obtain ⟨c, hc⟩ := failure?_eq_none.1 hnone
  have hless' : ((fresh t.schema (t.maxDepth - levels)).schema.answer context p).1 = .ok c := hc
  rw [hc, hless']
  rfl

/-- **Levels that were lost only make a translator refuse more for its depth.** -/
theorem translate_sunk_eq_or (ht : t.schema = s) (hmax : t.maxDepth = limit) (hdepth : t.depth = levels) :
    (t.translate context p).1 = ((fresh s limit).translate context p).1 ∨
      0 < levels ∧ (t.translate context p).1 = .error (.predicateTooDeep limit) := by
  subst ht hmax
  have hbelow : t.depth + 1 = (1 + levels : Nat) := by omega
  have hsunk : failure? (t.translate context p).1 = _ := failure?_translate hbelow
  have hfresh : failure? ((fresh t.schema t.maxDepth).translate context p).1 = _ :=
    failure?_translate (depth_fresh ..)
  rw [Predicate.places_add, List.findSome?_map] at hsunk
  rcases findSome?_eq_or (fun place => t.schema.placeFailure?_add_eq_or t.maxDepth levels place)
    (p.places 1 context) with hsame | ⟨hlost, hdeep⟩
  · -- the failures are the same, and where there is none the predicate nests within what is left
    refine .inl (eq_of_failure?_eq (hsunk.trans (hsame.trans hfresh.symm)) fun hnone => ?_)
    have hreach := reaches_of_failure?_eq_none hdepth hnone
    rw [Reaches, hdepth] at hreach
    exact translate_sunk_of_le rfl rfl hdepth (by omega)
  · exact .inr ⟨hlost, failure?_eq_some.1 (hsunk.trans hdeep)⟩

/-! ## Runs -/

/-- Translate one predicate after the other with one translator, whether or not they fail. -/
def run (t : Translator) : List (String × Predicate) → List (Except Error (Option Clause)) × Translator
  | [] => ([], t)
  | (context, p) :: rest =>
      let (answer, t) := t.translate context p
      let (answers, t) := run t rest
      (answer :: answers, t)

/-- How many levels several answers cost the translator that gave them. -/
def levelsLostByAll : List (Except Error (Option Clause)) → Nat
  | [] => 0
  | answer :: rest => levelsLost answer + levelsLostByAll rest

/-- **A run leaves its translator where it was, but for its flag and for the levels that its failures
for depth cost.** The induction is on the calls. -/
theorem exists_run_eq_sink (t : Translator) (calls : List (String × Predicate)) :
    ∃ pushed, (t.run calls).2 = (t.after pushed).sink (levelsLostByAll (t.run calls).1) := by
  induction calls generalizing t with
  | nil => exact ⟨true, by simp [run, levelsLostByAll]⟩
  | cons call rest ih =>
      obtain ⟨context, p⟩ := call
      obtain ⟨pushed, hcall⟩ := t.exists_translate_eq_sink context p
      obtain ⟨more, hrest⟩ := ih (t.translate context p).2
      refine ⟨pushed && more, ?_⟩
      simp only [run, levelsLostByAll]
      rw [hrest, hcall, after_sink, after_after, sink_sink]

/-- **A translator in use answers like a new one with a lower limit**: each failure for depth among
the answers that it gave costs a level. So it answers as a new one with its own limit does, or it lost
levels and refuses the predicate for its depth; and what nests no deeper than is left, it answers as a
new one. Its flag never rises. -/
theorem translate_after_run (s : Schema) (limit : Int) (earlier : List (String × Predicate))
    (context : String) (p : Predicate) :
    let (answers, t) := (fresh s limit).run earlier
    let lost := levelsLostByAll answers
    let alone := ((fresh s limit).translate context p).1
    let (answer, after) := t.translate context p
    answer = ((fresh s (limit - lost)).translate context p).1.mapError (Error.withLimit limit) ∧
      (answer = alone ∨ 0 < lost ∧ answer = .error (.predicateTooDeep limit)) ∧
      (p.depth + lost ≤ limit → answer = alone) ∧
      (after.fullyPushed = true → t.fullyPushed = true) := by
  -- what came before leaves its mark on the depth and the flag only
  obtain ⟨pushed, ht⟩ := (fresh s limit).exists_run_eq_sink earlier
  have hdepth : ((fresh s limit).run earlier).2.depth =
      levelsLostByAll ((fresh s limit).run earlier).1 := by
    rw [ht, sink_depth]
    exact Int.zero_add _
  have hschema : ((fresh s limit).run earlier).2.schema = s := by
    rw [ht, sink_schema]
    rfl
  have hmax : ((fresh s limit).run earlier).2.maxDepth = limit := by
    rw [ht, sink_maxDepth]
    rfl
  refine ⟨translate_sunk hschema hmax hdepth, translate_sunk_eq_or hschema hmax hdepth,
    translate_sunk_of_le hschema hmax hdepth, fun hpushed => ?_⟩
  obtain ⟨more, hafter⟩ := ((fresh s limit).run earlier).2.exists_translate_eq_sink context p
  rw [hafter, sink_fullyPushed, after_fullyPushed] at hpushed
  exact (Bool.and_eq_true_iff.1 hpushed).1

/-- A conjunction of one test, which needs two levels. -/
private def oneTest : Predicate := .joined .all [.isNull "a"]

/-- With two levels, a test is still answered after one failure for depth. -/
theorem translate_after_run_isNull :
    let (answers, t) := (fresh { columns := [] } 2).run [("", .joined .all [oneTest])]
    answers = [.error (.predicateTooDeep 2)] ∧
      (t.translate "" (.isNull "a")).1 = .ok (some (.mustNot (.present "a"))) := by
  have h := translate_after_run { columns := [] } 2 [("", .joined .all [oneTest])] "" (.isNull "a")
  exact ⟨rfl, h.2.2.1 (by decide)⟩

/-- **A translator does not survive its failures for depth**: with one level, it refuses a test that it
would have translated before. -/
theorem not_translate_as_fresh :
    ¬ ∀ (s : Schema) (limit : Int) (earlier : List (String × Predicate)) (context : String) (p : Predicate),
        let t := ((fresh s limit).run earlier).2
        (t.translate context p).1 = ((fresh s limit).translate context p).1 ∧
          ((t.translate context p).2.fullyPushed = true → t.fullyPushed = true) := by
  intro h
  have hanswer := (h { columns := [] } 1 [("", oneTest)] "" (.isNull "a")).1
  have hused : ((((fresh { columns := [] } 1).run [("", oneTest)]).2).translate "" (.isNull "a")).1 =
      .error (.predicateTooDeep 1) := rfl
  have hfresh : ((fresh { columns := [] } 1).translate "" (.isNull "a")).1 =
      .ok (some (.mustNot (.present "a"))) := rfl
  rw [hused, hfresh] at hanswer
  cases hanswer

end Translator

end SearchTables
