import SearchTables.Proofs.Expression.Names
import SearchTables.Proofs.Outcome

/-! # Exceeding — where functions and quantifiers fail

Functions have no value on most arguments that do not suit them. They fail only when asked for the whole number
of an infinite double, or for a field of a moment outside the calendar (`Datum.Exceeds`,
`Datum.call_eq_error`). A quantifier fails at the first element for which its body does, if it looks that far
(`Quantifier.run_eq_error`). -/

namespace SearchTables

/-! ## Functions -/

/-- A moment is **outside** the calendar, in universal time or in a zone. -/
def DateTime.Outside (t : DateTime) (zone : Calendar.ZoneRule) : Prop :=
  ofInstant? t.instant = none ∨
    ofInstant? (t.instant + zone.offsetAt (Int.fdiv t.instant 1000000) * 1000000) = none

/-- The field of a datum fails when that is a moment outside the calendar. -/
theorem ClockField.of_eq_error {field : ClockField} {d : Datum} {rest : List Datum} {e : Error} :
    field.of d rest = .error e ↔ e = .outOfRange ∧ ∃ t zone, d = .moment t ∧
      ClockField.zoneOf? rest = some zone ∧ t.isOnEdge = false ∧ t.Outside zone := by
  constructor
  · intro h
    unfold ClockField.of at h
    split at h
    · split at h
      · rename_i t _ zone hzone
        split at h
        · cases h
        · rename_i hedge
          unfold ClockField.ofMoment at h
          dsimp only at h
          split at h
          · cases h
          · rename_i hnone
            refine ⟨(Except.error.inj h).symm, t, zone, rfl, hzone, by simpa using hedge, ?_⟩
            -- if the moment and its local time are both in the calendar, the field has a value
            by_contra hinside
            rw [DateTime.Outside, not_or] at hinside
            obtain ⟨here, hhere⟩ := Option.ne_none_iff_exists'.1 hinside.1
            obtain ⟨there, hthere⟩ := Option.ne_none_iff_exists'.1 hinside.2
            exact hnone here there hhere hthere
      · cases h
    · split at h <;> cases h
    · cases h
  · rintro ⟨rfl, t, zone, rfl, hzone, hedge, houtside⟩
    have hmoment : field.ofMoment t zone = .error .outOfRange := by
      rw [ClockField.ofMoment]
      rcases houtside with hnone | hnone
      · rw [hnone]
      · rw [hnone]
        cases DateTime.ofInstant? t.instant <;> rfl
    unfold ClockField.of
    simp only [hzone, hedge, hmoment]
    rfl

namespace Datum

/-- A datum has no whole number when it is an infinite double. -/
theorem toWhole_eq_error {d : Datum} {e : Error} :
    d.toWhole = .error e ↔ e = .outOfRange ∧ ∃ origin x, d = .double origin x ∧
      truncated? x = none ∧ isNotANumber x = false := by
  constructor
  · intro h
    cases d with
    | double origin x =>
        rw [toWhole] at h
        rcases htruncated : truncated? x with - | n
        · rw [htruncated] at h
          dsimp only at h
          split at h
          · cases h
          · rename_i hnumber
            exact ⟨(Except.error.inj h).symm, origin, x, rfl, htruncated, by simpa using hnumber⟩
        · rw [htruncated] at h
          cases h
    | _ => cases h
  · rintro ⟨rfl, origin, x, rfl, htruncated, hnumber⟩
    simp [toWhole, htruncated, hnumber]

/-- A conversion fails when it asks for the whole number of an infinite double. -/
theorem convert_eq_error {name : String} {arguments : List Datum} {e : Error} :
    convert name arguments = .error e ↔ e = .outOfRange ∧ (name = "int" ∨ name = "uint") ∧
      ∃ origin x rest, arguments = .double origin x :: rest ∧ truncated? x = none ∧
        isNotANumber x = false := by
  constructor
  · intro h
    unfold convert at h
    split at h
    · cases h
    split at h
    · cases h
    split at h
    · cases h
    rename_i d rest
    split at h
    · rename_i f hf
      -- of the conversions in the table only two ask for a whole number
      have hloose := mem_of_lookup hf
      simp only [looseConversions, List.mem_cons, Prod.mk.injEq, List.not_mem_nil, or_false] at hloose
      rcases hloose with ⟨hname, rfl⟩ | ⟨hname, rfl⟩ | ⟨-, rfl⟩ | ⟨-, rfl⟩
      · obtain ⟨he, origin, x, rfl, hx⟩ := toWhole_eq_error.1 (map_eq_error.1 h)
        exact ⟨he, .inl hname, origin, x, rest, rfl, hx⟩
      · obtain ⟨he, origin, x, rfl, hx⟩ := toWhole_eq_error.1 (map_eq_error.1 h)
        exact ⟨he, .inr hname, origin, x, rest, rfl, hx⟩
      · cases h
      · cases h
    · cases h
    · cases h
  · rintro ⟨rfl, hname, origin, x, rest, rfl, hx⟩
    have hwhole := toWhole_eq_error.2 ⟨rfl, origin, x, rfl, hx⟩
    rcases hname with rfl | rfl
    · exact map_eq_error.2 hwhole
    · exact map_eq_error.2 hwhole

/-- The arguments of a function **exceed** what it is for. -/
inductive Exceeds (name : String) : List Datum → Prop where
  /-- The double is infinite, and its whole number is asked for. -/
  | whole {origin : Origin} {x : Float} {rest : List Datum} (hname : name = "int" ∨ name = "uint")
      (hinfinite : truncated? x = none) (hnumber : isNotANumber x = false) :
      Exceeds name (.double origin x :: rest)
  /-- The moment is not in the calendar, in universal time or in the zone, and a field of it is asked for. -/
  | field {field : ClockField} {t : DateTime} {rest : List Datum} {zone : Calendar.ZoneRule}
      (hname : ClockField.functions.lookup name = some field)
      (hzone : ClockField.zoneOf? rest = some zone) (hedge : t.isOnEdge = false)
      (houtside : t.Outside zone) :
      Exceeds name (.moment t :: rest)

/-- A form of call is no function with arguments to exceed. -/
theorem Exceeds.ne_form {name : String} {arguments : List Datum} (h : Exceeds name arguments) :
    name ≠ "has" ∧ name ≠ "dyn" := by
  cases h with
  | whole hname => rcases hname with rfl | rfl <;> decide
  | field hname => constructor <;> (rintro rfl; cases hname)

/-- What asks for a field is no function of two data. -/
theorem pairFunctions_of_field : ∀ m ∈ ClockField.functions, pairFunctions.lookup m.1 = none := by
  intro m hm
  simp only [ClockField.functions, List.mem_cons, List.not_mem_nil, or_false] at hm
  rcases hm with rfl | rfl | rfl | rfl | rfl | rfl | rfl | rfl | rfl | rfl <;> rfl

/-- **A function fails when its arguments exceed it.** -/
theorem call_eq_error {name : String} {arguments : List Datum} {e : Error} :
    call name arguments = .error e ↔ e = .outOfRange ∧ Exceeds name arguments := by
  constructor
  · intro h
    have hconvert : ∀ {arguments}, convert name arguments = .error e →
        e = .outOfRange ∧ Exceeds name arguments := by
      intro arguments h
      obtain ⟨he, hname, origin, x, rest, rfl, hinfinite, hnumber⟩ := convert_eq_error.1 h
      exact ⟨he, .whole hname hinfinite hnumber⟩
    unfold call at h
    split at h
    · cases h
    · rename_i d zone field _ hfield
      obtain ⟨he, t, z, rfl, hzone, hedge, houtside⟩ := ClockField.of_eq_error.1 h
      exact ⟨he, .field hfield hzone hedge houtside⟩
    · split at h
      · cases h
      · exact hconvert h
    · exact hconvert h
    · cases h
  · rintro ⟨rfl, h⟩
    cases h with
    | @whole origin x rest hname hinfinite hnumber =>
        have hfails : convert name (.double origin x :: rest) = .error .outOfRange :=
          convert_eq_error.2 ⟨rfl, hname, origin, x, rest, rfl, hinfinite, hnumber⟩
        rcases hname with rfl | rfl <;> rcases rest with - | ⟨b, - | ⟨c, rest⟩⟩ <;> exact hfails
    | @field field t rest zone hname hzone hedge houtside =>
        have hfails : field.of (.moment t) rest = .error .outOfRange :=
          ClockField.of_eq_error.2 ⟨rfl, t, zone, rfl, hzone, hedge, houtside⟩
        -- no function of two arguments goes by the name of a field
        have hnone := pairFunctions_of_field _ (mem_of_lookup hname)
        unfold call
        simp only [hname, hnone]
        exact hfails

/-- A call fails when its arguments have values that exceed the function. -/
theorem callAll_eq_error {name : String} {arguments : List (Option Datum)} {e : Error} :
    callAll name arguments = .error e ↔
      e = .outOfRange ∧ ∃ values, arguments = values.map some ∧ Exceeds name values := by
  rw [callAll]
  constructor
  · intro h
    split at h
    · rename_i values hvalues
      obtain ⟨he, hexceeds⟩ := call_eq_error.1 h
      exact ⟨he, values, mapM_id_eq_some.1 hvalues, hexceeds⟩
    · cases h
  · rintro ⟨he, values, harguments, hexceeds⟩
    rw [mapM_id_eq_some.2 harguments]
    exact call_eq_error.2 ⟨he, hexceeds⟩

end Datum

/-- What a function fails with is a failure of the evaluation. -/
theorem Evaluation.ofFunction_eq_error {x : Except Error (Option Datum)} {e : Error} :
    ofFunction x = .error (.failed e) ↔ x = .error e := by
  cases x <;> simp [ofFunction]

/-! ## Quantifiers -/

namespace Quantifier

/-- Whether a quantifier looks at the next element after its body came to an outcome. -/
def GoesOn (q : Quantifier) (outcome : Evaluation) : Prop :=
  match q with
  | .exists | .all => ∀ e, outcome ≠ .error (.failed e)
  | .existsOne | .filter | .map => ∃ d, outcome = .ok (some d)

variable {body : Datum → Evaluation} {elements : List Datum} {e : Error}

/-- An attempt fails when the body does. -/
theorem attempt_eq_error {d : Datum} :
    attempt body d = .error (.failed e) ↔ body d = .error (.failed e) := by
  rw [attempt]
  split <;> simp_all

/-- An attempt has an outcome unless the body fails. -/
theorem exists_attempt {d : Datum} :
    (∃ v, attempt body d = .ok v) ↔ ∀ e, body d ≠ .error (.failed e) := by
  rw [attempt]
  rcases body d with (- | e) | v <;> simp

/-- Values that are joined fail at the first element for which the body does. The induction is on the
elements. -/
theorem foldWith_eq_error {join : Option Datum → Option Datum → Option Datum} {found : Option Datum} :
    foldWith join body found elements = .error (.failed e) ↔
      ∃ before d after, elements = before ++ d :: after ∧
        (∀ x ∈ before, ∀ e, body x ≠ .error (.failed e)) ∧ body d = .error (.failed e) := by
  induction elements generalizing found with
  | nil => simp [foldWith]
  | cons d rest ih =>
      rw [foldWith, bind_eq_error, attempt_eq_error]
      constructor
      · rintro (h | ⟨v, hv, h⟩)
        · exact ⟨[], d, rest, rfl, by simp, h⟩
        · obtain ⟨before, x, after, rfl, hbefore, hx⟩ := ih.1 h
          refine ⟨d :: before, x, after, rfl, ?_, hx⟩
          exact List.forall_mem_cons.2 ⟨exists_attempt.1 ⟨v, hv⟩, hbefore⟩
      · rintro ⟨before, x, after, heq, hbefore, hx⟩
        cases before with
        | nil =>
            obtain ⟨rfl, rfl⟩ := List.cons.inj heq
            exact .inl hx
        | cons first before =>
            obtain ⟨rfl, rfl⟩ := List.cons.inj heq
            obtain ⟨hfirst, hbefore⟩ := List.forall_mem_cons.1 hbefore
            obtain ⟨v, hv⟩ := exists_attempt.2 hfirst
            exact .inr ⟨v, hv, ih.2 ⟨before, x, after, rfl, hbefore, hx⟩⟩

/-- Values that must all exist fail at the first element for which the body does. The induction is on the
elements. -/
theorem mapAll_eq_error :
    mapAll body elements = .error (.failed e) ↔
      ∃ before d after, elements = before ++ d :: after ∧
        (∀ x ∈ before, ∃ v, body x = .ok (some v)) ∧ body d = .error (.failed e) := by
  induction elements with
  | nil => simp [mapAll]
  | cons d rest ih =>
      rw [mapAll, bind_eq_error]
      constructor
      · rintro (h | ⟨v, hv, h⟩)
        · exact ⟨[], d, rest, rfl, by simp, h⟩
        · cases v with
          | none => cases h
          | some v =>
              obtain ⟨before, x, after, rfl, hbefore, hx⟩ := ih.1 (bind_pure_eq_error.1 h)
              refine ⟨d :: before, x, after, rfl, ?_, hx⟩
              exact List.forall_mem_cons.2 ⟨⟨v, hv⟩, hbefore⟩
      · rintro ⟨before, x, after, heq, hbefore, hx⟩
        cases before with
        | nil =>
            obtain ⟨rfl, rfl⟩ := List.cons.inj heq
            exact .inl hx
        | cons first before =>
            obtain ⟨rfl, rfl⟩ := List.cons.inj heq
            obtain ⟨⟨v, hv⟩, hbefore⟩ := List.forall_mem_cons.1 hbefore
            refine .inr ⟨some v, hv, bind_pure_eq_error.2 ?_⟩
            exact ih.2 ⟨before, x, after, rfl, hbefore, hx⟩

/-- **A quantifier fails at the first element for which its body does**, if it looks that far. -/
theorem run_eq_error {q : Quantifier} :
    q.run elements body = .error (.failed e) ↔
      ∃ before d after, elements = before ++ d :: after ∧ (∀ x ∈ before, q.GoesOn (body x)) ∧
        body d = .error (.failed e) := by
  cases q with
  | «exists» | all => exact foldWith_eq_error
  | existsOne | filter | map => exact bind_pure_eq_error.trans mapAll_eq_error

end Quantifier

end SearchTables
