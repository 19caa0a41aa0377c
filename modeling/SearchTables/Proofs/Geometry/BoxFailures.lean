import SearchTables.Geometry.BoundingBox

/-! # Failures of rectangles — a constant geometry fails as a value does

Reading the box of a constant geometry lapses or fails. The failures are those of the values in it: a
key that is not there, a number out of range, a decimal that is not compared. So none of them is a
failure that this library describes (`Box.not_isDescribed_of_ofGeometry?`), and a geometry is never
mistaken for a wrong filter, a refused field or a predicate that nests too deep. -/

namespace SearchTables.Box

/-- Whether a reading, if it fails, fails as values do. -/
def FailsBare {α : Type} (reading : Reading α) : Prop :=
  ∀ e, reading = .error (.failed e) → e.isDescribed = false

namespace FailsBare

variable {α β : Type}

/-- A value is no failure. -/
theorem ok (a : α) : FailsBare (.ok a) := fun _ h => nomatch h

/-- A lapse is no failure. -/
theorem unsuitable : FailsBare (.error .unsuitable : Reading α) := fun _ h => nomatch h

/-- The failure of a value. -/
theorem failed {e : Error} (h : e.isDescribed = false) :
    FailsBare (.error (.failed e) : Reading α) := by
  rintro e' he'
  obtain rfl := Lapse.failed.inj (Except.error.inj he')
  exact h

/-- Two steps fail as values do when each of them does. -/
theorem bind {reading : Reading α} {next : α → Reading β} (h : FailsBare reading)
    (hnext : ∀ a, FailsBare (next a)) : FailsBare (reading >>= next) := by
  cases reading with
  | ok a => exact hnext a
  | error lapse =>
      intro e he
      obtain rfl := Except.error.inj he
      exact h e rfl

/-- So do as many steps as there are values. -/
theorem mapM {f : α → Reading β} (hf : ∀ a, FailsBare (f a)) (as : List α) : FailsBare (as.mapM f) := by
  induction as with
  | nil => exact ok []
  | cons a as ih =>
      rw [List.mapM_cons]
      exact (hf a).bind fun b => ih.bind fun bs => ok (b :: bs)

end FailsBare

open FailsBare

/-! ## Items -/

/-- An item of a value. -/
theorem failsBare_item (v : Value) (position : Nat) : FailsBare (item v position) := by
  unfold item
  split
  · split <;> first | exact ok _ | exact unsuitable
  · split <;> first | exact ok _ | exact unsuitable
  · split <;> first | exact ok _ | exact unsuitable
  · exact failed rfl
  · split <;> first | exact ok _ | exact failed rfl
  · exact unsuitable

/-- What one sees in a value. -/
theorem failsBare_walk (v : Value) : FailsBare (walk v) := by
  cases v <;> first | exact ok _ | exact unsuitable

/-- The first two items of a value. -/
theorem failsBare_pair (v : Value) : FailsBare (pair v) :=
  (failsBare_item v 0).bind fun _ => (failsBare_item v 1).bind fun _ => ok _

/-- The last item of a value. -/
theorem failsBare_lastItem (v : Value) : FailsBare (lastItem v) := by
  unfold lastItem
  split
  · split <;> first | exact ok _ | exact failed rfl
  · exact failsBare_item _ _

/-- The number of a coordinate. -/
theorem failsBare_coordinate (v : Value) : FailsBare (coordinate v) := by
  unfold coordinate
  split
  · exact ok _
  · split <;> first | exact ok _ | exact failed rfl
  · exact ok _
  · split <;> first | exact ok _ | exact unsuitable
  · split <;> first | exact ok _ | exact unsuitable
  · exact unsuitable

/-! ## Comparisons -/

/-- The equality of two values. The induction is on both, with the items of two lists. -/
theorem failsBare_equal : ∀ a b, FailsBare (equal a b) := by
  -- the equation of the scalars applies past the lists only, which is what its last premise says
  refine equal.induct (fun a b => FailsBare (equal a b)) (fun xs ys => FailsBare (equalItems xs ys))
    ?lists ?lengths ?signaling ?scalars ?same ?different ?ended
  case lists =>
    intro xs ys hlength ih
    rwa [equal, if_pos hlength]
  case lengths =>
    intro xs ys hlength
    rw [equal, if_neg hlength]
    exact ok _
  case signaling =>
    intro a b hlists hsignaling
    rw [equal, if_pos hsignaling]
    · exact failed rfl
    · exact hlists
  case scalars =>
    intro a b hlists hsignaling
    rw [equal, if_neg hsignaling]
    · exact ok _
    · exact hlists
  case same =>
    intro x xs y ys hsame _ ih
    rwa [equalItems, hsame]
  case different =>
    intro x xs y ys hdifferent ih
    rw [equalItems]
    split
    · rename_i hsame
      exact absurd hsame hdifferent
    · exact ih
  case ended =>
    intro xs ys hended
    rw [equalItems]
    · exact ok _
    · exact hended

/-- The order of two values that are not both lists. -/
theorem failsBare_less_of_not_lists {a b : Value}
    (h : ∀ xs ys, a = .list xs → b = .list ys → False) : FailsBare (less a b) := by
  rw [less.eq_def]
  split
  · rename_i xs ys
    exact (h xs ys rfl rfl).elim
  · exact ok _
  · split <;> first | exact ok _ | exact unsuitable
  · exact ok _
  · exact ok _
  · exact ok _
  · exact ok _
  · split
    · split <;> first | exact ok _ | exact failed rfl
    · exact unsuitable

/-- The order of two values. Lists are compared item by item. -/
theorem failsBare_less : ∀ a b, FailsBare (less a b) := by
  refine less.induct (fun a b => FailsBare (less a b)) (fun xs ys => FailsBare (lessItems xs ys))
    ?lists ?texts ?timestamps ?zones ?dates ?times ?zonedTimes ?bytes ?unordered ?numbers ?others
    ?ended ?shorter ?longer ?same ?different ?fails
  case lists =>
    intro xs ys ih
    rwa [less]
  case texts | timestamps | zones | dates | times | zonedTimes | bytes =>
    intros
    exact failsBare_less_of_not_lists nofun
  case unordered | numbers | others =>
    intro a b hlists
    intros
    exact failsBare_less_of_not_lists hlists
  case ended | shorter | longer =>
    intros
    rw [lessItems]
    exact ok _
  case same =>
    intro x xs y ys hsame ih
    rwa [lessItems, hsame]
  case different =>
    intro x xs y ys hdifferent ih
    rwa [lessItems, hdifferent]
  case fails =>
    intro x xs y ys lapse hfails
    have hbare := failsBare_equal x y
    rw [hfails] at hbare
    rw [lessItems, hfails]
    exact fun e he => hbare e he

/-- The smaller of two values. -/
theorem failsBare_smaller (a b : Value) : FailsBare (smaller a b) :=
  (failsBare_less b a).bind fun before => by split <;> exact ok _

/-- The larger of two values. -/
theorem failsBare_larger (a b : Value) : FailsBare (larger a b) :=
  (failsBare_less a b).bind fun before => by split <;> exact ok _

/-! ## Rectangles -/

/-- The corners of an envelope. -/
theorem failsBare_ofCorners (corners : Value) : FailsBare (ofCorners corners) := by
  refine (failsBare_walk corners).bind fun items => (mapM failsBare_pair _).bind fun pairs => ?_
  split
  · exact (failsBare_smaller _ _).bind fun _ => (failsBare_smaller _ _).bind fun _ =>
      (failsBare_larger _ _).bind fun _ => (failsBare_larger _ _).bind fun _ => ok _
  · exact unsuitable

/-- Whether a side is oblique. -/
theorem failsBare_oblique (a b : Value) : FailsBare (oblique a b) := by
  refine (failsBare_item a 0).bind fun _ => (failsBare_item b 0).bind fun _ =>
    (failsBare_equal _ _).bind fun same => ?_
  split
  · exact ok _
  · exact (failsBare_item a 1).bind fun _ => (failsBare_item b 1).bind fun _ =>
      (failsBare_equal _ _).bind fun _ => ok _

/-- Whether some side of a ring is oblique. -/
theorem failsBare_alongAxes (points : List Value) : FailsBare (alongAxes points) := by
  induction points with
  | nil => exact ok _
  | cons a rest ih =>
      cases rest with
      | nil => exact ok _
      | cons b rest =>
          refine (failsBare_oblique a b).bind fun crooked => ?_
          split
          · exact ok _
          · exact ih

/-- A ring of five points. -/
theorem failsBare_ofRing (points : List Value) : FailsBare (ofRing points) := by
  have haxis : ∀ position p, FailsBare (item p position >>= coordinate) := fun position p =>
    (failsBare_item p position).bind failsBare_coordinate
  refine (mapM (haxis 0) points).bind fun xs => (mapM (haxis 1) points).bind fun ys => ?_
  split
  · exact unsuitable
  · dsimp only
    split
    · exact unsuitable
    · refine (failsBare_alongAxes points).bind fun straight => ?_
      split
      · exact ok _
      · exact unsuitable

/-- The only ring of a polygon. -/
theorem failsBare_ofPolygon (coordinates : Value) : FailsBare (ofPolygon coordinates) := by
  unfold ofPolygon
  split
  · split
    · refine (failsBare_item _ 0).bind fun _ => (failsBare_lastItem _).bind fun _ =>
        (failsBare_equal _ _).bind fun closed => ?_
      split
      · exact (failsBare_walk _).bind failsBare_ofRing
      · exact unsuitable
    · exact unsuitable
  · exact unsuitable

/-- **A geometry whose box cannot be read fails as a value does**, with none of the failures that this
library describes. -/
theorem not_isDescribed_of_ofGeometry? {geometry : Value} {e : Error}
    (h : ofGeometry? geometry = .error e) : e.isDescribed = false := by
  unfold ofGeometry? at h
  dsimp only at h
  split at h
  · cases h
  · cases h
  · rename_i reading e' hreading
    obtain rfl := Except.error.inj h
    split at hreading
    · exact failsBare_ofCorners _ _ hreading
    · exact failsBare_ofPolygon _ _ hreading
    · cases hreading

end SearchTables.Box
