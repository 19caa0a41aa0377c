import SearchTables.Geometry.BoundingBox
import SearchTables.Proofs.Decimal.FloatOrder
import SearchTables.Proofs.Outcome
import Mathlib

/-! # Rectangles on the map — a polygon has a box exactly when its ring goes round a rectangle

A ring **goes round** a rectangle when it visits the four corners in cyclic order and comes back. The
reader of boxes does not look for that order: it counts longitudes and latitudes, sees whether four corners
are apart, and whether each side keeps a longitude or a latitude. For a closed ring of five places this is
the same (`Rectangle.isRoundBy_iff`): a bow tie has a side that keeps neither, and a ring that turns back
has a corner twice. Finite doubles are compared by their exact values, so a polygon has the box of the
rectangle that its only ring goes round, and no box without one (`Box.polygon_box`). -/

namespace SearchTables

/-! ## Rings and rectangles -/

/-- A place on the map: its longitude and its latitude. -/
abbrev Place := ℚ × ℚ

/-- A rectangle on the map by its edges. -/
structure Rectangle where
  west : ℚ
  south : ℚ
  east : ℚ
  north : ℚ
  west_lt_east : west < east
  south_lt_north : south < north

namespace Rectangle

variable (r : Rectangle)

/-- The edges in the order in which a bounding box gives them. -/
def edges : ℚ × ℚ × ℚ × ℚ := (r.west, r.south, r.east, r.north)

/-- The corners in cyclic order. -/
def corners : List Place :=
  [(r.west, r.south), (r.east, r.south), (r.east, r.north), (r.west, r.north)]

/-- A ring **goes round** a rectangle: it has five places, of which the last one is the first one again,
and the first four are the corners in cyclic order, from any of them and in either direction. -/
structure IsRoundBy (ring : List Place) : Prop where
  length_eq : ring.length = 5
  closed : ring.getLast? = ring.head?
  cyclic : ring.take 4 ~r r.corners ∨ ring.take 4 ~r r.corners.reverse

/-- Places **span** a rectangle when its edges are their longitudes and latitudes. -/
structure IsSpannedBy (places : List Place) : Prop where
  longitudes : ∀ q, q ∈ places.map Prod.fst ↔ q = r.west ∨ q = r.east
  latitudes : ∀ q, q ∈ places.map Prod.snd ↔ q = r.south ∨ q = r.north

/-- The corner on given sides: whether it is in the east, and whether it is in the north. -/
def corner (side : Bool × Bool) : Place :=
  (if side.1 then r.east else r.west, if side.2 then r.north else r.south)

/-- The sides of the corners in cyclic order. -/
def sides : List (Bool × Bool) := [(false, false), (true, false), (true, true), (false, true)]

/-- The corners are those on all sides. -/
theorem map_corner_sides : sides.map r.corner = r.corners := rfl

/-- Corners have one longitude when they are on one side of it. -/
theorem fst_corner_inj {a b : Bool × Bool} : (r.corner a).1 = (r.corner b).1 ↔ a.1 = b.1 := by
  have h := r.west_lt_east
  rcases a with ⟨_ | _, _⟩ <;> rcases b with ⟨_ | _, _⟩ <;> simp [corner, h.ne, h.ne']

/-- Corners have one latitude when they are on one side of it. -/
theorem snd_corner_inj {a b : Bool × Bool} : (r.corner a).2 = (r.corner b).2 ↔ a.2 = b.2 := by
  have h := r.south_lt_north
  rcases a with ⟨_, _ | _⟩ <;> rcases b with ⟨_, _ | _⟩ <;> simp [corner, h.ne, h.ne']

/-- Corners on different sides differ. -/
theorem corner_injective : Function.Injective r.corner := by
  intro a b h
  exact Prod.ext (r.fst_corner_inj.1 (congrArg Prod.fst h)) (r.snd_corner_inj.1 (congrArg Prod.snd h))

/-- Two places are **level** when they share a longitude or a latitude. -/
def Level {α β : Type} (p q : α × β) : Prop := p.1 = q.1 ∨ p.2 = q.2

instance {α β : Type} [DecidableEq α] [DecidableEq β] : DecidableRel (Level (α := α) (β := β)) :=
  fun p q => inferInstanceAs (Decidable (p.1 = q.1 ∨ p.2 = q.2))

/-- Four sides are in cyclic order when no two are the same and neighbours share one of two. -/
theorem cyclic_sides_iff : ∀ a b c d : Bool × Bool,
    ([a, b, c, d] ~r sides ∨ [a, b, c, d] ~r sides.reverse) ↔
      [a, b, c, d].Nodup ∧ [a, b, c, d, a].IsChain Level := by
  decide

/-- Corners are level when their sides are. -/
theorem level_corner {a b : Bool × Bool} : Level (r.corner a) (r.corner b) ↔ Level a b :=
  or_congr r.fst_corner_inj r.snd_corner_inj

/-- Four corners are in cyclic order when no two are the same and neighbours are level. -/
theorem cyclic_iff (a b c d : Bool × Bool) :
    ([a, b, c, d].map r.corner ~r r.corners ∨ [a, b, c, d].map r.corner ~r r.corners.reverse) ↔
      ([a, b, c, d].map r.corner).Nodup ∧ ([a, b, c, d, a].map r.corner).IsChain Level := by
  have hrotated : ∀ xs ys : List (Bool × Bool), xs.map r.corner ~r ys.map r.corner ↔ xs ~r ys := by
    intro xs ys
    constructor
    · rintro ⟨n, hn⟩
      exact ⟨n, List.map_injective_iff.2 r.corner_injective (by rw [List.map_rotate, hn])⟩
    · intro h
      exact h.map r.corner
  rw [← map_corner_sides, ← List.map_reverse, hrotated, hrotated, cyclic_sides_iff,
    List.nodup_map_iff r.corner_injective, List.isChain_map]
  simp only [level_corner]

variable {r}

/-- A place of a spanned rectangle is a corner. -/
theorem IsSpannedBy.exists_corner {places : List Place} (h : r.IsSpannedBy places) {p : Place}
    (hp : p ∈ places) : ∃ side, p = r.corner side := by
  have hx : p.1 = r.west ∨ p.1 = r.east := (h.longitudes p.1).1 (List.mem_map_of_mem hp)
  have hy : p.2 = r.south ∨ p.2 = r.north := (h.latitudes p.2).1 (List.mem_map_of_mem hp)
  refine ⟨(decide (p.1 = r.east), decide (p.2 = r.north)), Prod.ext ?_ ?_⟩
  · rcases hx with hx | hx
    · simp [corner, hx, r.west_lt_east.ne]
    · simp [corner, hx]
  · rcases hy with hy | hy
    · simp [corner, hy, r.south_lt_north.ne]
    · simp [corner, hy]

/-- Corners of all sides span the rectangle. -/
theorem isSpannedBy_map_corner {places : List (Bool × Bool)} (h : ∀ side, side ∈ places) :
    r.IsSpannedBy (places.map r.corner) := by
  constructor
  · intro q
    rw [List.map_map, List.mem_map]
    constructor
    · rintro ⟨⟨_ | _, _⟩, -, rfl⟩
      · exact .inl rfl
      · exact .inr rfl
    · rintro (rfl | rfl)
      · exact ⟨(false, false), h _, rfl⟩
      · exact ⟨(true, false), h _, rfl⟩
  · intro q
    rw [List.map_map, List.mem_map]
    constructor
    · rintro ⟨⟨_, _ | _⟩, -, rfl⟩
      · exact .inl rfl
      · exact .inr rfl
    · rintro (rfl | rfl)
      · exact ⟨(false, false), h _, rfl⟩
      · exact ⟨(false, true), h _, rfl⟩

/-- Four sides of which no two are the same are all sides. -/
theorem mem_of_nodup_sides : ∀ a b c d : Bool × Bool, [a, b, c, d].Nodup →
    ∀ side, side ∈ [a, b, c, d, a] := by
  decide

/-- A closed ring of five places ends with its first one. -/
theorem exists_eq_of_closed {ring : List Place} (hlength : ring.length = 5)
    (hclosed : ring.getLast? = ring.head?) : ∃ p₁ p₂ p₃ p₄, ring = [p₁, p₂, p₃, p₄, p₁] := by
  match ring, hlength with
  | [p₁, p₂, p₃, p₄, p₅], _ =>
      obtain rfl : p₅ = p₁ := Option.some.inj hclosed
      exact ⟨p₅, p₂, p₃, p₄, rfl⟩

/-- **A closed ring of five places goes round a rectangle exactly when it spans the rectangle, its first
four places differ, and neighbours are level.** -/
theorem isRoundBy_iff {ring : List Place} (hlength : ring.length = 5)
    (hclosed : ring.getLast? = ring.head?) :
    r.IsRoundBy ring ↔ r.IsSpannedBy ring ∧ (ring.take 4).Nodup ∧ ring.IsChain Level := by
  obtain ⟨p₁, p₂, p₃, p₄, rfl⟩ := exists_eq_of_closed hlength hclosed
  constructor
  · rintro ⟨-, -, hcyclic⟩
    -- all places are corners, since the first four are a rotation of them
    have hcorner : ∀ p ∈ [p₁, p₂, p₃, p₄], ∃ side, r.corner side = p := by
      intro p hp
      have hmem : p ∈ r.corners := by
        rcases hcyclic with h | h
        · exact h.mem_iff.1 hp
        · exact List.mem_reverse.1 (h.mem_iff.1 hp)
      rw [← map_corner_sides, List.mem_map] at hmem
      obtain ⟨side, -, hside⟩ := hmem
      exact ⟨side, hside⟩
    obtain ⟨a, rfl⟩ := hcorner p₁ (by simp)
    obtain ⟨b, rfl⟩ := hcorner p₂ (by simp)
    obtain ⟨c, rfl⟩ := hcorner p₃ (by simp)
    obtain ⟨d, rfl⟩ := hcorner p₄ (by simp)
    obtain ⟨hnodup, hchain⟩ := (r.cyclic_iff a b c d).1 hcyclic
    have hsides : [a, b, c, d].Nodup := (List.nodup_map_iff r.corner_injective).1 hnodup
    exact ⟨isSpannedBy_map_corner (mem_of_nodup_sides a b c d hsides), hnodup, hchain⟩
  · rintro ⟨hspan, hnodup, hchain⟩
    obtain ⟨a, rfl⟩ := hspan.exists_corner (p := p₁) (by simp)
    obtain ⟨b, rfl⟩ := hspan.exists_corner (p := p₂) (by simp)
    obtain ⟨c, rfl⟩ := hspan.exists_corner (p := p₃) (by simp)
    obtain ⟨d, rfl⟩ := hspan.exists_corner (p := p₄) (by simp)
    exact ⟨rfl, rfl, (r.cyclic_iff a b c d).2 ⟨hnodup, hchain⟩⟩

end Rectangle

/-! ## Coordinates -/

namespace Value

/-- The exact value of a number that is a finite double, written as an integer or not. -/
def double? : Value → Option ℚ
  | .float x => rational? x
  | .int n => if (floatOfInt? n).bind rational? = some (n : ℚ) then some n else none
  | _ => none

/-- The place of a point of two numbers. -/
def place? : Value → Option Place
  | .list [x, y] => x.double?.bind fun longitude => y.double?.map fun latitude => (longitude, latitude)
  | _ => none

/-- The places of a ring. -/
def ring? : Value → Option (List Place)
  | .list points => points.mapM place?
  | _ => none

/-- The places of the rings of a polygon. -/
def rings? : Value → Option (List (List Place))
  | .list rings => rings.mapM ring?
  | _ => none

variable {u v : Value} {p q : ℚ}

/-- A double is a number that stands at its value. -/
theorem exists_number_of_double (h : v.double? = some q) :
    ∃ n, v.number? = some n ∧ n.IsProper ∧
      n.place? = some ((q : WithTop ℚ) : WithBot (WithTop ℚ)) := by
  cases v with
  | float x => exact ⟨_, rfl, Extended.isProper_ofFloat x, Extended.place?_ofFloat h⟩
  | int n =>
      rw [double?] at h
      split at h
      · obtain rfl := Option.some.inj h
        refine ⟨_, rfl, Nat.one_pos, ?_⟩
        show some _ = some _
        rw [Nat.cast_one, div_one]
      · cases h
  | _ => cases h

/-- A double is read as a coordinate of its value. -/
theorem exists_coordinate_of_double (h : v.double? = some q) :
    ∃ x, Box.coordinate v = .ok x ∧ rational? x = some q := by
  cases v with
  | float x => exact ⟨x, rfl, h⟩
  | int n =>
      rw [double?] at h
      split at h
      · rename_i hexact
        obtain rfl := Option.some.inj h
        obtain ⟨x, hx, hvalue⟩ := Option.bind_eq_some_iff.1 hexact
        refine ⟨x, ?_, hvalue⟩
        rw [Box.coordinate, hx]
      · cases h
  | _ => cases h

/-- Doubles are equal when their values are. -/
theorem equal_of_double (hu : u.double? = some p) (hv : v.double? = some q) :
    Box.equal u v = .ok (decide (p = q)) := by
  obtain ⟨n, hn, hnp, hnplace⟩ := exists_number_of_double hu
  obtain ⟨m, hm, hmp, hmplace⟩ := exists_number_of_double hv
  have heq : n.eq m = decide (p = q) := by
    rw [Bool.eq_iff_iff, Extended.eq_iff_of_place hnp hmp hnplace hmplace, decide_eq_true_iff,
      WithBot.coe_inj, WithTop.coe_inj]
  have hsame : u.sameScalar v = decide (p = q) := by
    unfold sameScalar
    rw [hn, hm]
    exact heq
  rw [← hsame]
  cases u <;> cases v <;> first | cases hu | cases hv | simp [Box.equal, Box.isSignaling, same]

/-- A place has two coordinates. -/
theorem place?_eq_some_iff {place : Place} :
    v.place? = some place ↔
      ∃ x y, v = .list [x, y] ∧ x.double? = some place.1 ∧ y.double? = some place.2 := by
  constructor
  · intro h
    unfold place? at h
    split at h
    · rename_i x y
      obtain ⟨longitude, hx, h⟩ := Option.bind_eq_some_iff.1 h
      obtain ⟨latitude, hy, rfl⟩ := Option.map_eq_some_iff.1 h
      exact ⟨x, y, rfl, hx, hy⟩
    · cases h
  · rintro ⟨x, y, rfl, hx, hy⟩
    rw [place?, hx, hy]
    rfl

end Value

namespace Box

open Value

/-- The exact edges of a box of doubles. -/
def edges? (box : Box) : Option (ℚ × ℚ × ℚ × ℚ) :=
  box.minX.double?.bind fun west => box.minY.double?.bind fun south =>
    box.maxX.double?.bind fun east => box.maxY.double?.map fun north => (west, south, east, north)

variable {u v : Value} {p q : Place}

/-- Places are equal when both coordinates are. -/
theorem equal_of_place (hu : u.place? = some p) (hv : v.place? = some q) :
    equal u v = .ok (decide (p = q)) := by
  obtain ⟨x, y, rfl, hx, hy⟩ := place?_eq_some_iff.1 hu
  obtain ⟨x', y', rfl, hx', hy'⟩ := place?_eq_some_iff.1 hv
  have hlength : [x, y].length = [x', y'].length := rfl
  rw [equal, if_pos hlength, equalItems, equal_of_double hx hx']
  by_cases hfst : p.1 = q.1
  · rw [decide_eq_true hfst]
    dsimp only
    rw [equalItems, equal_of_double hy hy']
    by_cases hsnd : p.2 = q.2
    · rw [decide_eq_true hsnd, decide_eq_true (Prod.ext hfst hsnd)]
      rfl
    · rw [decide_eq_false hsnd, decide_eq_false fun h => hsnd (congrArg Prod.snd h)]
  · rw [decide_eq_false hfst, decide_eq_false fun h => hfst (congrArg Prod.fst h)]

/-- A side is oblique when its ends are not level. -/
theorem oblique_of_place (hu : u.place? = some p) (hv : v.place? = some q) :
    oblique u v = .ok !decide (Rectangle.Level p q) := by
  obtain ⟨x, y, rfl, hx, hy⟩ := place?_eq_some_iff.1 hu
  obtain ⟨x', y', rfl, hx', hy'⟩ := place?_eq_some_iff.1 hv
  have hstep : oblique (.list [x, y]) (.list [x', y']) =
      (equal x x' >>= fun same => if same then pure false else equal y y' >>= fun same => pure !same) :=
    rfl
  rw [hstep, equal_of_double hx hx', equal_of_double hy hy']
  by_cases hfst : p.1 = q.1
  · rw [decide_eq_true hfst, decide_eq_true (p := Rectangle.Level p q) (.inl hfst)]
    rfl
  · have hlevel : Rectangle.Level p q ↔ p.2 = q.2 := or_iff_right hfst
    rw [decide_eq_false hfst, decide_eq_decide.2 hlevel]
    rfl

/-- No side of a ring is oblique when neighbours are level. -/
theorem alongAxes_of_places {points : List Value} {places : List Place}
    (h : List.Forall₂ (fun v p => v.place? = some p) points places) :
    alongAxes points = .ok (decide (places.IsChain Rectangle.Level)) := by
  induction h with
  | nil => rfl
  | @cons u p points places hu hrest ih =>
      cases hrest with
      | nil => rfl
      | @cons v q points places hv hrest =>
          rw [alongAxes, oblique_of_place hu hv]
          by_cases hlevel : Rectangle.Level p q
          · have hchain : (p :: q :: places).IsChain Rectangle.Level ↔
                (q :: places).IsChain Rectangle.Level := by
              rw [List.isChain_cons_cons, and_iff_right hlevel]
            rw [decide_eq_true hlevel, decide_eq_decide.2 hchain]
            exact ih
          · have hchain : ¬ (p :: q :: places).IsChain Rectangle.Level := fun h =>
              hlevel (List.isChain_cons_cons.1 h).1
            rw [decide_eq_false hlevel, decide_eq_false hchain]
            rfl

/-! ## Rings -/

section

variable {α β γ : Type}

/-- Steps for items that stand for others come to values that do. -/
theorem exists_mapM_of_forall₂ {ε : Type} {R : α → γ → Prop} {S : β → γ → Prop} {f : α → Except ε β}
    {as : List α} {cs : List γ} (hf : ∀ a c, R a c → ∃ b, f a = .ok b ∧ S b c)
    (h : List.Forall₂ R as cs) : ∃ bs, as.mapM f = .ok bs ∧ List.Forall₂ S bs cs := by
  induction h with
  | nil => exact ⟨[], rfl, .nil⟩
  | @cons a c as cs hac _ ih =>
      obtain ⟨b, hb, hbc⟩ := hf a c hac
      obtain ⟨bs, hbs, hbcs⟩ := ih
      refine ⟨b :: bs, ?_, .cons hbc hbcs⟩
      rw [List.mapM_cons, hb, hbs]
      rfl

/-- The items of a list that are not the same as one before them, after those that were seen. -/
def firsts (same : α → α → Bool) (seen xs : List α) : List α :=
  xs.foldl (fun seen x => if seen.any (same · x) then seen else seen ++ [x]) seen

variable {Stands : α → β → Prop} {same : α → α → Bool}

/-- What the first items stand for is without repetition. The induction is on the items, with what was
seen before them. -/
theorem exists_firsts (hsame : ∀ a b p q, Stands a p → Stands b q → (same a b = true ↔ p = q))
    {xs seen : List α} {ps qs : List β} (hseen : List.Forall₂ Stands seen qs) (hnodup : qs.Nodup)
    (h : List.Forall₂ Stands xs ps) :
    ∃ rs, List.Forall₂ Stands (firsts same seen xs) rs ∧ rs.Nodup ∧ ∀ r, r ∈ rs ↔ r ∈ qs ∨ r ∈ ps := by
  induction h generalizing seen qs with
  | nil => exact ⟨qs, hseen, hnodup, fun r => by simp⟩
  | @cons x p xs ps hx _ ih =>
      -- an item was seen when what it stands for is among what those before it stand for
      have hany : seen.any (same · x) = true ↔ p ∈ qs := by
        clear ih hnodup
        induction hseen with
        | nil => simp
        | @cons a q seen qs ha _ ih =>
            rw [List.any_cons, Bool.or_eq_true, hsame _ _ _ _ ha hx, ih, List.mem_cons, eq_comm]
      rw [firsts, List.foldl_cons]
      by_cases hp : p ∈ qs
      · rw [if_pos (hany.2 hp)]
        obtain ⟨rs, hrs, hrsnodup, hmem⟩ := ih hseen hnodup
        refine ⟨rs, hrs, hrsnodup, fun r => ?_⟩
        rw [hmem, List.mem_cons]
        have hr : r = p → r ∈ qs := fun heq => heq ▸ hp
        tauto
      · rw [if_neg (mt hany.1 hp)]
        have hnodup' : (qs ++ [p]).Nodup := by
          rw [List.nodup_append]
          refine ⟨hnodup, List.nodup_singleton p, ?_⟩
          intro a ha b hb heq
          obtain rfl := List.mem_singleton.1 hb
          exact hp (heq ▸ ha)
        obtain ⟨rs, hrs, hrsnodup, hmem⟩ :=
          ih (List.rel_append (R := Stands) hseen (.cons hx .nil)) hnodup'
        refine ⟨rs, hrs, hrsnodup, fun r => ?_⟩
        rw [hmem, List.mem_append, List.mem_singleton, List.mem_cons, or_assoc]

end

/-- A double and its exact value. -/
def HasValue (x : Float) (q : ℚ) : Prop := rational? x = some q

/-- The different numbers on an axis. -/
theorem exists_distinct {xs : List Float} {ps : List ℚ} (h : List.Forall₂ HasValue xs ps) :
    ∃ rs, List.Forall₂ HasValue (distinct xs) rs ∧ rs.Nodup ∧ ∀ r, r ∈ rs ↔ r ∈ ps := by
  have hsame : ∀ x y p q, HasValue x p → HasValue y q → ((x == y) = true ↔ p = q) :=
    fun x y p q hx hy => beq_iff_of_rational hx hy
  obtain ⟨rs, hrs, hnodup, hmem⟩ := exists_firsts hsame .nil List.nodup_nil h
  exact ⟨rs, hrs, hnodup, fun r => by rw [hmem]; simp⟩

/-- **Two different numbers on an axis are its ends.** -/
theorem exists_ends_of_distinct {xs : List Float} {ps : List ℚ} {x₁ x₂ : Float}
    (h : List.Forall₂ HasValue xs ps) (hdistinct : distinct xs = [x₁, x₂]) :
    ∃ lo hi, lo < hi ∧ ∀ q, q ∈ ps ↔ q = lo ∨ q = hi := by
  obtain ⟨rs, hrs, hnodup, hmem⟩ := exists_distinct h
  rw [hdistinct] at hrs
  obtain _ | ⟨hp, _ | ⟨hq, _ | _⟩⟩ := hrs
  rename_i p q
  have hne : p ≠ q := by
    rintro rfl
    simp at hnodup
  rcases lt_or_gt_of_ne hne with hlt | hlt
  · exact ⟨p, q, hlt, fun r => by rw [← hmem]; simp⟩
  · exact ⟨q, p, hlt, fun r => by rw [← hmem]; simp [or_comm]⟩

/-- **The ends of an axis are the smaller and the larger of two different numbers.** -/
theorem distinct_of_ends {xs : List Float} {ps : List ℚ} {lo hi : ℚ}
    (h : List.Forall₂ HasValue xs ps) (hlt : lo < hi)
    (hends : ∀ q, q ∈ ps ↔ q = lo ∨ q = hi) :
    ∃ x₁ x₂, distinct xs = [x₁, x₂] ∧ rational? (if x₂ < x₁ then x₂ else x₁) = some lo ∧
      rational? (if x₁ < x₂ then x₂ else x₁) = some hi := by
  obtain ⟨rs, hrs, hnodup, hmem⟩ := exists_distinct h
  have hperm : rs.Perm [lo, hi] := by
    rw [List.perm_ext_iff_of_nodup hnodup (by simp [hlt.ne])]
    intro q
    rw [hmem, hends]
    simp
  generalize distinct xs = ds at hrs
  rcases List.perm_pair.1 hperm with rfl | rfl
  · obtain _ | ⟨hx₁, _ | ⟨hx₂, _ | _⟩⟩ := hrs
    refine ⟨_, _, rfl, ?_, ?_⟩
    · rwa [if_neg (mt (lt_iff_of_rational hx₂ hx₁).1 hlt.not_gt)]
    · rwa [if_pos ((lt_iff_of_rational hx₁ hx₂).2 hlt)]
  · obtain _ | ⟨hx₁, _ | ⟨hx₂, _ | _⟩⟩ := hrs
    refine ⟨_, _, rfl, ?_, ?_⟩
    · rwa [if_pos ((lt_iff_of_rational hx₂ hx₁).2 hlt)]
    · rwa [if_neg (mt (lt_iff_of_rational hx₁ hx₂).1 hlt.not_gt)]

/-- **The box of the ends of both axes is the rectangle that the places span.** -/
theorem ofEdges?_of_values {xs ys : List Float} {places : List Place}
    (hxs : List.Forall₂ HasValue xs (places.map Prod.fst))
    (hys : List.Forall₂ HasValue ys (places.map Prod.snd)) :
    match ofEdges? (distinct xs) (distinct ys) with
    | some box => (∃ r : Rectangle, r.IsSpannedBy places) ∧
        ∀ r : Rectangle, r.IsSpannedBy places → box.edges? = some r.edges
    | none => ∀ r : Rectangle, ¬ r.IsSpannedBy places := by
  -- a rectangle that is spanned has two ends on both axes, which are what is left without repetition
  have hspanned : ∀ r : Rectangle, r.IsSpannedBy places →
      ∃ box, ofEdges? (distinct xs) (distinct ys) = some box ∧ box.edges? = some r.edges := by
    intro r hr
    obtain ⟨x₁, x₂, hx, hwest, heast⟩ := distinct_of_ends hxs r.west_lt_east hr.longitudes
    obtain ⟨y₁, y₂, hy, hsouth, hnorth⟩ := distinct_of_ends hys r.south_lt_north hr.latitudes
    rw [hx, hy]
    refine ⟨_, rfl, ?_⟩
    simp only [edges?, double?, hwest, heast, hsouth, hnorth]
    rfl
  split
  · rename_i box hbox
    constructor
    · unfold ofEdges? at hbox
      split at hbox
      · rename_i x₁ x₂ y₁ y₂ hx hy
        obtain ⟨west, east, hwe, hlongitudes⟩ := exists_ends_of_distinct hxs hx
        obtain ⟨south, north, hsn, hlatitudes⟩ := exists_ends_of_distinct hys hy
        exact ⟨⟨west, south, east, north, hwe, hsn⟩, hlongitudes, hlatitudes⟩
      · cases hbox
    · intro r hr
      obtain ⟨box', hbox', hedges⟩ := hspanned r hr
      obtain rfl := Option.some.inj (hbox.symm.trans hbox')
      exact hedges
  · rename_i hnone
    intro r hr
    obtain ⟨box, hbox, -⟩ := hspanned r hr
    cases hnone.symm.trans hbox

/-- A reading **recognises** the rectangles with a property: when it comes to a box then there is such a
rectangle and the box is that of each, and when it lapses then there is none. -/
def Recognises (reading : Reading Box) (P : Rectangle → Prop) : Prop :=
  match reading with
  | .ok box => (∃ r, P r) ∧ ∀ r, P r → box.edges? = some r.edges
  | .error .unsuitable => ∀ r, ¬ P r
  | .error (.failed _) => False

/-- The coordinates of the places of a ring. -/
theorem exists_coordinates {points : List Value} {places : List Place}
    (h : List.Forall₂ (fun v p => v.place? = some p) points places) :
    ∃ xs ys, (points.mapM fun p => item p 0 >>= coordinate) = .ok xs ∧
      (points.mapM fun p => item p 1 >>= coordinate) = .ok ys ∧
      List.Forall₂ (fun x p => HasValue x p.1) xs places ∧
      List.Forall₂ (fun y p => HasValue y p.2) ys places := by
  obtain ⟨xs, hxs, hxvalues⟩ := exists_mapM_of_forall₂ (S := fun x (p : Place) => HasValue x p.1)
    (f := fun p => item p 0 >>= coordinate) (fun v p hv => by
      obtain ⟨x, y, rfl, hx, -⟩ := place?_eq_some_iff.1 hv
      exact exists_coordinate_of_double hx) h
  obtain ⟨ys, hys, hyvalues⟩ := exists_mapM_of_forall₂ (S := fun y (p : Place) => HasValue y p.2)
    (f := fun p => item p 1 >>= coordinate) (fun v p hv => by
      obtain ⟨x, y, rfl, -, hy⟩ := place?_eq_some_iff.1 hv
      exact exists_coordinate_of_double hy) h
  exact ⟨xs, ys, hxs, hys, hxvalues, hyvalues⟩

/-- Whether two pairs of coordinates are the same. -/
def sameCorner (u v : Float × Float) : Bool := u.1 == v.1 && u.2 == v.2

/-- Four corners are apart when no two of the places are the same. -/
theorem length_firsts_corners {xs ys : List Float} {places : List Place}
    (hxs : List.Forall₂ (fun x p => HasValue x p.1) xs places)
    (hys : List.Forall₂ (fun y p => HasValue y p.2) ys places) (hlength : 4 ≤ places.length) :
    (firsts sameCorner [] ((xs.zip ys).take 4)).length = 4 ↔
      (places.take 4).Nodup := by
  have hzip : List.Forall₂ (fun (u : Float × Float) (p : Place) => HasValue u.1 p.1 ∧ HasValue u.2 p.2)
      (xs.zip ys) places := by
    clear hlength
    induction hxs generalizing ys with
    | nil => exact .nil
    | cons hx _ ih =>
        cases hys with
        | cons hy hys => exact .cons ⟨hx, hy⟩ (ih hys)
  have hsame : ∀ (u v : Float × Float) (p q : Place), (HasValue u.1 p.1 ∧ HasValue u.2 p.2) →
      (HasValue v.1 q.1 ∧ HasValue v.2 q.2) → (sameCorner u v = true ↔ p = q) := by
    rintro u v p q ⟨hux, huy⟩ ⟨hvx, hvy⟩
    rw [sameCorner, Bool.and_eq_true, beq_iff_of_rational hux hvx, beq_iff_of_rational huy hvy, Prod.ext_iff]
  obtain ⟨rs, hrs, hnodup, hmem⟩ :=
    exists_firsts hsame .nil List.nodup_nil (List.forall₂_take 4 hzip)
  have hfour : (places.take 4).length = 4 := by
    rw [List.length_take]
    omega
  -- without repetition there are as many corners as there are different places
  have hperm : rs.Perm (places.take 4).dedup := by
    rw [List.perm_ext_iff_of_nodup hnodup (List.nodup_dedup _)]
    intro r
    rw [hmem, List.mem_dedup]
    simp
  rw [hrs.length_eq, hperm.length_eq]
  constructor
  · intro h
    rw [← (List.dedup_sublist (places.take 4)).eq_of_length (h.trans hfour.symm)]
    exact List.nodup_dedup _
  · intro h
    rw [h.dedup, hfour]

/-- **A closed ring of five points is recognised as the rectangle that it goes round.** -/
theorem recognises_ofRing {points : List Value} {places : List Place}
    (h : List.Forall₂ (fun v p => v.place? = some p) points places) (hlength : places.length = 5)
    (hclosed : places.getLast? = places.head?) :
    Recognises (ofRing points) fun r => r.IsRoundBy places := by
  obtain ⟨xs, ys, hxs, hys, hxvalues, hyvalues⟩ := exists_coordinates h
  have hlongitudes : List.Forall₂ HasValue xs (places.map Prod.fst) :=
    List.forall₂_map_right_iff.2 hxvalues
  have hlatitudes : List.Forall₂ HasValue ys (places.map Prod.snd) :=
    List.forall₂_map_right_iff.2 hyvalues
  have hedges := ofEdges?_of_values hlongitudes hlatitudes
  have hapart := length_firsts_corners hxvalues hyvalues (by omega)
  have hround : ∀ r : Rectangle, r.IsRoundBy places ↔
      r.IsSpannedBy places ∧ (places.take 4).Nodup ∧ places.IsChain Rectangle.Level :=
    fun r => Rectangle.isRoundBy_iff hlength hclosed
  -- the box is looked for first; its corners and sides are checked when there is one
  have hnone : ofEdges? (distinct xs) (distinct ys) = none → ofRing points = .error .unsuitable := by
    intro hbox
    unfold ofRing
    rw [hxs, hys]
    dsimp only [bind, Except.bind]
    rw [hbox]
  have hsome : ∀ box, ofEdges? (distinct xs) (distinct ys) = some box → ofRing points =
      if (firsts sameCorner [] ((xs.zip ys).take 4)).length ≠ 4 then .error .unsuitable
      else alongAxes points >>= fun straight => if straight then pure box else .error .unsuitable := by
    intro box hbox
    unfold ofRing
    rw [hxs, hys]
    dsimp only [bind, Except.bind]
    rw [hbox]
    rfl
  split at hedges
  · rename_i box hbox
    rw [hsome box hbox, alongAxes_of_places h]
    by_cases hnodup : (places.take 4).Nodup
    · rw [if_neg (not_not.2 (hapart.2 hnodup))]
      by_cases hchain : places.IsChain Rectangle.Level
      · rw [decide_eq_true hchain]
        obtain ⟨⟨r, hr⟩, hbox⟩ := hedges
        exact ⟨⟨r, (hround r).2 ⟨hr, hnodup, hchain⟩⟩, fun r hr => hbox r ((hround r).1 hr).1⟩
      · rw [decide_eq_false hchain]
        exact fun r hr => hchain ((hround r).1 hr).2.2
    · rw [if_pos (mt hapart.1 hnodup)]
      exact fun r hr => hnodup ((hround r).1 hr).2.1
  · rename_i hbox
    rw [hnone hbox]
    exact fun r hr => hedges r ((hround r).1 hr).1

/-! ## Polygons -/

/-- What all items of a list come to, if they come to something. -/
theorem forall₂_of_mapM_eq_some {α β : Type} {f : α → Option β} {as : List α} {bs : List β}
    (h : as.mapM f = some bs) : List.Forall₂ (fun a b => f a = some b) as bs := by
  induction as generalizing bs with
  | nil =>
      obtain rfl := Option.some.inj h
      exact .nil
  | cons a as ih =>
      rw [List.mapM_cons] at h
      obtain ⟨b, hb, h⟩ := Option.bind_eq_some_iff.1 h
      obtain ⟨bs, hbs, h⟩ := Option.bind_eq_some_iff.1 h
      obtain rfl := Option.some.inj h
      exact .cons hb (ih hbs)

/-- A ring of places is a list of points. -/
theorem exists_points_of_ring {places : List Place} (h : v.ring? = some places) :
    ∃ points, v = .list points ∧ List.Forall₂ (fun v p => v.place? = some p) points places := by
  cases v with
  | list points => exact ⟨points, rfl, forall₂_of_mapM_eq_some h⟩
  | _ => cases h

/-- A ring is recognised as the rectangle that it goes round. -/
theorem recognises_ofPolygon_ring {places : List Place} (h : v.ring? = some places) :
    Recognises (ofPolygon (.list [v])) fun r => r.IsRoundBy places := by
  obtain ⟨points, rfl, hpoints⟩ := exists_points_of_ring h
  have hsize : size? (.list points) = some places.length := congrArg some hpoints.length_eq
  rw [ofPolygon, hsize]
  by_cases hlength : places.length = 5
  · rw [if_pos (congrArg some hlength)]
    have hring := fun hclosed => recognises_ofRing hpoints hlength hclosed
    -- the first point and the last one
    obtain _ | ⟨hfirst, _ | ⟨h₂, _ | ⟨h₃, _ | ⟨h₄, _ | ⟨hlast, _ | _⟩⟩⟩⟩⟩ := hpoints <;> cases hlength
    rename_i a p₁ _ p₂ _ p₃ _ p₄ b p₅
    show Recognises (equal a b >>= _) _
    rw [equal_of_place hfirst hlast]
    by_cases hclosed : p₁ = p₅
    · rw [decide_eq_true hclosed]
      exact hring (congrArg some hclosed.symm)
    · rw [decide_eq_false hclosed]
      exact fun r hr => hclosed (Option.some.inj hr.closed).symm
  · rw [if_neg fun heq => hlength (Option.some.inj heq)]
    exact fun r hr => hlength hr.length_eq

/-- **A polygon is recognised as the rectangle that its only ring goes round.** -/
theorem recognises_ofPolygon {coordinates : Value} {rings : List (List Place)}
    (h : coordinates.rings? = some rings) :
    Recognises (ofPolygon coordinates) fun r => ∃ ring, rings = [ring] ∧ r.IsRoundBy ring := by
  cases coordinates with
  | list values =>
      obtain _ | ⟨hring, _ | ⟨_, _⟩⟩ := forall₂_of_mapM_eq_some h
      · rintro r ⟨ring, hrings, -⟩
        cases hrings
      · rename_i v ring
        have hiff : ∀ r : Rectangle, (∃ other, [ring] = [other] ∧ r.IsRoundBy other) ↔
            r.IsRoundBy ring := by
          simp
        simp only [hiff]
        exact recognises_ofPolygon_ring hring
      · rintro r ⟨ring, hrings, -⟩
        cases hrings
  | _ => cases h

/-- **A polygon of finite doubles has the box of the rectangle that its only ring goes round**, from any
corner and in either direction, and no box when there is no such rectangle. -/
theorem polygon_box {geometry coordinates : Value} {rings : List (List Place)}
    (htype : geometry.get? "type" = some (.str "Polygon"))
    (hcoordinates : geometry.get? "coordinates" = some coordinates)
    (hrings : coordinates.rings? = some rings) :
    (∀ west south east north,
      (∃ box, ofGeometry? geometry = .ok (some box) ∧ box.edges? = some (west, south, east, north)) ↔
        ∃ ring, rings = [ring] ∧
          ∃ hx hy, Rectangle.IsRoundBy ⟨west, south, east, north, hx, hy⟩ ring) ∧
      ((¬ ∃ ring, rings = [ring] ∧ ∃ r : Rectangle, r.IsRoundBy ring) → ofGeometry? geometry = .ok none) := by
  have hreading : ofGeometry? geometry = match ofPolygon coordinates with
      | .ok box => .ok (some box)
      | .error .unsuitable => .ok none
      | .error (.failed e) => .error e := by
    rw [ ofGeometry?, htype, hcoordinates]
    rfl
  have hrecognises := recognises_ofPolygon hrings
  rw [hreading]
  generalize ofPolygon coordinates = reading at hrecognises
  match reading, hrecognises with
  | .ok box, ⟨⟨r₀, ring₀, hrings₀, hround₀⟩, hedges⟩ =>
      have hbox : box.edges? = some r₀.edges := hedges r₀ ⟨ring₀, hrings₀, hround₀⟩
      refine ⟨fun west south east north => ⟨?_, ?_⟩, fun hnone => ?_⟩
      · rintro ⟨box', hbox', hedges'⟩
        obtain rfl := Option.some.inj (Except.ok.inj hbox')
        have hsame : (west, south, east, north) = r₀.edges :=
          Option.some.inj (hedges'.symm.trans hbox)
        -- the four edges tell the rectangle
        obtain ⟨rfl, rfl, rfl, rfl⟩ : west = r₀.west ∧ south = r₀.south ∧ east = r₀.east ∧
            north = r₀.north := by
          simpa [Rectangle.edges] using hsame
        exact ⟨ring₀, hrings₀, r₀.west_lt_east, r₀.south_lt_north, hround₀⟩
      · rintro ⟨ring, hring, hx, hy, hround⟩
        exact ⟨box, rfl, hedges _ ⟨ring, hring, hround⟩⟩
      · exact absurd ⟨ring₀, hrings₀, r₀, hround₀⟩ hnone
  | .error .unsuitable, hnone =>
      refine ⟨fun west south east north => ⟨?_, ?_⟩, fun _ => rfl⟩
      · rintro ⟨box, hbox, -⟩
        cases hbox
      · rintro ⟨ring, hring, hx, hy, hround⟩
        exact absurd ⟨ring, hring, hround⟩ (hnone _)

/-- A square that is visited clockwise from its north-east corner, with integers and fractions. -/
theorem polygon_box_of_square :
    ∃ box, ofGeometry? (.object [("type", .str "Polygon"), ("coordinates", .list [.list [
        .list [.int 3, .float 0.5], .list [.int 3, .float (-2.5)], .list [.int 0, .float (-2.5)],
        .list [.float 0.0, .float 0.5], .list [.float 3.0, .float 0.5]]])]) = .ok (some box) ∧
      box.edges? = some (0, -5 / 2, 3, 1 / 2) :=
  have hrings : rings? (.list [.list [
      .list [.int 3, .float 0.5], .list [.int 3, .float (-2.5)], .list [.int 0, .float (-2.5)],
      .list [.float 0.0, .float 0.5], .list [.float 3.0, .float 0.5]]]) =
      some [[(3, 1 / 2), (3, -5 / 2), (0, -5 / 2), (0, 1 / 2), (3, 1 / 2)]] := by
    decide +kernel
  ((polygon_box rfl rfl hrings).1 0 (-5 / 2) 3 (1 / 2)).2
    ⟨_, rfl, by norm_num, by norm_num, ⟨rfl, rfl, .inr (by decide +kernel)⟩⟩

end Box

end SearchTables
