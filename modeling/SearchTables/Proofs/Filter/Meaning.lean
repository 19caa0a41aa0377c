import SearchTables.Filter.Builder
import SearchTables.Row.Filter
import SearchTables.Proofs.Path

/-! # What predicates mean on a row

The ordinary reading of a predicate on values at hand: a comparison is its operator, a membership is
membership, a pattern matches as LIKE does, a member is looked into, and a junction means all or any
of its parts. Below it are the facts that the builder relies on when it puts predicates together: a
field at the end of a path is looked up beneath the members on the way (`holds_leaf`), and joined
predicates may be flattened (`holds_join_all`, `holds_join_any`). -/

namespace SearchTables

/-! ## Names and paths -/

/-- What may start a name is no dot, no NUL and no blank. -/
theorem notBlank_of_isNameStart {c : Char} (h : Expression.isNameStart c = true) :
    c ≠ '.' ∧ c ≠ '\x00' ∧ Text.isBlank c = false := by
  have hrange : c.toNat = 0x5f ∨ 0x61 ≤ c.toNat ∧ c.toNat ≤ 0x7a ∨
      0x41 ≤ c.toNat ∧ c.toNat ≤ 0x5a := by
    simp only [Expression.isNameStart, Bool.or_eq_true, Bool.and_eq_true, decide_eq_true_eq] at h
    rcases h with (rfl | h) | h
    · exact .inl rfl
    · exact .inr (.inl h)
    · exact .inr (.inr h)
  refine ⟨?_, ?_, ?_⟩
  · rintro rfl
    revert hrange
    decide
  · rintro rfl
    revert hrange
    decide
  · rw [Text.isBlank, List.any_eq_false]
    rintro ⟨low, high⟩ hmem hblank
    simp only [Bool.and_eq_true, decide_eq_true_eq] at hblank
    simp only [Text.blankRanges, List.mem_cons, Prod.mk.injEq, List.not_mem_nil, or_false] at hmem
    omega

/-- What may go on a name is no dot and no NUL. -/
theorem ne_dot_of_isNamePart {c : Char} (h : Expression.isNamePart c = true) :
    c ≠ '.' ∧ c ≠ '\x00' := by
  rw [Expression.isNamePart, Bool.or_eq_true] at h
  rcases h with h | h
  · exact ⟨(notBlank_of_isNameStart h).1, (notBlank_of_isNameStart h).2.1⟩
  · constructor <;>
    · rintro rfl
      revert h
      decide

/-- A name is a part that a path may have. -/
theorem validSegment_of_isName {name : String} (h : isName name = true) :
    Path.validSegment name = true := by
  rw [isName] at h
  rcases hchars : name.toList with - | ⟨c, rest⟩
  · simp [hchars] at h
  · simp only [hchars, Bool.and_eq_true, List.all_eq_true] at h
    obtain ⟨hdot, hnul, hblank⟩ := notBlank_of_isNameStart h.1
    simp only [Path.validSegment, hchars, Bool.and_eq_true, List.all_eq_true, decide_eq_true_eq]
    refine ⟨⟨⟨hdot, by simp [hblank]⟩, hnul⟩, fun d hd => ?_⟩
    exact ne_dot_of_isNamePart (h.2 d hd)

namespace Path

/-- A part of a path has no dots. -/
theorem dotless_of_validSegment {segment : String} (h : validSegment segment = true) :
    '.' ∉ segment.toList := by
  rw [validSegment] at h
  intro hmem
  rcases hchars : segment.toList with - | ⟨c, rest⟩
  · simp [hchars] at hmem
  · simp only [hchars, Bool.and_eq_true, List.all_eq_true, decide_eq_true_eq] at h
    rw [hchars, List.mem_cons] at hmem
    rcases hmem with rfl | hmem
    · exact h.1.1.1 rfl
    · exact (h.2 '.' hmem).1 rfl

/-- A name is a path of one part. -/
theorem segments_of_validSegment {name : String} (h : validSegment name = true) :
    segments name = [name] :=
  segments_of_dotless (dotless_of_validSegment h)

/-- A path of one part is that part. -/
theorem eq_of_segments {path name : String} (h : segments path = [name]) : path = name := by
  rw [← ofSegments_segments path, h, ofSegments, String.intercalate_singleton]

/-- The last part of a path is the name after its last dot. -/
theorem segments_member (path : String) {name : String} (h : validSegment name = true) :
    segments (path ++ "." ++ name) = segments path ++ [name] := by
  rw [segments_append, segments_of_validSegment h]

/-- A path all of whose parts are valid can only be too long. -/
theorem fault?_of_validSegments {path : String}
    (h : ∀ name ∈ segments path, validSegment name = true) :
    fault? path = none ∨ maxLength < Text.size path ∧ fault? path = some (.tooLong path) := by
  have hne : path ≠ "" := by
    rintro rfl
    exact absurd (h "" (by decide)) (by decide)
  have hfind : (segments path).find? (!validSegment ·) = none := by
    rw [List.find?_eq_none]
    intro name hmem
    simp [h name hmem]
  rw [fault?, if_neg hne]
  by_cases hlong : maxLength < Text.size path
  · exact .inr ⟨hlong, if_pos hlong⟩
  · rw [if_neg hlong, hfind]
    exact .inl rfl

end Path

/-! ## Values -/

/-- Follow names through nested objects. -/
def Value.along (v : Value) (names : List String) : Option Value := names.foldlM Value.get? v

/-- Whether one integer or text comes before another one. -/
def Value.before? : Value → Value → Option Bool
  | .int n, .int m => some (decide (n < m))
  | .str s, .str t => some (Text.precedes s t)
  | _, _ => none

/-- Whether a comparison holds of two values. Only integers and texts are ordered. -/
def CompareOp.holds (op : CompareOp) (x y : Value) : Bool :=
  match op with
  | .eq => x.same y
  | .ne => !x.same y
  | .lt => x.before? y == some true
  | .le => y.before? x == some false
  | .gt => y.before? x == some true
  | .ge => x.before? y == some false

namespace CompareOp

variable {x y : Value} {before : Bool}

/-- An ordered value is smaller than another one when it comes before it. -/
theorem holds_lt (h : x.before? y = some before) : CompareOp.lt.holds x y = before := by
  rw [holds, h, Option.some_beq_some, beq_true]

/-- It is at most another one when that one does not come before it. -/
theorem holds_le (h : y.before? x = some before) : CompareOp.le.holds x y = !before := by
  rw [holds, h, Option.some_beq_some, beq_false]

/-- It is greater than another one when that one comes before it. -/
theorem holds_gt (h : y.before? x = some before) : CompareOp.gt.holds x y = before := by
  rw [holds, h, Option.some_beq_some, beq_true]

/-- It is at least another one when it does not come before that one. -/
theorem holds_ge (h : x.before? y = some before) : CompareOp.ge.holds x y = !before := by
  rw [holds, h, Option.some_beq_some, beq_false]

end CompareOp

/-- A value is like a pattern when it is a text that matches the tokens of the pattern. -/
def Value.IsLike (pattern : String) (ignoreCase : Bool) (escape : String) : Value → Prop
  | .str s =>
      Text.LikeMatches (Text.sameChar ignoreCase) (Text.likeTokens pattern escape) (Text.codePoints s)
  | _ => False

/-! ## Predicates -/

namespace Predicate

mutual

/-- The ordinary reading of a predicate on a value. Spatial relations and unknown conditions are not
known to hold. -/
def Holds : Predicate → Value → Prop
  | .compare op field constant, v => ∃ x, v.get? field = some x ∧ op.holds x constant = true
  | .joined .all parts, v => HoldAll parts v
  | .joined .any parts, v => HoldsSome parts v
  | .among field constants, v => ∃ x, v.get? field = some x ∧ ∃ c ∈ constants, x.same c = true
  | .isNull field, v => ∀ x, v.get? field = some x → x.isNull = true
  | .notNull field, v => ∃ x, v.get? field = some x ∧ x.isNull = false
  | .like field pattern ignoreCase escape, v =>
      ∃ x, v.get? field = some x ∧ x.IsLike pattern ignoreCase escape
  | .member field inner, v => ∃ x, v.get? field = some x ∧ Holds inner x
  | .spatial _ _ _ _, _ | .unknown _, _ => False

/-- Whether all of several predicates hold. -/
def HoldAll : List Predicate → Value → Prop
  | [], _ => True
  | p :: rest, v => Holds p v ∧ HoldAll rest v

/-- Whether one of several predicates holds. -/
def HoldsSome : List Predicate → Value → Prop
  | [], _ => False
  | p :: rest, v => Holds p v ∨ HoldsSome rest v

end

variable {p q : Predicate} {v : Value}

/-- `HoldAll` speaks of every predicate. -/
theorem holdAll_iff {parts : List Predicate} : HoldAll parts v ↔ ∀ p ∈ parts, p.Holds v := by
  induction parts with
  | nil => simp [HoldAll]
  | cons p rest ih => rw [HoldAll, ih, List.forall_mem_cons]

/-- `HoldsSome` speaks of some predicate. -/
theorem holdsSome_iff {parts : List Predicate} :
    HoldsSome parts v ↔ ∃ p ∈ parts, p.Holds v := by
  induction parts with
  | nil => simp [HoldsSome]
  | cons p rest ih => simp [HoldsSome, ih]

/-- A conjunction holds when all of its parts do. -/
theorem holds_all {parts : List Predicate} :
    (joined .all parts).Holds v ↔ ∀ p ∈ parts, p.Holds v := holdAll_iff

/-- A disjunction holds when some of its parts do. -/
theorem holds_any {parts : List Predicate} :
    (joined .any parts).Holds v ↔ ∃ p ∈ parts, p.Holds v := holdsSome_iff

/-- A member holds when there is one that its predicate holds of. -/
theorem holds_member {field : String} :
    (member field p).Holds v ↔ ∃ x, v.get? field = some x ∧ p.Holds x := Iff.rfl

/-- The parts under `all` hold together when the predicate does. -/
theorem holds_partsUnder_all (p : Predicate) (v : Value) :
    (∀ part ∈ p.partsUnder .all, part.Holds v) ↔ p.Holds v := by
  cases p with
  | joined junction parts =>
      cases junction with
      | all => rw [partsUnder, if_pos rfl, holds_all]
      | any => rw [partsUnder, if_neg (by decide), List.forall_mem_singleton]
  | _ => exact List.forall_mem_singleton

/-- One of the parts under `any` holds when the predicate does. -/
theorem holds_partsUnder_any (p : Predicate) (v : Value) :
    (∃ part ∈ p.partsUnder .any, part.Holds v) ↔ p.Holds v := by
  have hone : ∀ q : Predicate, (∃ part ∈ [q], part.Holds v) ↔ q.Holds v := by simp
  cases p with
  | joined junction parts =>
      cases junction with
      | any => rw [partsUnder, if_pos rfl, holds_any]
      | all =>
          rw [partsUnder, if_neg (by decide)]
          exact hone _
  | _ => exact hone _

/-- **A conjunction may be flattened.** -/
theorem holds_join_all : (p.join .all q).Holds v ↔ p.Holds v ∧ q.Holds v := by
  rw [join, holds_all, List.forall_mem_append, holds_partsUnder_all, holds_partsUnder_all]

/-- **A disjunction may be flattened.** -/
theorem holds_join_any : (p.join .any q).Holds v ↔ p.Holds v ∨ q.Holds v := by
  have hparts : ∀ ps qs : List Predicate, (∃ part ∈ ps ++ qs, part.Holds v) ↔
      (∃ part ∈ ps, part.Holds v) ∨ ∃ part ∈ qs, part.Holds v := by
    intro ps qs
    simp only [List.mem_append, or_and_right, exists_or]
  rw [join, holds_any, hparts, holds_partsUnder_any, holds_partsUnder_any]

/-- A predicate beneath members holds of what the members lead to. -/
theorem holds_foldr_member (parents : List String) :
    (parents.foldr .member p).Holds v ↔ ∃ x, v.along parents = some x ∧ p.Holds x := by
  induction parents generalizing v with
  | nil => simp [Value.along]
  | cons name parents ih =>
      rw [List.foldr_cons, holds_member]
      simp only [ih, Value.along, List.foldlM_cons]
      rcases v.get? name with - | x
      · simp
      · simp

end Predicate

/-- A test at the end of a path stands beneath the members on the way. -/
theorem leaf_eq {path : String} {parents : List String} {last : String}
    (hpath : Path.segments path = parents ++ [last]) (make : String → Predicate) :
    Reading.leaf path make = parents.foldr .member (make last) := by
  rw [Reading.leaf, hpath, List.getLast?_concat, List.dropLast_concat]
  cases parents with
  | nil =>
      rw [List.nil_append] at hpath
      rw [Path.eq_of_segments hpath]
      rfl
  | cons name parents => rfl

/-- **A test at the end of a path** is made on the value that the path leads to. -/
theorem holds_leaf {path : String} {v x : Value} {P : Value → Prop} {make : String → Predicate}
    (hmake : ∀ field holder, (make field).Holds holder ↔ ∃ y, holder.get? field = some y ∧ P y)
    (hx : v.along (Path.segments path) = some x) : (Reading.leaf path make).Holds v ↔ P x := by
  -- a path has one part at least
  obtain hnil | ⟨parents, last, hpath⟩ := List.eq_nil_or_concat (Path.segments path)
  · obtain ⟨segment, segments, hsplit⟩ := Path.exists_splitDots path.toList
    rw [Path.segments, hsplit] at hnil
    cases hnil
  rw [List.concat_eq_append] at hpath
  rw [hpath, Value.along, List.foldlM_append] at hx
  obtain ⟨holder, hholder, hlast⟩ := Option.bind_eq_some_iff.mp hx
  have hget : holder.get? last = some x := by simpa using hlast
  rw [leaf_eq hpath, Predicate.holds_foldr_member]
  constructor
  · rintro ⟨other, hother, hmade⟩
    obtain rfl := Option.some.inj (hholder.symm.trans hother)
    obtain ⟨y, hy, hP⟩ := (hmake last holder).mp hmade
    obtain rfl := Option.some.inj (hget.symm.trans hy)
    exact hP
  · intro hP
    exact ⟨holder, hholder, (hmake last holder).mpr ⟨x, hget, hP⟩⟩

end SearchTables
