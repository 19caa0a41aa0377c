import SearchTables.Proofs.Json.Canonical

/-! # Values up to the order of members

Two values are **alike** when they have one form once the members of every object are in the order of
their names. Values that are alike differ in the order of members at most (`Alike.reordered`), and the
order in which the members of an object were written does not matter (`sortNames_eq_of_perm`). Printing
the sorted values tells just whether they are alike (`render_sortNames_eq_iff`). -/

namespace SearchTables

namespace Json

/-! ## Reordering -/

/-- The same value up to the order of the members of objects, at any depth. -/
inductive Reordered : Json → Json → Prop where
  /-- The values have one form. -/
  | same {j j' : Json} (h : form j = form j') : Reordered j j'
  /-- The members of an object come in another order. -/
  | members {members members' : List (String × Json)} (h : members.Perm members') :
      Reordered (.obj members) (.obj members')
  /-- An item of an array is reordered. -/
  | item {v v' : Json} (before after : List Json) (h : Reordered v v') :
      Reordered (.arr (before ++ v :: after)) (.arr (before ++ v' :: after))
  /-- The value of a member is reordered. -/
  | value {v v' : Json} (before after : List (String × Json)) (name : String) (h : Reordered v v') :
      Reordered (.obj (before ++ (name, v) :: after)) (.obj (before ++ (name, v') :: after))
  /-- One reordering after another. -/
  | trans {j j' j'' : Json} (h : Reordered j j') (h' : Reordered j' j'') : Reordered j j''

/-- A reordering can be undone. -/
theorem Reordered.symm {j j' : Json} (h : Reordered j j') : Reordered j' j := by
  induction h with
  | same h => exact .same h.symm
  | members h => exact .members h.symm
  | item before after _ ih => exact .item before after ih
  | value before after name _ ih => exact .value before after name ih
  | trans _ _ ih ih' => exact ih'.trans ih

/-- Items are reordered one by one. -/
theorem reordered_items {items : List Json} (h : ∀ item ∈ items, Reordered item item.sortNames)
    (before : List Json) :
    Reordered (.arr (before ++ items)) (.arr (before ++ sortNamesItems items)) := by
  induction items generalizing before with
  | nil => exact .same rfl
  | cons item items ih =>
      rw [List.forall_mem_cons] at h
      -- the items in front are sorted by now, so the rest starts after one more of them
      have hrest := ih h.2 (before ++ [item.sortNames])
      rw [List.append_assoc, List.append_assoc] at hrest
      exact (Reordered.item before items h.1).trans hrest

/-- A member finds its place among the others. -/
theorem insertSorted_perm (name : String) (value : Json) (members : List (String × Json)) :
    (insertSorted name value members).Perm ((name, value) :: members) := by
  induction members with
  | nil => exact .refl _
  | cons m members ih =>
      obtain ⟨n, v⟩ := m
      rw [insertSorted]
      split
      · exact .refl _
      · exact (ih.cons _).trans (.swap ..)

/-- Sorting changes the order of the members and what is inside. -/
theorem sortNamesMembers_perm (members : List (String × Json)) :
    (sortNamesMembers members).Perm (members.map fun m => (m.1, m.2.sortNames)) := by
  induction members with
  | nil => exact .refl _
  | cons m members ih =>
      obtain ⟨name, value⟩ := m
      exact (insertSorted_perm name value.sortNames _).trans (ih.cons _)

/-- The values of members are reordered one by one. -/
theorem reordered_values {members : List (String × Json)}
    (h : ∀ m ∈ members, Reordered m.2 m.2.sortNames) (before : List (String × Json)) :
    Reordered (.obj (before ++ members))
      (.obj (before ++ members.map fun m => (m.1, m.2.sortNames))) := by
  induction members generalizing before with
  | nil => exact .same rfl
  | cons m members ih =>
      rw [List.forall_mem_cons] at h
      have hrest := ih h.2 (before ++ [(m.1, m.2.sortNames)])
      rw [List.append_assoc, List.append_assoc] at hrest
      exact (Reordered.value before members m.1 h.1).trans hrest

/-- **Sorting only reorders.** -/
theorem reordered_sortNames (j : Json) : Reordered j j.sortNames := by
  induction j using inductOn with
  | null => exact .same rfl
  | bool b => exact .same rfl
  | int n => exact .same rfl
  | float x => exact .same rfl
  | str s => exact .same rfl
  | arr items ih => exact reordered_items ih []
  | obj members ih =>
      exact (reordered_values ih []).trans (.members (sortNamesMembers_perm members).symm)

/-! ## Sorted members -/

/-- A member comes before another one in the order of names. -/
def Before (m m' : String × Json) : Prop := Text.precedes m.1 m'.1 = true

/-- No member comes before one that comes before it. -/
theorem Before.asymm {m m' : String × Json} (h : Before m m') : ¬Before m' m := by
  intro h'
  exact List.lt_asymm (of_decide_eq_true h) (of_decide_eq_true h')

/-- Of two names with different code points one comes first. -/
theorem before_of_not_before {m m' : String × Json}
    (hne : Text.codePoints m.1 ≠ Text.codePoints m'.1) (h : ¬Before m m') : Before m' m := by
  have hnot : ¬Text.codePoints m.1 < Text.codePoints m'.1 := fun hlt => h (decide_eq_true hlt)
  refine decide_eq_true ?_
  rcases List.le_iff_lt_or_eq.1 (List.not_lt.1 hnot) with h | h
  · exact h
  · exact absurd h.symm hne

/-- Inserting a member with a new name keeps the members sorted. -/
theorem pairwise_insertSorted {name : String} {value : Json} {members : List (String × Json)}
    (hnew : ∀ m ∈ members, Text.codePoints name ≠ Text.codePoints m.1)
    (h : members.Pairwise Before) : (insertSorted name value members).Pairwise Before := by
  induction members with
  | nil => exact List.pairwise_singleton ..
  | cons m members ih =>
      obtain ⟨n, v⟩ := m
      rw [List.forall_mem_cons] at hnew
      rw [List.pairwise_cons] at h
      rw [insertSorted]
      split
      · rename_i hfirst
        refine List.pairwise_cons.2 ⟨?_, List.pairwise_cons.2 h⟩
        rw [List.forall_mem_cons]
        refine ⟨hfirst, fun m hm => ?_⟩
        exact decide_eq_true (List.lt_trans (of_decide_eq_true hfirst) (of_decide_eq_true (h.1 m hm)))
      · rename_i hlater
        refine List.pairwise_cons.2 ⟨fun m hm => ?_, ih hnew.2 h.2⟩
        rcases List.mem_cons.1 ((insertSorted_perm name value members).mem_iff.1 hm) with rfl | hm
        · exact before_of_not_before hnew.1 hlater
        · exact h.1 m hm

/-- Whether the names of members have different code points. -/
def DistinctNames (members : List (String × Json)) : Prop :=
  (members.map fun m => Text.codePoints m.1).Nodup

/-- The members of an object with distinct names are sorted. -/
theorem pairwise_sortNamesMembers {members : List (String × Json)} (h : DistinctNames members) :
    (sortNamesMembers members).Pairwise Before := by
  induction members with
  | nil => exact .nil
  | cons m members ih =>
      obtain ⟨name, value⟩ := m
      rw [DistinctNames, List.map_cons, List.nodup_cons] at h
      refine pairwise_insertSorted (fun m hm hname => ?_) (ih h.2)
      obtain ⟨m', hm', rfl⟩ := List.mem_map.1 ((sortNamesMembers_perm members).mem_iff.1 hm)
      exact h.1 (List.mem_map.2 ⟨m', hm', hname.symm⟩)

/-- **The order in which the members of an object were written does not matter** once they are sorted. -/
theorem sortNames_eq_of_perm {members members' : List (String × Json)} (h : DistinctNames members)
    (hperm : members.Perm members') : sortNames (.obj members) = sortNames (.obj members') := by
  have h' : DistinctNames members' := (hperm.map _).nodup_iff.1 h
  have hsorted : (sortNamesMembers members).Perm (sortNamesMembers members') :=
    (sortNamesMembers_perm members).trans ((hperm.map _).trans (sortNamesMembers_perm members').symm)
  rw [sortNames, sortNames]
  refine congrArg Json.obj (hsorted.eq_of_pairwise (fun m m' _ _ hm hm' => ?_)
    (pairwise_sortNamesMembers h) (pairwise_sortNamesMembers h'))
  exact absurd hm' hm.asymm

/-! ## Values that are alike -/

/-- Two values are **alike** when they have one form once the members of objects are in the order of
their names. -/
def Alike (j j' : Json) : Prop := form j.sortNames = form j'.sortNames

/-- **Sorted values have one text just when they are alike.** -/
theorem render_sortNames_eq_iff {j j' : Json} :
    render .spaced j.sortNames = render .spaced j'.sortNames ↔ Alike j j' := render_eq_iff

/-- **Values that are alike differ in the order of members at most.** -/
theorem Alike.reordered {j j' : Json} (h : Alike j j') : Reordered j j' :=
  (reordered_sortNames j).trans ((Reordered.same h).trans (reordered_sortNames j').symm)

end Json
end SearchTables
