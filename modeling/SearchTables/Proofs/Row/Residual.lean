import SearchTables.Row.Residual
import SearchTables.Proofs.Json.Place

/-! # Residual content — what is left of a document, place by place

The residual of a document is cut out of it on the way down: an object above a mapped path is looked
into, a value at a mapped path is dropped, and anything else is taken over whole. `Kept` says so of
the values at each place (`at_residual_iff`). Whether a value that is no object is kept shows in the
keys alone: they have to come past no terminal mapped path (`kept_iff_passes`, `passes_iff`). When
the keys of the document are steps of paths and there are objects wherever a mapped path passes
through, the residual and the terminal mapped paths share the document out between them
(`residual_partitions`). -/

namespace SearchTables

/-- A mapped path is **terminal** when it lies strictly above no mapped path. -/
def Terminal (mapped : List String) (path : String) : Prop :=
  path ∈ mapped ∧ ∀ p ∈ mapped, ¬ Path.Above path p

/-- A path is **undeclared** when it is not mapped and lies strictly above no mapped path. -/
def Undeclared (mapped : List String) (path : String) : Prop :=
  path ∉ mapped ∧ ∀ p ∈ mapped, ¬ Path.Above path p

namespace PathSet

/-! ## Place by place -/

/-- What a member of an object at a path leaves in the residual. -/
inductive Leaves (s : PathSet) (path name : String) (inner : Json) : Json → Prop where
  /-- Above a mapped path the undeclared members are left, if there are any. -/
  | thinned (habove : s.isAbove (Path.under path name) = true)
      (hfound : s.residual (Path.under path name) inner ≠ []) :
      Leaves s path name inner (.obj (s.residual (Path.under path name) inner))
  /-- At an undeclared path everything is left. -/
  | whole (habove : s.isAbove (Path.under path name) = false)
      (hmapped : s.isMapped (Path.under path name) = false) : Leaves s path name inner inner

/-- What a member above a mapped path leaves. -/
theorem leaves_of_above {s : PathSet} {path name : String} {inner v : Json}
    (habove : s.isAbove (Path.under path name) = true) :
    s.Leaves path name inner v ↔ s.residual (Path.under path name) inner ≠ [] ∧
      v = .obj (s.residual (Path.under path name) inner) := by
  constructor
  · rintro (⟨-, hfound⟩ | ⟨hbelow, -⟩)
    · exact ⟨hfound, rfl⟩
    · rw [habove] at hbelow
      cases hbelow
  · rintro ⟨hfound, rfl⟩
    exact .thinned habove hfound

/-- What a member leaves that is not above a mapped path. -/
theorem leaves_of_not_above {s : PathSet} {path name : String} {inner v : Json}
    (hbelow : s.isAbove (Path.under path name) = false) :
    s.Leaves path name inner v ↔ s.isMapped (Path.under path name) = false ∧ v = inner := by
  constructor
  · rintro (⟨habove, -⟩ | ⟨-, hmapped⟩)
    · rw [hbelow] at habove
      cases habove
    · exact ⟨hmapped, rfl⟩
  · rintro ⟨hmapped, rfl⟩
    exact .whole hbelow hmapped

/-- The first member of an object leaves something of its own or nothing at all. -/
theorem mem_residualMembers_cons_iff {s : PathSet} {path name n : String} {inner v : Json}
    {rest : List (String × Json)} :
    (name, v) ∈ s.residualMembers path ((n, inner) :: rest) ↔
      name = n ∧ s.Leaves path n inner v ∨ (name, v) ∈ s.residualMembers path rest := by
  rw [residualMembers]
  by_cases habove : s.isAbove (Path.under path n) = true
  · rw [if_pos habove, leaves_of_above habove]
    split
    · rename_i hnone
      simp [hnone]
    · rename_i hsome
      rw [List.mem_cons, Prod.mk.injEq, and_iff_right hsome]
  · rw [if_neg habove, leaves_of_not_above (by simpa using habove)]
    by_cases hmapped : s.isMapped (Path.under path n) = true
    · simp [hmapped]
    · have hunmapped : s.isMapped (Path.under path n) = false := by simpa using hmapped
      rw [if_neg hmapped, List.mem_cons, Prod.mk.injEq, and_iff_right hunmapped]

/-- **The members of a residual are what the members of the object leave.** -/
theorem mem_residualMembers_iff {s : PathSet} {path name : String} {v : Json}
    {members : List (String × Json)} :
    (name, v) ∈ s.residualMembers path members ↔
      ∃ inner, (name, inner) ∈ members ∧ s.Leaves path name inner v := by
  induction members with
  | nil => simp [residualMembers]
  | cons member rest ih =>
      obtain ⟨n, inner⟩ := member
      rw [mem_residualMembers_cons_iff, ih]
      constructor
      · rintro (⟨rfl, hleaves⟩ | ⟨inner', hmember, hleaves⟩)
        · exact ⟨inner, List.mem_cons_self .., hleaves⟩
        · exact ⟨inner', List.mem_cons_of_mem _ hmember, hleaves⟩
      · rintro ⟨inner', hmember, hleaves⟩
        rcases List.mem_cons.1 hmember with heq | hmember
        · obtain ⟨rfl, rfl⟩ := Prod.mk.inj heq
          exact .inl ⟨rfl, hleaves⟩
        · exact .inr ⟨inner', hmember, hleaves⟩

/-- What the residual of a value at a path keeps at each place beneath it. -/
inductive Kept (s : PathSet) : String → Json → List String → Json → Prop where
  /-- The value at an undeclared path is kept whole. -/
  | whole {path key : String} {members : List (String × Json)} {inner : Json} {keys : List String}
      {value : Json} (hmember : (key, inner) ∈ members)
      (habove : s.isAbove (Path.under path key) = false)
      (hmapped : s.isMapped (Path.under path key) = false) (hat : inner.At keys value) :
      Kept s path (.obj members) (key :: keys) value
  /-- Of an object above a mapped path its own residual is kept, unless that is empty. -/
  | thinned {path key : String} {members : List (String × Json)} {inner : Json}
      (hmember : (key, inner) ∈ members) (habove : s.isAbove (Path.under path key) = true)
      (hfound : s.residual (Path.under path key) inner ≠ []) :
      Kept s path (.obj members) [key] (.obj (s.residual (Path.under path key) inner))
  /-- Inside such an object is kept what its own residual keeps. -/
  | inside {path key : String} {members : List (String × Json)} {inner : Json} {keys : List String}
      {value : Json} (hmember : (key, inner) ∈ members)
      (habove : s.isAbove (Path.under path key) = true)
      (hkept : Kept s (Path.under path key) inner keys value) :
      Kept s path (.obj members) (key :: keys) value

variable {s : PathSet} {path : String} {j value : Json} {keys : List String}

/-- Something is kept beneath keys only. -/
theorem Kept.ne_nil (h : s.Kept path j keys value) : keys ≠ [] := by
  cases h <;> exact List.cons_ne_nil _ _

/-- What is kept stands in the residual. -/
theorem Kept.at_residual (h : s.Kept path j keys value) :
    (Json.obj (s.residual path j)).At keys value := by
  induction h with
  | whole hmember habove hmapped hat =>
      exact .member (mem_residualMembers_iff.2 ⟨_, hmember, .whole habove hmapped⟩) hat
  | thinned hmember habove hfound =>
      exact .member (mem_residualMembers_iff.2 ⟨_, hmember, .thinned habove hfound⟩) (.root _)
  | @inside path key members inner _ _ hmember habove hkept ih =>
      -- what is kept inside shows that the residual there is not empty
      have hfound : s.residual (Path.under path key) inner ≠ [] := by
        intro hnone
        rw [hnone] at ih
        obtain ⟨key, keys, rfl⟩ := List.exists_cons_of_ne_nil hkept.ne_nil
        obtain ⟨_, hnothing, -⟩ := Json.at_obj_cons_iff.1 ih
        cases hnothing
      exact .member (mem_residualMembers_iff.2 ⟨_, hmember, .thinned habove hfound⟩) ih

/-- **In the residual stands what is kept.** -/
theorem at_residual_iff (hkeys : keys ≠ []) :
    (Json.obj (s.residual path j)).At keys value ↔ s.Kept path j keys value := by
  refine ⟨fun h => ?_, Kept.at_residual⟩
  induction keys generalizing path j with
  | nil => exact absurd rfl hkeys
  | cons key keys ih =>
      obtain ⟨left, hleft, hat⟩ := Json.at_obj_cons_iff.1 h
      cases j with
      | obj members =>
          obtain ⟨inner, hmember, hleaves⟩ := mem_residualMembers_iff.1 hleft
          cases hleaves with
          | whole habove hmapped => exact .whole hmember habove hmapped hat
          | thinned habove hfound =>
              by_cases hlast : keys = []
              · subst hlast
                obtain rfl := Json.at_nil_iff.1 hat
                exact .thinned hmember habove hfound
              · exact .inside hmember habove (ih hlast hat)
      | _ =>
          rw [residual_of_not_object s path (by simp)] at hleft
          cases hleft

/-- What is kept and is no object stands in the document. -/
theorem Kept.at (h : s.Kept path j keys value) (hvalue : ¬ value.IsObject) : j.At keys value := by
  induction h with
  | whole hmember _ _ hat => exact .member hmember hat
  | thinned => exact absurd ⟨_, rfl⟩ hvalue
  | inside hmember _ _ ih => exact .member hmember (ih hvalue)

/-- The keys of a residual are keys of the object, in their order. -/
theorem keys_residualMembers (s : PathSet) (path : String) (members : List (String × Json)) :
    ((s.residualMembers path members).map (·.1)).Sublist (members.map (·.1)) := by
  induction members with
  | nil => exact List.Sublist.refl _
  | cons member rest ih =>
      obtain ⟨name, inner⟩ := member
      rw [residualMembers]
      split
      · split
        · exact ih.cons _
        · exact ih.cons_cons _
      · split
        · exact ih.cons _
        · exact ih.cons_cons _

/-- **An object that is kept has keys of the object in its place**, in their order. -/
theorem Kept.keys_sublist {members : List (String × Json)} (h : s.Kept path j keys (.obj members)) :
    ∃ all, j.At keys (.obj all) ∧ (members.map (·.1)).Sublist (all.map (·.1)) := by
  generalize hvalue : Json.obj members = value at h
  induction h with
  | whole hmember _ _ hat =>
      subst hvalue
      exact ⟨members, .member hmember hat, List.Sublist.refl _⟩
  | @thinned path key _ inner hmember _ hfound =>
      obtain rfl := Json.obj.inj hvalue
      cases inner with
      | obj all => exact ⟨all, .member hmember (.root _), keys_residualMembers s _ all⟩
      | _ => exact absurd (residual_of_not_object s _ (by simp)) hfound
  | inside hmember _ _ ih =>
      obtain ⟨all, hat, hsub⟩ := ih hvalue
      exact ⟨all, .member hmember hat, hsub⟩

/-! ## The way down -/

variable {mapped : List String} {key : String}

/-- A path set knows the mapped paths. -/
theorem isMapped_ofMapped {path : String} :
    (ofMapped mapped).isMapped path = true ↔ path ∈ mapped := by
  simp [isMapped, ofMapped]

/-- A path set knows what lies strictly above a mapped path. -/
theorem isAbove_ofMapped {path : String} :
    (ofMapped mapped).isAbove path = true ↔ ∃ p ∈ mapped, Path.Above path p := by
  rw [isAbove, ofMapped, List.contains_iff_mem, Path.mem_parents_iff]

/-- What is not above a mapped path lies strictly above no mapped path. -/
theorem isAbove_ofMapped_eq_false {path : String} :
    (ofMapped mapped).isAbove path = false ↔ ∀ p ∈ mapped, ¬ Path.Above path p := by
  rw [← Bool.not_eq_true, isAbove_ofMapped]
  simp

/-- What is not mapped is none of the mapped paths. -/
theorem isMapped_ofMapped_eq_false {path : String} :
    (ofMapped mapped).isMapped path = false ↔ path ∉ mapped := by
  rw [← Bool.not_eq_true, isMapped_ofMapped]

/-- What is no object **passes** on the way down from a path when the way leads past an undeclared
path, with paths above mapped ones before it. -/
def Passes (s : PathSet) : String → List String → Prop
  | path, [] => s.isAbove path = false ∧ s.isMapped path = false
  | path, key :: keys =>
      if s.isAbove path = true then Passes s (Path.under path key) keys else s.isMapped path = false

/-- **What is no object is kept when it passes.** -/
theorem kept_iff_passes (hvalue : ¬ value.IsObject) :
    s.Kept path j (key :: keys) value ↔
      j.At (key :: keys) value ∧ s.Passes (Path.under path key) keys := by
  constructor
  · -- the induction is on how the value is kept, for any names that lead there
    intro h
    refine ⟨h.at hvalue, ?_⟩
    generalize hall : key :: keys = all at h
    induction h generalizing key keys with
    | whole _ habove hmapped _ =>
        obtain ⟨rfl, rfl⟩ := List.cons.inj hall
        cases keys with
        | nil => exact ⟨habove, hmapped⟩
        | cons next keys => simpa [Passes, habove] using hmapped
    | thinned => exact absurd ⟨_, rfl⟩ hvalue
    | inside _ habove hkept ih =>
        obtain ⟨rfl, rfl⟩ := List.cons.inj hall
        obtain ⟨next, keys, rfl⟩ := List.exists_cons_of_ne_nil hkept.ne_nil
        rw [Passes, if_pos habove]
        exact ih hvalue rfl
  · rintro ⟨hat, hpasses⟩
    induction keys generalizing path key j with
    | nil =>
        obtain ⟨members, rfl⟩ := hat.isObject
        obtain ⟨inner, hmember, hat⟩ := Json.at_obj_cons_iff.1 hat
        exact .whole hmember hpasses.1 hpasses.2 hat
    | cons next keys ih =>
        obtain ⟨members, rfl⟩ := hat.isObject
        obtain ⟨inner, hmember, hat⟩ := Json.at_obj_cons_iff.1 hat
        rw [Passes] at hpasses
        by_cases habove : s.isAbove (Path.under path key) = true
        · rw [if_pos habove] at hpasses
          exact .inside hmember habove (ih hat hpasses)
        · rw [if_neg habove] at hpasses
          exact .whole hmember (by simpa using habove) hpasses hat

/-- **What passes comes past no terminal path and does not end above a mapped one.** -/
theorem passes_iff (hpath : path ≠ "") :
    (ofMapped mapped).Passes path keys ↔
      (∀ front, front <+: keys → ¬ Terminal mapped (front.foldl Path.under path)) ∧
        ∀ p ∈ mapped, ¬ Path.Above (keys.foldl Path.under path) p := by
  induction keys generalizing path with
  | nil =>
      rw [Passes, isAbove_ofMapped_eq_false, isMapped_ofMapped_eq_false]
      constructor
      · rintro ⟨habove, hmapped⟩
        refine ⟨?_, habove⟩
        rintro front hfront ⟨hterminal, -⟩
        obtain rfl := List.prefix_nil.1 hfront
        exact hmapped hterminal
      · rintro ⟨hterminal, habove⟩
        exact ⟨habove, fun hmapped => hterminal [] (List.prefix_refl _) ⟨hmapped, habove⟩⟩
  | cons key keys ih =>
      rw [Passes]
      by_cases habove : (ofMapped mapped).isAbove path = true
      · -- above a mapped path the way goes on, and the path itself is not terminal
        rw [if_pos habove, ih (Path.under_ne_empty hpath), List.foldl_cons]
        obtain ⟨p, hp, habove⟩ := isAbove_ofMapped.1 habove
        refine and_congr_left fun _ => ?_
        constructor
        · intro h front hfront
          cases front with
          | nil => exact fun hterminal => hterminal.2 p hp habove
          | cons first front =>
              obtain ⟨rfl, hrest⟩ := List.cons_prefix_cons.1 hfront
              exact h front hrest
        · intro h front hfront
          exact h (key :: front) (List.cons_prefix_cons.2 ⟨rfl, hfront⟩)
      · -- elsewhere everything is kept or nothing is, and no mapped path lies beneath
        rw [if_neg habove, isMapped_ofMapped_eq_false]
        have hnone : ∀ p ∈ mapped, ¬ Path.Above path p := by
          simpa [isAbove_ofMapped] using habove
        constructor
        · intro hmapped
          refine ⟨?_, ?_⟩
          · rintro front - ⟨hterminal, -⟩
            rcases Path.foldl_under_of_ne hpath front with h | h
            · exact hmapped (h ▸ hterminal)
            · exact hnone _ hterminal h
          · intro p hp h
            rcases Path.foldl_under_of_ne hpath (key :: keys) with hsame | hbeneath
            · exact hnone p hp (hsame ▸ h)
            · exact hnone p hp (hbeneath.trans h)
        · intro h hmapped
          exact h.1 [] List.nil_prefix ⟨hmapped, hnone⟩

/-! ## Documents whose keys are steps of paths -/

/-- The keys in a document are steps of paths. -/
def HasSteps (j : Json) : Prop := ∀ keys value, j.At keys value → ∀ key ∈ keys, Path.IsStep key

/-- The keys in a member of an object are among those in the object. -/
theorem HasSteps.member {members : List (String × Json)} (h : HasSteps (.obj members))
    {key : String} {inner : Json} (hmember : (key, inner) ∈ members) :
    Path.IsStep key ∧ HasSteps inner := by
  refine ⟨h [key] inner (.member hmember (.root _)) key (List.mem_cons_self ..), ?_⟩
  intro keys value hat k hk
  exact h (key :: keys) value (.member hmember hat) k (List.mem_cons_of_mem _ hk)

section Steps

variable {front : List String}

/-- **An empty object that is kept belongs to the value at an undeclared path**, with no terminal path
before it. -/
theorem Kept.of_empty (h : (ofMapped mapped).Kept path j keys (.obj [])) (hsteps : HasSteps j)
    (hpath : Path.Along path front) :
    ∃ above beneath found, keys = above ++ beneath ∧ above ≠ [] ∧
      Undeclared mapped (Path.ofSegments (front ++ above)) ∧
      (∀ more, more <+: above → more ≠ [] → ¬ Terminal mapped (Path.ofSegments (front ++ more))) ∧
      j.At above found ∧ (ofMapped mapped).Kept path j above found ∧ found.At beneath (.obj []) := by
  generalize hvalue : Json.obj [] = value at h
  induction h generalizing front with
  | @whole path key members inner keys value hmember habove hmapped hat =>
      obtain ⟨hkey, -⟩ := hsteps.member hmember
      -- the value at this path was kept as a whole, so the empty object is inside it
      have hkept := Kept.whole hmember habove hmapped (.root inner)
      rw [(hpath.step hkey).eq] at habove hmapped
      refine ⟨[key], keys, inner, rfl, List.cons_ne_nil _ _, ?_, ?_, .member hmember (.root _), hkept,
        hvalue ▸ hat⟩
      · exact ⟨isMapped_ofMapped_eq_false.1 hmapped, isAbove_ofMapped_eq_false.1 habove⟩
      · rintro more hmore hne ⟨hterminal, -⟩
        obtain ⟨first, more, rfl⟩ := List.exists_cons_of_ne_nil hne
        obtain ⟨rfl, hrest⟩ := List.cons_prefix_cons.1 hmore
        obtain rfl := List.prefix_nil.1 hrest
        exact isMapped_ofMapped_eq_false.1 hmapped hterminal
  | thinned _ _ hfound => exact absurd (Json.obj.inj hvalue).symm hfound
  | @inside path key members inner keys value hmember habove hkept ih =>
      obtain ⟨hkey, hinner⟩ := hsteps.member hmember
      obtain ⟨above, beneath, found, rfl, -, hundeclared, hterminal, hat, hkept', hempty⟩ :=
        ih hinner (hpath.step hkey) hvalue
      rw [← List.append_cons] at hundeclared
      refine ⟨key :: above, beneath, found, rfl, List.cons_ne_nil _ _, hundeclared, ?_,
        .member hmember hat, .inside hmember habove hkept', hempty⟩
      rw [(hpath.step hkey).eq, isAbove_ofMapped] at habove
      obtain ⟨p, hp, habove⟩ := habove
      intro more hmore hne
      obtain ⟨first, more, rfl⟩ := List.exists_cons_of_ne_nil hne
      obtain ⟨rfl, hrest⟩ := List.cons_prefix_cons.1 hmore
      by_cases hlast : more = []
      · -- the first path lies above a mapped one
        subst hlast
        exact fun hterminal => hterminal.2 p hp habove
      · rw [List.append_cons]
        exact hterminal more hrest hlast

/-- **What is no object passes when no terminal path comes before it**, if there are objects wherever
a mapped path passes through. -/
theorem passes_iff_of_at (hsteps : HasSteps j) (hat : j.At (key :: keys) value)
    (hvalue : ¬ value.IsObject)
    (hobjects : ∀ keys value, j.At keys value → keys ≠ [] →
      (∃ p ∈ mapped, Path.Above (Path.ofSegments keys) p) → value.IsObject) :
    (ofMapped mapped).Passes (Path.under "" key) keys ↔
      ∀ front, front <+: key :: keys → front ≠ [] → ¬ Terminal mapped (Path.ofSegments front) := by
  have hkeys : ∀ k ∈ key :: keys, Path.IsStep k := hsteps _ _ hat
  rw [List.forall_mem_cons] at hkeys
  -- the way down through steps is the path that is made up of them
  have hpath : ∀ front, front <+: keys →
      front.foldl Path.under key = Path.ofSegments (key :: front) := by
    intro front hfront
    have halong := Path.along_nil.step hkeys.1
    rw [Path.under_empty] at halong
    exact (halong.foldl fun k hk => hkeys.2 k (hfront.subset hk)).eq
  rw [Path.under_empty, passes_iff hkeys.1.1, and_iff_left]
  · constructor
    · intro h front hfront hne
      obtain ⟨first, front, rfl⟩ := List.exists_cons_of_ne_nil hne
      obtain ⟨rfl, hrest⟩ := List.cons_prefix_cons.1 hfront
      rw [← hpath front hrest]
      exact h front hrest
    · intro h front hfront
      rw [hpath front hfront]
      exact h (key :: front) (List.cons_prefix_cons.2 ⟨rfl, hfront⟩) (List.cons_ne_nil _ _)
  · intro p hp habove
    rw [hpath keys (List.prefix_refl _)] at habove
    exact hvalue (hobjects _ _ hat (List.cons_ne_nil _ _) ⟨p, hp, habove⟩)

end Steps

/-! ## The whole document -/

/-- What of a document is left, and what the mapped paths take. -/
structure Partitions (mapped : List String) (document found : List (String × Json)) : Prop where
  /-- A value that is no object is left in its place, unless it lies at a terminal path or beneath
  one, and no other such value is there. -/
  values : ∀ keys value, ¬ value.IsObject → ((Json.obj found).At keys value ↔
    (Json.obj document).At keys value ∧
      ∀ front, front <+: keys → front ≠ [] → ¬ Terminal mapped (Path.ofSegments front))
  /-- Keys are left in their order, at every place. -/
  order : ∀ keys members, (Json.obj found).At keys (.obj members) →
    ∃ all, (Json.obj document).At keys (.obj all) ∧ (members.map (·.1)).Sublist (all.map (·.1))
  /-- An empty object is left only as part of the value at an undeclared path, which is left whole. -/
  empties : ∀ keys, keys ≠ [] → (Json.obj found).At keys (.obj []) →
    ∃ above beneath whole, keys = above ++ beneath ∧ above ≠ [] ∧
      Undeclared mapped (Path.ofSegments above) ∧ (Json.obj document).At above whole ∧
      (Json.obj found).At above whole ∧ whole.At beneath (.obj [])
  /-- Nothing is left when every key is declared, or lies beneath a terminal path, and every value
  that is no object lies at a terminal path or beneath one. -/
  nothing : (∀ keys value, (Json.obj document).At keys value → keys ≠ [] →
      ¬ Undeclared mapped (Path.ofSegments keys) ∨
        ∃ front, front <+: keys ∧ front ≠ [] ∧ Terminal mapped (Path.ofSegments front)) →
    (∀ keys value, (Json.obj document).At keys value → ¬ value.IsObject →
      ∃ front, front <+: keys ∧ front ≠ [] ∧ Terminal mapped (Path.ofSegments front)) →
    found = []

/-- **The residual and the terminal mapped paths share a document out between them**, when its keys
are steps of paths and there are objects wherever a mapped path passes through. -/
theorem residual_partitions {document : List (String × Json)} (hsteps : HasSteps (.obj document))
    (hobjects : ∀ keys value, (Json.obj document).At keys value → keys ≠ [] →
      (∃ p ∈ mapped, Path.Above (Path.ofSegments keys) p) → value.IsObject) :
    Partitions mapped document ((ofMapped mapped).residual "" (.obj document)) := by
  have hempties : ∀ keys, keys ≠ [] →
      (Json.obj ((ofMapped mapped).residual "" (.obj document))).At keys (.obj []) →
        ∃ above beneath whole, keys = above ++ beneath ∧ above ≠ [] ∧
          Undeclared mapped (Path.ofSegments above) ∧
          (∀ front, front <+: above → front ≠ [] → ¬ Terminal mapped (Path.ofSegments front)) ∧
          (Json.obj document).At above whole ∧
          (ofMapped mapped).Kept "" (.obj document) above whole ∧ whole.At beneath (.obj []) := by
    intro keys hkeys hat
    exact ((at_residual_iff hkeys).1 hat).of_empty hsteps Path.along_nil
  have hvalues : ∀ keys value, ¬ value.IsObject →
      ((Json.obj ((ofMapped mapped).residual "" (.obj document))).At keys value ↔
        (Json.obj document).At keys value ∧
          ∀ front, front <+: keys → front ≠ [] → ¬ Terminal mapped (Path.ofSegments front)) := by
    intro keys value hvalue
    cases keys with
    | nil =>
        -- at the root there is an object on both sides
        refine iff_of_false (fun hat => ?_) (fun h => ?_)
        · exact hvalue ⟨_, Json.at_nil_iff.1 hat⟩
        · exact hvalue ⟨_, Json.at_nil_iff.1 h.1⟩
    | cons key keys =>
        rw [at_residual_iff (List.cons_ne_nil _ _), kept_iff_passes hvalue]
        exact and_congr_right fun hat => passes_iff_of_at hsteps hat hvalue hobjects
  refine ⟨hvalues, ?_, ?_, ?_⟩
  · intro keys members hat
    by_cases hkeys : keys = []
    · subst hkeys
      obtain rfl := Json.obj.inj (Json.at_nil_iff.1 hat)
      exact ⟨document, .root _, keys_residualMembers _ "" document⟩
    · exact ((at_residual_iff hkeys).1 hat).keys_sublist
  · intro keys hkeys hat
    obtain ⟨above, beneath, whole, hsplit, hne, hundeclared, -, hdocument, hkept, hempty⟩ :=
      hempties keys hkeys hat
    exact ⟨above, beneath, whole, hsplit, hne, hundeclared, hdocument, hkept.at_residual, hempty⟩
  · intro hdeclared hleaves
    -- something that is left ends in a value that is no object, or in an empty object
    obtain ⟨keys, leaf, hat, hleaf⟩ :=
      Json.exists_leaf (.obj ((ofMapped mapped).residual "" (.obj document)))
    by_cases hkeys : keys = []
    · subst hkeys
      obtain rfl := Json.at_nil_iff.1 hat
      rcases hleaf with hleaf | hleaf
      · exact absurd ⟨_, rfl⟩ hleaf
      · exact Json.obj.inj hleaf
    · rcases hleaf with hleaf | rfl
      · obtain ⟨hdocument, hnone⟩ := (hvalues keys leaf hleaf).1 hat
        obtain ⟨front, hfront, hne, hterminal⟩ := hleaves keys leaf hdocument hleaf
        exact absurd hterminal (hnone front hfront hne)
      · obtain ⟨above, beneath, whole, -, hne, hundeclared, hnone, hdocument, -, -⟩ :=
          hempties keys hkeys hat
        rcases hdeclared above whole hdocument hne with h | ⟨front, hfront, hfrontne, hterminal⟩
        · exact absurd hundeclared h
        · exact absurd hterminal (hnone front hfront hfrontne)

/-- An object with a declared and an undeclared member, beside an undeclared null. -/
theorem residual_partitions_half_declared :
    let document : List (String × Json) :=
      [("a", .obj [("b", .int 1), ("x", .arr [])]), ("z", .null)]
    (ofMapped ["a", "a.b"]).residual "" (.obj document) =
      [("a", .obj [("x", .arr [])]), ("z", .null)] ∧
    Partitions ["a", "a.b"] document ((ofMapped ["a", "a.b"]).residual "" (.obj document)) := by
  intro document
  -- the places of the document, with the object among them
  have hplaces : ∀ keys value, (Json.obj document).At keys value →
      keys ∈ [[], ["a"], ["a", "b"], ["a", "x"], ["z"]] ∧ (keys = ["a"] → value.IsObject) := by
    intro keys value hat
    cases hat with
    | root => simp
    | member hmember hat =>
        simp only [document, List.mem_cons, Prod.mk.injEq, List.not_mem_nil, or_false] at hmember
        rcases hmember with ⟨rfl, rfl⟩ | ⟨rfl, rfl⟩
        · cases hat with
          | root => exact ⟨by simp, fun _ => ⟨_, rfl⟩⟩
          | member hmember hat =>
              simp only [List.mem_cons, Prod.mk.injEq, List.not_mem_nil, or_false] at hmember
              rcases hmember with ⟨rfl, rfl⟩ | ⟨rfl, rfl⟩ <;>
              · cases hat
                simp
        · cases hat
          simp
  refine ⟨rfl, residual_partitions ?_ ?_⟩
  · intro keys value hat key hkey
    have hall : ∀ keys ∈ [[], ["a"], ["a", "b"], ["a", "x"], ["z"]], ∀ key ∈ keys,
        Path.IsStep key := by decide
    exact hall keys (hplaces keys value hat).1 key hkey
  · intro keys value hat hkeys habove
    have hall : ∀ keys ∈ [["a", "b"], ["a", "x"], ["z"]],
        (ofMapped ["a", "a.b"]).isAbove (Path.ofSegments keys) = false := by decide
    rw [← isAbove_ofMapped] at habove
    obtain ⟨hplace, hobject⟩ := hplaces keys value hat
    rcases List.mem_cons.1 hplace with rfl | hplace
    · exact absurd rfl hkeys
    · rcases List.mem_cons.1 hplace with rfl | hplace
      · exact hobject rfl
      · rw [hall keys hplace] at habove
        cases habove

end PathSet

end SearchTables
