import SearchTables.Path

/-! # Paths and the names along them

A path is cut into names at its dots, and names are put together to a path with dots between them.
The two undo each other (`ofSegments_segments`, `segments_ofSegments`), so a path lies strictly above
another one exactly when its names begin the names of the other (`above_iff`), and these are the
paths that `parents` gives (`mem_parents_iff`). -/

namespace SearchTables.Path

/-! ## Cutting at dots -/

/-- A text always has a first part. -/
theorem exists_splitDots (cs : List Char) :
    ∃ segment segments, splitDots cs = segment :: segments := by
  cases cs with
  | nil => exact ⟨_, _, rfl⟩
  | cons c cs =>
      rw [splitDots]
      split
      · exact ⟨_, _, rfl⟩
      · split <;> exact ⟨_, _, rfl⟩

/-- Cutting at every dot cuts at a given one. -/
theorem splitDots_append (cs ds : List Char) :
    splitDots (cs ++ '.' :: ds) = splitDots cs ++ splitDots ds := by
  induction cs with
  | nil => rfl
  | cons c cs ih =>
      rw [List.cons_append, splitDots, splitDots, ih]
      by_cases hdot : c = '.'
      · rw [if_pos hdot, if_pos hdot]
        rfl
      · obtain ⟨segment, segments, hsplit⟩ := exists_splitDots cs
        rw [if_neg hdot, if_neg hdot, hsplit]
        rfl

/-- Without dots there is nothing to cut. -/
theorem splitDots_of_dotless {cs : List Char} (h : '.' ∉ cs) : splitDots cs = [cs] := by
  induction cs with
  | nil => rfl
  | cons c cs ih =>
      rw [List.mem_cons, not_or] at h
      rw [splitDots, if_neg (Ne.symm h.1), ih h.2]

/-- No part has a dot. -/
theorem dotless_of_mem_splitDots {cs part : List Char} (h : part ∈ splitDots cs) : '.' ∉ part := by
  induction cs generalizing part with
  | nil =>
      obtain rfl := List.mem_singleton.1 h
      exact List.not_mem_nil
  | cons c cs ih =>
      obtain ⟨first, parts, hsplit⟩ := exists_splitDots cs
      rw [hsplit] at ih
      rw [splitDots, hsplit] at h
      by_cases hdot : c = '.'
      · rw [if_pos hdot, List.mem_cons] at h
        rcases h with rfl | h
        · exact List.not_mem_nil
        · exact ih h
      · rw [if_neg hdot, List.mem_cons] at h
        rcases h with rfl | h
        · rw [List.mem_cons, not_or]
          exact ⟨Ne.symm hdot, ih (List.mem_cons_self ..)⟩
        · exact ih (List.mem_cons_of_mem _ h)

/-- The parts with dots between them are the text again. -/
theorem intercalate_splitDots (cs : List Char) : ['.'].intercalate (splitDots cs) = cs := by
  induction cs with
  | nil => rfl
  | cons c cs ih =>
      obtain ⟨first, parts, hsplit⟩ := exists_splitDots cs
      rw [hsplit] at ih
      rw [splitDots, hsplit]
      by_cases hdot : c = '.'
      · rw [if_pos hdot, hdot, List.intercalate_cons_cons, ih]
        rfl
      · rw [if_neg hdot]
        cases parts with
        | nil =>
            rw [List.intercalate_singleton] at ih ⊢
            rw [ih]
        | cons part parts =>
            rw [List.intercalate_cons_cons] at ih ⊢
            rw [← ih]
            rfl

/-! ## Names and paths -/

/-- The names along a path with a dot in it. -/
theorem segments_append (path rest : String) :
    segments (path ++ "." ++ rest) = segments path ++ segments rest := by
  have hchars : (path ++ "." ++ rest).toList = path.toList ++ '.' :: rest.toList := by
    rw [String.toList_append, String.toList_append, List.append_assoc]
    rfl
  rw [segments, hchars, splitDots_append, List.map_append]
  rfl

/-- A path without dots is a single name. -/
theorem segments_of_dotless {name : String} (h : '.' ∉ name.toList) : segments name = [name] := by
  rw [segments, splitDots_of_dotless h, List.map_singleton, String.ofList_toList]

/-- A path has a name. -/
theorem segments_ne_nil (path : String) : segments path ≠ [] := by
  obtain ⟨first, parts, hsplit⟩ := exists_splitDots path.toList
  rw [segments, hsplit]
  simp

/-- The names along a path have no dots. -/
theorem dotless_of_mem_segments {path name : String} (h : name ∈ segments path) :
    '.' ∉ name.toList := by
  obtain ⟨part, hpart, rfl⟩ := List.mem_map.1 h
  rw [String.toList_ofList]
  exact dotless_of_mem_splitDots hpart

/-- **A path is made up of the names along it.** -/
theorem ofSegments_segments (path : String) : ofSegments (segments path) = path := by
  have hdot : ".".toList = ['.'] := rfl
  rw [← String.toList_inj, ofSegments, String.toList_intercalate, segments, List.map_map, hdot]
  simp only [Function.comp_def, String.toList_ofList, List.map_id']
  exact intercalate_splitDots path.toList

/-- Two paths along the same names are the same. -/
theorem segments_inj {path path' : String} : segments path = segments path' ↔ path = path' := by
  constructor
  · intro h
    rw [← ofSegments_segments path, h, ofSegments_segments]
  · rintro rfl
    rfl

/-- The path through one name is the name. -/
theorem ofSegments_singleton (name : String) : ofSegments [name] = name :=
  String.intercalate_singleton

/-- The path through more names goes on after a dot. -/
theorem ofSegments_append {names more : List String} (h : names ≠ []) (hmore : more ≠ []) :
    ofSegments (names ++ more) = ofSegments names ++ "." ++ ofSegments more := by
  obtain ⟨first, more, rfl⟩ := List.exists_cons_of_ne_nil hmore
  induction names with
  | nil => exact absurd rfl h
  | cons name names ih =>
      simp only [ofSegments] at ih ⊢
      cases names with
      | nil =>
          rw [List.singleton_append, String.intercalate_cons_cons, String.intercalate_singleton]
      | cons other names =>
          have ih := ih (List.cons_ne_nil _ _)
          rw [List.cons_append] at ih ⊢
          rw [List.cons_append, String.intercalate_cons_cons, String.intercalate_cons_cons, ih]
          simp only [String.append_assoc]

/-- The path through two names is that through the two joined by a dot. -/
theorem ofSegments_cons_cons (first second : String) (names : List String) :
    ofSegments (first :: second :: names) = ofSegments ((first ++ "." ++ second) :: names) := by
  cases names with
  | nil => simp only [ofSegments, String.intercalate_cons_cons, String.intercalate_singleton]
  | cons name names =>
      simp only [ofSegments, String.intercalate_cons_cons, String.append_assoc]

/-- **Names without dots are the names along their path.** -/
theorem segments_ofSegments {names : List String} (hne : names ≠ [])
    (h : ∀ name ∈ names, '.' ∉ name.toList) : segments (ofSegments names) = names := by
  induction names with
  | nil => exact absurd rfl hne
  | cons name names ih =>
      rw [List.forall_mem_cons] at h
      have hname : segments (ofSegments [name]) = [name] := by
        rw [ofSegments_singleton, segments_of_dotless h.1]
      by_cases hnames : names = []
      · rw [hnames, hname]
      · rw [← List.singleton_append, ofSegments_append (List.cons_ne_nil _ _) hnames,
          segments_append, hname, ih hnames h.2]

/-! ## Steps -/

/-- A name that is one step of a path: it is not empty and has no dot. -/
def IsStep (name : String) : Prop := name ≠ "" ∧ '.' ∉ name.toList

instance (name : String) : Decidable (IsStep name) := inferInstanceAs (Decidable (_ ∧ _))

/-- At the top a path is a name. -/
theorem under_empty (name : String) : under "" name = name := by
  by_cases h : name = ""
  · subst h
    decide
  · simp [under, join, ofSegments, h]

/-- The empty name leads nowhere else. -/
theorem under_of_empty {path : String} (hpath : path ≠ "") : under path "" = path := by
  simp [under, join, ofSegments, hpath]

/-- Beneath a path that is not empty a name comes after a dot. -/
theorem under_of_ne {path name : String} (hpath : path ≠ "") (hname : name ≠ "") :
    under path name = path ++ "." ++ name := by
  simp [under, join, ofSegments, hpath, hname]

/-- Beneath a path that is not empty the paths are not empty either. -/
theorem under_ne_empty {path name : String} (hpath : path ≠ "") : under path name ≠ "" := by
  by_cases hname : name = ""
  · rwa [hname, under_of_empty hpath]
  · rw [under_of_ne hpath hname]
    simp

/-- Going down from a name through names that are not empty leads along them. -/
theorem foldl_under_eq_ofSegments {first : String} {names : List String} (hfirst : first ≠ "")
    (hnames : ∀ name ∈ names, name ≠ "") :
    names.foldl under first = ofSegments (first :: names) := by
  induction names generalizing first with
  | nil => rw [List.foldl_nil, ofSegments_singleton]
  | cons name names ih =>
      rw [List.forall_mem_cons] at hnames
      rw [List.foldl_cons, ih (under_ne_empty hfirst) hnames.2, under_of_ne hfirst hnames.1,
        ofSegments_cons_cons]

/-- The path through steps is not empty. -/
theorem ofSegments_ne_empty {names : List String} (hne : names ≠ [])
    (h : ∀ name ∈ names, IsStep name) : ofSegments names ≠ "" := by
  intro hempty
  have hnames := segments_ofSegments hne fun name hname => (h name hname).2
  -- the empty path has one name, and that is no step
  rw [hempty] at hnames
  have hmem : "" ∈ names := by
    rw [← hnames]
    decide
  exact (h "" hmem).1 rfl

/-- One step more beneath the path through steps. -/
theorem under_ofSegments {names : List String} {name : String}
    (h : ∀ n ∈ names, IsStep n) (hname : IsStep name) :
    under (ofSegments names) name = ofSegments (names ++ [name]) := by
  by_cases hne : names = []
  · subst hne
    exact under_empty name
  · rw [under_of_ne (ofSegments_ne_empty hne h) hname.1,
      ofSegments_append hne (List.cons_ne_nil _ _)]
    simp only [ofSegments, String.intercalate_singleton]

/-- A path **along** steps: it is made up of them. -/
structure Along (path : String) (names : List String) : Prop where
  eq : path = ofSegments names
  steps : ∀ name ∈ names, IsStep name

/-- The empty path is along no steps. -/
theorem along_nil : Along "" [] := ⟨rfl, by simp⟩

/-- One step more leads to the path beneath. -/
theorem Along.step {path name : String} {names : List String} (h : Along path names)
    (hname : IsStep name) : Along (under path name) (names ++ [name]) where
  eq := by rw [h.eq, under_ofSegments h.steps hname]
  steps := by
    rw [List.forall_mem_append]
    exact ⟨h.steps, by simpa using hname⟩

/-- Going down through steps leads along them. -/
theorem Along.foldl {path : String} {names more : List String} (h : Along path names)
    (hmore : ∀ name ∈ more, IsStep name) : Along (more.foldl under path) (names ++ more) := by
  induction more generalizing path names with
  | nil => rwa [List.append_nil]
  | cons name more ih =>
      rw [List.forall_mem_cons] at hmore
      rw [List.foldl_cons, List.append_cons]
      exact ih (h.step hmore.1) hmore.2

/-! ## Paths above others -/

/-- A path lies **strictly above** another when the other goes on after it with a dot. -/
def Above (path other : String) : Prop := ∃ rest, other = path ++ "." ++ rest

/-- **A path lies strictly above another when its names begin those of the other**, which has more
names. -/
theorem above_iff {path other : String} :
    Above path other ↔ ∃ back, back ≠ [] ∧ segments other = segments path ++ back := by
  constructor
  · rintro ⟨rest, rfl⟩
    exact ⟨segments rest, segments_ne_nil rest, segments_append path rest⟩
  · rintro ⟨back, hback, hsegments⟩
    refine ⟨ofSegments back, ?_⟩
    rw [← ofSegments_segments other, hsegments, ofSegments_append (segments_ne_nil path) hback,
      ofSegments_segments]

/-- What lies strictly above a path lies strictly above whatever that path lies above. -/
theorem Above.trans {path middle other : String} (h : Above path middle) (h' : Above middle other) :
    Above path other := by
  obtain ⟨rest, rfl⟩ := h
  obtain ⟨more, rfl⟩ := h'
  exact ⟨rest ++ "." ++ more, by simp only [String.append_assoc]⟩

/-- Going down from a path that is not empty ends there or strictly beneath it. -/
theorem foldl_under_of_ne {path : String} (hpath : path ≠ "") (names : List String) :
    names.foldl under path = path ∨ Above path (names.foldl under path) := by
  induction names generalizing path with
  | nil => exact .inl rfl
  | cons name names ih =>
      rw [List.foldl_cons]
      by_cases hname : name = ""
      · rw [hname, under_of_empty hpath]
        exact ih hpath
      · have habove : Above path (under path name) := ⟨name, under_of_ne hpath hname⟩
        rcases ih (under_ne_empty hpath) with h | h
        · rw [h]
          exact .inr habove
        · exact .inr (habove.trans h)

/-- What lies strictly above a path with one more name is that path or lies strictly above it. -/
theorem above_member_iff {path above name : String} (hname : '.' ∉ name.toList) :
    Above above (path ++ "." ++ name) ↔ above = path ∨ Above above path := by
  have hsegments : segments (path ++ "." ++ name) = segments path ++ [name] := by
    rw [segments_append, segments_of_dotless hname]
  rw [above_iff, above_iff, hsegments]
  constructor
  · rintro ⟨back, hback, h⟩
    obtain ⟨front, last, rfl⟩ := (List.eq_nil_or_concat back).resolve_left hback
    rw [List.concat_eq_append, ← List.append_assoc] at h
    obtain ⟨h, -⟩ := List.append_inj' h rfl
    cases front with
    | nil =>
        rw [List.append_nil, segments_inj] at h
        exact .inl h.symm
    | cons first front => exact .inr ⟨first :: front, List.cons_ne_nil _ _, h⟩
  · rintro (rfl | ⟨back, -, h⟩)
    · exact ⟨[name], List.cons_ne_nil _ _, rfl⟩
    · exact ⟨back ++ [name], by simp, by rw [h, List.append_assoc]⟩

/-- Nothing lies strictly above a path without dots. -/
theorem not_above_of_dotless {above name : String} (hname : '.' ∉ name.toList) :
    ¬ Above above name := by
  rintro ⟨rest, rfl⟩
  apply hname
  rw [String.toList_append, String.toList_append]
  simp

/-- Of two paths above a third one, the other is a name or lies beneath it when that is a name. -/
theorem eq_or_above_of_dotless {name path other : String} (hname : '.' ∉ name.toList)
    (h : Above name other) (hpath : Above path other) : path = name ∨ Above name path := by
  obtain ⟨back, -, hback⟩ := above_iff.1 h
  obtain ⟨rest, -, hrest⟩ := above_iff.1 hpath
  obtain ⟨first, front, hfirst⟩ := List.exists_cons_of_ne_nil (segments_ne_nil path)
  -- both lists of names begin with the first name of the third path
  rw [hback, segments_of_dotless hname, hfirst] at hrest
  obtain rfl : name = first := (List.cons.inj hrest).1
  cases front with
  | nil => exact .inl (segments_inj.1 (hfirst.trans (segments_of_dotless hname).symm))
  | cons second front =>
      refine .inr (above_iff.2 ⟨second :: front, List.cons_ne_nil _ _, ?_⟩)
      rw [hfirst, segments_of_dotless hname]
      rfl

/-- The strict beginnings of names, one by one. -/
theorem mem_strictPrefixes {names front : List String} :
    front ∈ strictPrefixes names ↔ front ≠ [] ∧ ∃ back, back ≠ [] ∧ names = front ++ back := by
  have hcount : ∀ n, n ∈ (List.range names.length).drop 1 ↔ 0 < n ∧ n < names.length := by
    intro n
    rw [List.range_eq_range', List.drop_range', List.mem_range'_1]
    omega
  rw [strictPrefixes, List.mem_map]
  simp only [hcount]
  constructor
  · rintro ⟨n, ⟨hpos, hlt⟩, rfl⟩
    refine ⟨?_, names.drop n, ?_, (List.take_append_drop n names).symm⟩
    · rw [← List.length_pos_iff, List.length_take]
      omega
    · rw [← List.length_pos_iff, List.length_drop]
      omega
  · rintro ⟨hfront, back, hback, rfl⟩
    rw [← List.length_pos_iff] at hfront hback
    refine ⟨front.length, ⟨hfront, ?_⟩, List.take_left⟩
    rw [List.length_append]
    omega

/-- **The paths above given ones are those strictly above one of them.** -/
theorem mem_parents_iff {paths : List String} {path : String} :
    path ∈ parents paths ↔ ∃ p ∈ paths, Above path p := by
  have hone : ∀ p, path ∈ (strictPrefixes (segments p)).map ofSegments ↔ Above path p := by
    intro p
    rw [List.mem_map, above_iff]
    constructor
    · rintro ⟨front, hfront, rfl⟩
      obtain ⟨hne, back, hback, hsegments⟩ := mem_strictPrefixes.1 hfront
      have hdotless : ∀ name ∈ front, '.' ∉ name.toList := by
        intro name hname
        exact dotless_of_mem_segments (hsegments ▸ List.mem_append_left back hname)
      exact ⟨back, hback, by rw [segments_ofSegments hne hdotless, hsegments]⟩
    · rintro ⟨back, hback, hsegments⟩
      exact ⟨segments path, mem_strictPrefixes.2 ⟨segments_ne_nil path, back, hback, hsegments⟩,
        ofSegments_segments path⟩
  rw [parents, List.mem_eraseDups, List.mem_flatMap]
  simp only [hone]

end SearchTables.Path
