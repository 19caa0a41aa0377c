import SearchTables.Mapping.Merge

/-! # Declarations — the path data of merged mappings

Merging takes note of every field that an index declares at any depth. What it has noted in the end
says of each path which declarations there were: `mem_mappedPaths_iff`, `mem_fullTextPaths_iff` and
`companion_iff` read the merged mapping off the declarations alone, whatever the order in which they
came. -/

namespace SearchTables

/-! ## Lists that stand for sets -/

section Sets

variable {α : Type} [BEq α] [LawfulBEq α]

/-- Adding an element adds that element and no other. -/
@[simp] theorem mem_insertNew {x y : α} {xs : List α} : y ∈ insertNew x xs ↔ y = x ∨ y ∈ xs := by
  by_cases h : x ∈ xs
  · rw [insertNew, if_pos (by simpa using h)]
    constructor
    · exact Or.inr
    · rintro (rfl | hy)
      · exact h
      · exact hy
  · rw [insertNew, if_neg (by simpa using h)]
    simp [or_comm]

/-- Adding an element keeps a list free of repetitions. -/
theorem nodup_insertNew {x : α} {xs : List α} (h : xs.Nodup) : (insertNew x xs).Nodup := by
  by_cases hx : x ∈ xs
  · rwa [insertNew, if_pos (by simpa using hx)]
  · rw [insertNew, if_neg (by simpa using hx)]
    rw [List.nodup_append]
    refine ⟨h, by simp, ?_⟩
    rintro a ha b hb rfl
    exact hx (by simpa using List.mem_singleton.1 hb ▸ ha)

end Sets

/-! ## What was noted -/

/-- The fields that indices declare, at any depth. -/
def declaredFields (mappings : List IndexMapping) : List Field :=
  mappings.flatMap fun mapping => Field.walkAll mapping.fields

/-- The companion that a declaration asks for: none unless it is full-text. -/
def Field.vote (f : Field) : Option String := if f.isFullText then f.companion? else none

namespace MergeState

/-- The votes on a path. -/
def votesOn (s : MergeState) (path : String) : List (Option String) := (s.votes.lookup path).getD []

/-- What a merge has noted of the declarations so far. -/
structure Notes (s : MergeState) (seen : List Field) : Prop where
  mapped : ∀ path, path ∈ s.mappedPaths ↔ ∃ f ∈ seen, f.path = path
  fullText : ∀ path, path ∈ s.fullText ↔ ∃ f ∈ seen, f.path = path ∧ f.isFullText = true
  votes : ∀ path vote, vote ∈ s.votesOn path ↔ ∃ f ∈ seen, f.path = path ∧ f.vote = vote
  distinct : ∀ path, (s.votesOn path).Nodup

/-- The votes after a declaration: one more on its path. -/
theorem votesOn_notePath (s : MergeState) (f : Field) (path : String) :
    (s.notePath f).votesOn path =
      if path = f.path then insertNew f.vote (s.votesOn path) else s.votesOn path := by
  by_cases h : path = f.path
  · subst h
    rw [if_pos rfl]
    simp only [votesOn, notePath, lookup_insertMember_self, Option.getD_some]
    rfl
  · rw [if_neg h]
    simp only [votesOn, notePath, lookup_insertMember_of_ne h]

/-- What is so of one of several fields and one more is so of one of the several or of the one more.
-/
theorem exists_mem_concat {seen : List Field} {g : Field} {property : Field → Prop} :
    (∃ f ∈ seen ++ [g], property f) ↔ (∃ f ∈ seen, property f) ∨ property g := by
  simp only [List.mem_append, List.mem_singleton, or_and_right, exists_or, exists_eq_left]

variable {s s' : MergeState} {seen : List Field}

/-- Before the first declaration nothing was noted. -/
theorem notes_empty : Notes {} [] where
  mapped := by simp
  fullText := by simp
  votes := by simp [votesOn]
  distinct := by simp [votesOn]

/-- Noting a declaration adds it to those seen. -/
theorem Notes.notePath (h : Notes s seen) (f : Field) : Notes (s.notePath f) (seen ++ [f]) where
  mapped path := by
    rw [exists_mem_concat, ← h.mapped, or_comm, eq_comm]
    exact mem_insertNew
  fullText path := by
    rw [exists_mem_concat, ← h.fullText, MergeState.notePath]
    by_cases hf : f.isFullText = true
    · simp only [hf, if_true, mem_insertNew, and_true]
      rw [or_comm, eq_comm]
    · simp [hf]
  votes path vote := by
    rw [exists_mem_concat, ← h.votes, votesOn_notePath]
    by_cases hp : path = f.path
    · rw [if_pos hp, mem_insertNew, or_comm, eq_comm, and_iff_right hp.symm]
    · rw [if_neg hp, or_iff_left fun e => hp e.1.symm]
  distinct path := by
    rw [votesOn_notePath]
    split
    · exact nodup_insertNew (h.distinct path)
    · exact h.distinct path

/-- Noting several declarations adds them all. -/
theorem Notes.foldl_notePath (h : Notes s seen) (fields : List Field) :
    Notes (fields.foldl MergeState.notePath s) (seen ++ fields) := by
  induction fields generalizing s seen with
  | nil => simpa using h
  | cons f rest ih => simpa using ih (h.notePath f)

/-- Taking up the fields of an index changes the columns and nothing else. -/
theorem addFields_eq {index : String} {fields : List Field}
    (hs : s.addFields index fields = .ok s') : s' = { s with columns := s'.columns } := by
  induction fields generalizing s with
  | nil =>
      obtain rfl := Except.ok.inj hs
      rfl
  | cons f rest ih =>
      rw [MergeState.addFields, MergeState.addField] at hs
      split at hs
      · rename_i u hu
        split at hu
        · obtain rfl := Except.ok.inj hu
          exact (ih hs).trans rfl
        · split at hu
          · obtain rfl := Except.ok.inj hu
            exact (ih hs).trans rfl
          · simp at hu
      · simp at hs

/-- What noting a declaration keeps and no column bears on is kept by a whole merge. -/
theorem addIndices_induct {kept : MergeState → Prop} (hnote : ∀ s f, kept s → kept (s.notePath f))
    (hcolumns : ∀ s columns, kept s → kept { s with columns }) {mappings : List IndexMapping}
    (h : kept s) (hs : s.addIndices mappings = .ok s') : kept s' := by
  have hnotes : ∀ (fields : List Field) (s : MergeState), kept s →
      kept (fields.foldl MergeState.notePath s) := by
    intro fields
    induction fields with
    | nil => exact fun _ h => h
    | cons f rest ih => exact fun s h => ih _ (hnote s f h)
  induction mappings generalizing s with
  | nil =>
      obtain rfl := Except.ok.inj hs
      exact h
  | cons mapping rest ih =>
      rw [MergeState.addIndices] at hs
      split at hs
      · rename_i u hu
        refine ih ?_ hs
        rw [addFields_eq hu]
        exact hcolumns _ _ (hnotes _ s h)
      · simp at hs

/-- Merging the columns of an index leaves the notes alone. -/
theorem Notes.addFields {index : String} {fields : List Field} (h : Notes s seen)
    (hs : s.addFields index fields = .ok s') : Notes s' seen := by
  rw [addFields_eq hs]
  exact ⟨h.mapped, h.fullText, h.votes, h.distinct⟩

/-- **After the last index every declaration was noted.** -/
theorem Notes.addIndices {mappings : List IndexMapping} (h : Notes s seen)
    (hs : s.addIndices mappings = .ok s') : Notes s' (seen ++ declaredFields mappings) := by
  induction mappings generalizing s seen with
  | nil =>
      obtain rfl := Except.ok.inj hs
      simpa [declaredFields] using h
  | cons mapping rest ih =>
      rw [MergeState.addIndices] at hs
      split at hs
      · rename_i u hu
        have hu : Notes u (seen ++ Field.walkAll mapping.fields) :=
          (h.foldl_notePath _).addFields hu
        simpa [declaredFields] using ih hu hs
      · simp at hs

/-! ## Companions -/

/-- Votes agree on a companion when it is the only one voted for. -/
theorem agreed?_eq_some {votes : List (Option String)} (h : votes.Nodup) {target : String} :
    agreed? votes = some target ↔ votes ≠ [] ∧ ∀ vote ∈ votes, vote = some target := by
  match votes with
  | [] => simp [agreed?]
  | [vote] => simp [agreed?]
  | vote :: other :: rest =>
      -- two votes are different ones, so they cannot both be for the target
      have hne : vote ≠ other := fun e => by simp [e] at h
      simp only [agreed?, List.forall_mem_cons]
      constructor
      · simp
      · rintro ⟨-, hv, ho, -⟩
        exact absurd (hv.trans ho.symm) hne

/-- A table that gives every key of a list its value by a rule is looked up by the rule. -/
theorem lookup_filterMap_key (rule : String → Option String) (keys : List String) (key : String) :
    (keys.filterMap fun k => (rule k).map (k, ·)).lookup key =
      if key ∈ keys then rule key else none := by
  induction keys with
  | nil => simp
  | cons k rest ih =>
      -- the first key decides only if it is the one that is looked up and the rule has a value for it
      by_cases hk : key = k
      · subst hk
        cases hr : rule key with
        | none =>
            rw [List.filterMap_cons_none (by simp [hr]), ih]
            simp [hr]
        | some value =>
            rw [List.filterMap_cons_some (b := (key, value)) (by simp [hr]), List.lookup_cons_self,
              if_pos (List.mem_cons_self ..)]
      · have hne : (key == k) = false := by simpa using hk
        cases hr : rule k with
        | none =>
            rw [List.filterMap_cons_none (by simp [hr]), ih]
            simp [hk]
        | some value =>
            rw [List.filterMap_cons_some (b := (k, value)) (by simp [hr]), List.lookup_cons, hne,
              ih]
            simp [hk]

end MergeState

/-! ## The merged mapping -/

variable {mappings : List IndexMapping} {m : MergedMapping}

/-- A merged mapping is what a merge amounts to that noted every declaration. -/
theorem exists_notes_of_merge (h : mergeMappings mappings = .ok m) :
    ∃ s : MergeState, m = s.result ∧ s.Notes (declaredFields mappings) := by
  rw [mergeMappings] at h
  cases hs : MergeState.addIndices {} mappings with
  | error e => simp [hs, Except.map] at h
  | ok s =>
      refine ⟨s, ?_, by simpa using MergeState.notes_empty.addIndices hs⟩
      simpa [hs, Except.map] using h.symm

/-- The mapped paths are those that some index declares. -/
theorem mem_mappedPaths_iff (h : mergeMappings mappings = .ok m) {path : String} :
    path ∈ m.mappedPaths ↔ ∃ f ∈ declaredFields mappings, f.path = path := by
  obtain ⟨s, rfl, hs⟩ := exists_notes_of_merge h
  exact hs.mapped path

/-- The full-text paths are those that some index declares full-text. -/
theorem mem_fullTextPaths_iff (h : mergeMappings mappings = .ok m) {path : String} :
    path ∈ m.fullTextPaths ↔
      ∃ f ∈ declaredFields mappings, f.path = path ∧ f.isFullText = true := by
  obtain ⟨s, rfl, hs⟩ := exists_notes_of_merge h
  exact hs.fullText path

/-- **A path has a companion when every index that declares it names that companion.** -/
theorem companion_iff (h : mergeMappings mappings = .ok m) {path target : String} :
    m.companions.lookup path = some target ↔
      (∃ f ∈ declaredFields mappings, f.path = path) ∧
        ∀ f ∈ declaredFields mappings, f.path = path →
          f.isFullText = true ∧ f.companion? = some target := by
  obtain ⟨s, rfl, hs⟩ := exists_notes_of_merge h
  have hvote : ∀ f : Field,
      f.vote = some target ↔ f.isFullText = true ∧ f.companion? = some target := by
    intro f
    rw [Field.vote]
    split <;> simp_all
  -- the table of companions is filled from the full-text paths alone
  have hlookup : s.result.companions.lookup path = some target ↔
      path ∈ s.fullText ∧ MergeState.agreed? (s.votesOn path) = some target := by
    have hkey :=
      MergeState.lookup_filterMap_key (fun p => MergeState.agreed? (s.votesOn p)) s.fullText path
    rw [show s.result.companions.lookup path = _ from hkey]
    split <;> simp_all
  rw [hlookup, MergeState.agreed?_eq_some (hs.distinct path), hs.fullText]
  constructor
  · rintro ⟨⟨f, hf, hp, -⟩, -, hall⟩
    refine ⟨⟨f, hf, hp⟩, fun g hg hgp => (hvote g).1 (hall _ ((hs.votes ..).2 ⟨g, hg, hgp, rfl⟩))⟩
  · rintro ⟨⟨f, hf, hp⟩, hall⟩
    refine ⟨⟨f, hf, hp, (hall f hf hp).1⟩, ?_, ?_⟩
    · exact List.ne_nil_of_mem ((hs.votes path f.vote).2 ⟨f, hf, hp, rfl⟩)
    · intro vote hv
      obtain ⟨g, hg, hgp, rfl⟩ := (hs.votes ..).1 hv
      exact (hvote g).2 (hall g hg hgp)

end SearchTables
