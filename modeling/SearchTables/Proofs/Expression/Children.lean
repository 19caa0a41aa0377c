import SearchTables.Expression.Basic

/-! # Children — the expressions directly inside an expression

Whatever goes through an expression goes from there to some of its children. They are smaller
(`Expression.sizeOf_lt_of_mem_children`) and have no other names (`Expression.names_subset_of_mem_children`). -/

namespace SearchTables.Expression

/-- The expressions directly inside an expression, as they are written. -/
def children : Expression → List Expression
  | .literal _ | .ident _ | .rootIdent _ => []
  | .call _ items | .rootCall _ items | .list items => items
  | .group inner => [inner]
  | .map entries => entries.flatMap fun (key, value) => [key, value]
  | .member object _ => [object]
  | .method object _ arguments => object :: arguments
  | .message type fields => type :: fields.map (·.2)
  | .not operand | .neg operand => [operand]
  | .index left right | .arithmetic _ left right | .relation _ left right | .and left right
  | .or left right => [left, right]
  | .conditional condition yes no => [condition, yes, no]

/-- The expressions in an entry are smaller than the entries. -/
theorem sizeOf_lt_of_mem_entries {entries : List (Expression × Expression)} {x : Expression}
    (h : x ∈ entries.flatMap fun (key, value) => [key, value]) : sizeOf x < sizeOf entries := by
  obtain ⟨⟨key, value⟩, hentry, hx⟩ := List.mem_flatMap.1 h
  have hsmaller : sizeOf (key, value) < sizeOf entries := List.sizeOf_lt_of_mem hentry
  rw [Prod.mk.sizeOf_spec] at hsmaller
  simp only [List.mem_cons, List.not_mem_nil, or_false] at hx
  rcases hx with rfl | rfl <;> omega

/-- **What is inside an expression is smaller.** -/
theorem sizeOf_lt_of_mem_children {e x : Expression} (h : x ∈ e.children) : sizeOf x < sizeOf e := by
  cases e with
  | literal | ident | rootIdent => cases h
  | call name items | rootCall name items | list items =>
      have hitem : sizeOf x < sizeOf items := List.sizeOf_lt_of_mem h
      simp
      omega
  | group inner | not inner | neg inner =>
      obtain rfl := List.mem_singleton.1 h
      simp
  | member object name =>
      obtain rfl := List.mem_singleton.1 h
      simp
      omega
  | map entries =>
      have hentry := sizeOf_lt_of_mem_entries h
      simp
      omega
  | method object name arguments =>
      rcases List.mem_cons.1 h with rfl | h
      · simp
        omega
      · have hitem : sizeOf x < sizeOf arguments := List.sizeOf_lt_of_mem h
        simp
        omega
  | message type fields =>
      rcases List.mem_cons.1 h with rfl | h
      · simp
        omega
      · obtain ⟨⟨name, value⟩, hfield, rfl⟩ := List.mem_map.1 h
        have hsmaller : sizeOf (name, value) < sizeOf fields := List.sizeOf_lt_of_mem hfield
        simp at hsmaller ⊢
        omega
  | index left right | arithmetic _ left right | relation _ left right | and left right | or left right =>
      simp only [children, List.mem_cons, List.not_mem_nil, or_false] at h
      rcases h with rfl | rfl <;> simp <;> omega
  | conditional condition yes no =>
      simp only [children, List.mem_cons, List.not_mem_nil, or_false] at h
      rcases h with rfl | rfl | rfl <;> simp <;> omega

/-- The names of several expressions are those of each. -/
theorem namesAll_eq (es : List Expression) : namesAll es = es.flatMap names := by
  induction es with
  | nil => rfl
  | cons e rest ih => rw [namesAll, List.flatMap_cons, ih]

/-- The names in the entries of a map are those of the keys and values. -/
theorem namesEntries_eq (entries : List (Expression × Expression)) :
    namesEntries entries = namesAll (entries.flatMap fun (key, value) => [key, value]) := by
  induction entries with
  | nil => rfl
  | cons entry rest ih =>
      obtain ⟨key, value⟩ := entry
      rw [namesEntries, ih, List.append_assoc]
      rfl

/-- The names in the values of fields are among those of the fields. -/
theorem namesAll_subset_namesFields (fields : List (String × Expression)) :
    namesAll (fields.map (·.2)) ⊆ namesFields fields := by
  induction fields with
  | nil => exact List.Subset.refl _
  | cons field rest ih =>
      obtain ⟨name, value⟩ := field
      exact List.subset_cons_of_subset name (List.append_subset.2
        ⟨List.subset_append_left .., fun n hn => List.mem_append_right _ (ih hn)⟩)

/-- An expression has the names of what is inside it. -/
theorem namesAll_children_subset (e : Expression) : namesAll e.children ⊆ e.names := by
  cases e with
  | literal | ident | rootIdent => simp [children, namesAll]
  | list => exact List.Subset.refl _
  | call | rootCall => exact List.subset_cons_self ..
  | map entries =>
      rw [names, namesEntries_eq]
      exact List.Subset.refl _
  | method object name arguments =>
      exact List.append_subset.2 ⟨List.subset_append_left .., fun n hn =>
        List.mem_append_right _ (List.mem_cons_of_mem _ hn)⟩
  | message type fields =>
      exact List.append_subset.2 ⟨List.subset_append_left .., fun n hn =>
        List.mem_append_right _ (namesAll_subset_namesFields fields hn)⟩
  | group | not | neg | member | index | arithmetic | relation | and | or | conditional =>
      simp [children, namesAll, names]

/-- **What is inside an expression has no other names.** -/
theorem names_subset_of_mem_children {e x : Expression} (h : x ∈ e.children) : x.names ⊆ e.names := by
  refine List.Subset.trans (fun n hn => ?_) (namesAll_children_subset e)
  rw [namesAll_eq]
  exact List.mem_flatMap.2 ⟨x, h, hn⟩

end SearchTables.Expression
