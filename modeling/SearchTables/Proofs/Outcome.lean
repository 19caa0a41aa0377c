import SearchTables.Error

/-! # Outcomes — computations that may fail

A computation in steps has a value exactly when each step has one. -/

namespace SearchTables

variable {ε α β : Type}

/-- Two steps have a value when the first has one and the second has one of that. -/
theorem bind_eq_ok {x : Except ε α} {f : α → Except ε β} {b : β} :
    x >>= f = .ok b ↔ ∃ a, x = .ok a ∧ f a = .ok b := by
  cases x with
  | error e => simp [bind, Except.bind]
  | ok a => simp [bind, Except.bind]

/-- A changed value is there when a value is. -/
theorem map_eq_ok {x : Except ε α} {f : α → β} {b : β} :
    x.map f = .ok b ↔ ∃ a, x = .ok a ∧ f a = b := by
  cases x with
  | error e => simp [Except.map]
  | ok a => simp [Except.map]

/-- Two steps fail when the first one does, or the second one on what the first came to. -/
theorem bind_eq_error {x : Except ε α} {f : α → Except ε β} {e : ε} :
    x >>= f = .error e ↔ x = .error e ∨ ∃ a, x = .ok a ∧ f a = .error e := by
  cases x with
  | error e => simp [bind, Except.bind]
  | ok a => simp [bind, Except.bind]

/-- A value is there to be changed unless there is a failure. -/
theorem map_eq_error {x : Except ε α} {f : α → β} {e : ε} :
    x.map f = .error e ↔ x = .error e := by
  cases x with
  | error e => simp [Except.map]
  | ok a => simp [Except.map]

/-- A value is there to go on with unless there is a failure. -/
theorem bind_pure_eq_error {x : Except ε α} {f : α → β} {e : ε} :
    (x >>= fun a => pure (f a)) = .error e ↔ x = .error e :=
  map_eq_error

/-- A step after a change is one step. -/
theorem map_then (x : Except ε α) (f : α → β) {γ : Type} (next : β → Except ε γ) :
    (x.map f >>= next) = x >>= fun a => next (f a) := by
  cases x <;> rfl

/-- Optional values are all there when they are those of a list. -/
theorem mapM_id_eq_some {options : List (Option α)} {values : List α} :
    options.mapM id = some values ↔ options = values.map some := by
  induction options generalizing values with
  | nil => cases values <;> simp
  | cons first rest ih =>
      rw [List.mapM_cons]
      cases first with
      | none => cases values <;> simp
      | some a =>
          cases values with
          | nil => cases rest.mapM id <;> simp
          | cons b others =>
              rw [List.map_cons, List.cons.injEq, ← ih]
              cases rest.mapM id <;> simp

/-- **Steps for several items fail when the step for one of them does**, after those before it. The
induction is on the items. -/
theorem mapM_eq_error {f : α → Except ε β} {items : List α} {e : ε} :
    items.mapM f = .error e ↔
      ∃ before a after bs, items = before ++ a :: after ∧ before.mapM f = .ok bs ∧ f a = .error e := by
  induction items with
  | nil =>
      constructor
      · intro h
        cases h
      · rintro ⟨before, a, after, bs, heq, -⟩
        cases before <;> cases heq
  | cons first rest ih =>
      rw [List.mapM_cons, bind_eq_error]
      simp only [bind_pure_eq_error, ih]
      constructor
      · rintro (h | ⟨b, hb, before, a, after, bs, rfl, hbefore, ha⟩)
        · exact ⟨[], first, rest, [], rfl, rfl, h⟩
        · refine ⟨first :: before, a, after, b :: bs, rfl, ?_, ha⟩
          rw [List.mapM_cons]
          exact bind_eq_ok.2 ⟨b, hb, bind_eq_ok.2 ⟨bs, hbefore, rfl⟩⟩
      · rintro ⟨before, a, after, bs, heq, hbefore, ha⟩
        cases before with
        | nil =>
            obtain ⟨rfl, rfl⟩ := List.cons.inj heq
            exact .inl ha
        | cons b before =>
            obtain ⟨rfl, rfl⟩ := List.cons.inj heq
            rw [List.mapM_cons] at hbefore
            obtain ⟨b, hb, hbefore⟩ := bind_eq_ok.1 hbefore
            obtain ⟨bs, hbs, -⟩ := bind_eq_ok.1 hbefore
            exact .inr ⟨b, hb, before, a, after, bs, rfl, hbs, ha⟩

/-- What several items come to is what each of them does. -/
theorem exists_of_mem_mapM {f : α → Except ε β} {items : List α} {bs : List β}
    (h : items.mapM f = .ok bs) {b : β} (hb : b ∈ bs) : ∃ a ∈ items, f a = .ok b := by
  induction items generalizing bs with
  | nil =>
      obtain rfl := Except.ok.inj h
      cases hb
  | cons first rest ih =>
      rw [List.mapM_cons] at h
      obtain ⟨c, hc, h⟩ := bind_eq_ok.1 h
      obtain ⟨cs, hcs, h⟩ := bind_eq_ok.1 h
      obtain rfl := Except.ok.inj h
      rcases List.mem_cons.1 hb with rfl | hb
      · exact ⟨first, List.mem_cons_self, hc⟩
      · obtain ⟨a, ha, hfa⟩ := ih hcs hb
        exact ⟨a, List.mem_cons_of_mem _ ha, hfa⟩

/-- Several items come to as many values. -/
theorem length_of_mapM {f : α → Except ε β} {items : List α} {bs : List β} (h : items.mapM f = .ok bs) :
    bs.length = items.length := by
  induction items generalizing bs with
  | nil =>
      obtain rfl := Except.ok.inj h
      rfl
  | cons first rest ih =>
      rw [List.mapM_cons] at h
      obtain ⟨c, -, h⟩ := bind_eq_ok.1 h
      obtain ⟨cs, hcs, h⟩ := bind_eq_ok.1 h
      obtain rfl := Except.ok.inj h
      rw [List.length_cons, List.length_cons, ih hcs]

/-- Steps for several items have values when each of them has one. -/
theorem exists_mapM_eq_ok {f : α → Except ε β} {items : List α} :
    (∃ bs, items.mapM f = .ok bs) ↔ ∀ a ∈ items, ∃ b, f a = .ok b := by
  induction items with
  | nil => exact ⟨fun _ a ha => absurd ha List.not_mem_nil, fun _ => ⟨[], rfl⟩⟩
  | cons first rest ih =>
      rw [List.forall_mem_cons, ← ih, List.mapM_cons]
      constructor
      · rintro ⟨bs, hbs⟩
        obtain ⟨b, hb, hrest⟩ := bind_eq_ok.1 hbs
        obtain ⟨others, hothers, -⟩ := bind_eq_ok.1 hrest
        exact ⟨⟨b, hb⟩, others, hothers⟩
      · rintro ⟨⟨b, hb⟩, others, hothers⟩
        exact ⟨b :: others, bind_eq_ok.2 ⟨b, hb, bind_eq_ok.2 ⟨others, hothers, rfl⟩⟩⟩

/-- Steps for the items of two lists come to the same when the steps are the same, one by one. -/
theorem mapM_eq_of_map_eq {γ : Type} {f : α → Except ε γ} {g : β → Except ε γ} {as : List α}
    {bs : List β} (h : as.map f = bs.map g) : as.mapM f = bs.mapM g := by
  induction as generalizing bs with
  | nil =>
      cases bs with
      | nil => rfl
      | cons => cases h
  | cons a as ih =>
      cases bs with
      | nil => cases h
      | cons b bs =>
          obtain ⟨hhead, htail⟩ := List.cons.inj h
          rw [List.mapM_cons, List.mapM_cons, hhead, ih htail]

@[simp] theorem pure_eq_ok {a b : α} : (pure a : Except ε α) = .ok b ↔ a = b := by
  simp [pure, Except.pure]

end SearchTables
