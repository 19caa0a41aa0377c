import SearchTables.Json.Basic
import Mathlib.Data.List.Induction
import SearchTables.Proofs.Path

/-! # Members and places — what stands where in a document

The members of an object come from pairs of which a later one replaces the value of an earlier one. Pairs with
distinct names are what they stand for (`membersOf_of_nodup`), and a name that has one value only
stands for it (`lookup_membersOf`).

A value stands at a **place** of a document: the keys that lead to it from the root through objects,
arrays left closed. In a document whose objects have distinct keys there is one value at a place
(`DistinctKeys.at_unique`), and a look-up along the keys finds it unless it is null
(`DistinctKeys.follow_eq_some_iff`). -/

namespace SearchTables

/-! ## Members -/

variable {α : Type} {name : String} {value : α} {members pairs : List (String × α)}

/-- A member with a new name goes last. -/
theorem insertMember_of_notMem (h : name ∉ members.map (·.1)) (value : α) :
    insertMember name value members = members ++ [(name, value)] := by
  induction members with
  | nil => rfl
  | cons m rest ih =>
      obtain ⟨n, v⟩ := m
      rw [List.map_cons, List.mem_cons, not_or] at h
      rw [insertMember, if_neg (Ne.symm h.1), ih h.2]
      rfl

/-- The last pair is put last. -/
theorem membersOf_concat (pairs : List (String × α)) (name : String) (value : α) :
    membersOf (pairs ++ [(name, value)]) = insertMember name value (membersOf pairs) := by
  simp [membersOf]

/-- **Pairs with distinct names are what they stand for.** The induction is on the pairs, the last one
first. -/
theorem membersOf_of_nodup (h : (pairs.map (·.1)).Nodup) : membersOf pairs = pairs := by
  induction pairs using List.reverseRecOn with
  | nil => rfl
  | append_singleton pairs m ih =>
      obtain ⟨name, value⟩ := m
      rw [List.map_append, List.nodup_append] at h
      have hnew : name ∉ pairs.map (·.1) := fun hin => h.2.2 name hin name (by simp) rfl
      rw [membersOf_concat, ih h.1, insertMember_of_notMem hnew]

/-- A member is the one that was put last, or was there before. -/
theorem mem_of_mem_insertMember {m : String × α} (h : m ∈ insertMember name value members) :
    m = (name, value) ∨ m ∈ members := by
  induction members with
  | nil => exact .inl (List.mem_singleton.1 h)
  | cons first rest ih =>
      obtain ⟨n, v⟩ := first
      rw [insertMember] at h
      split at h
      · rcases List.mem_cons.1 h with h | h
        · exact .inl h
        · exact .inr (List.mem_cons_of_mem _ h)
      · rcases List.mem_cons.1 h with rfl | h
        · exact .inr List.mem_cons_self
        · exact (ih h).imp_right (List.mem_cons_of_mem _)

/-- Members are among the pairs that they come from. -/
theorem mem_of_mem_membersOf {m : String × α} (h : m ∈ membersOf pairs) : m ∈ pairs := by
  induction pairs using List.reverseRecOn with
  | nil => cases h
  | append_singleton pairs last ih =>
      obtain ⟨name, value⟩ := last
      rw [membersOf_concat] at h
      rcases mem_of_mem_insertMember h with rfl | h
      · exact List.mem_append_right _ (List.mem_singleton.2 rfl)
      · exact List.mem_append_left _ (ih h)

/-- To put what is there already changes nothing. -/
theorem insertMember_of_lookup (h : members.lookup name = some value) :
    insertMember name value members = members := by
  induction members with
  | nil => cases h
  | cons m rest ih =>
      obtain ⟨n, v⟩ := m
      rw [List.lookup_cons] at h
      rw [insertMember]
      by_cases hn : n = name
      · subst hn
        rw [beq_self_eq_true] at h
        rw [if_pos rfl, ← Option.some.inj h]
      · rw [beq_false_of_ne (Ne.symm hn)] at h
        rw [if_neg hn, ih h]

/-- A name that has one value only stands for it. -/
theorem lookup_membersOf (hname : name ∈ pairs.map (·.1))
    (hvalue : ∀ other, (name, other) ∈ pairs → other = value) :
    (membersOf pairs).lookup name = some value := by
  induction pairs using List.reverseRecOn with
  | nil => simp at hname
  | append_singleton pairs m ih =>
      obtain ⟨n, v⟩ := m
      rw [membersOf_concat]
      by_cases hn : name = n
      · subst hn
        rw [lookup_insertMember_self, hvalue v (by simp)]
      · have hbefore : name ∈ pairs.map (·.1) := by simpa [hn] using hname
        rw [lookup_insertMember_of_ne hn]
        exact ih hbefore fun other hother => hvalue other (List.mem_append_left _ hother)

end SearchTables

namespace SearchTables.Json

/-! ## Places -/

/-- Whether a value is an object. -/
def IsObject (j : Json) : Prop := ∃ members, j = .obj members

/-- A value stands at a place in a document. -/
inductive At : Json → List String → Json → Prop where
  /-- The document itself stands at its root. -/
  | root (j : Json) : At j [] j
  /-- What stands in a member of an object stands beneath the key of the member. -/
  | member {members : List (String × Json)} {key : String} {inner : Json} {keys : List String}
      {value : Json} (hmember : (key, inner) ∈ members) (hat : At inner keys value) :
      At (.obj members) (key :: keys) value

variable {j value : Json} {members : List (String × Json)} {key : String} {keys more : List String}

/-- At the root of a document stands the document. -/
@[simp] theorem at_nil_iff : j.At [] value ↔ value = j := by
  constructor
  · intro h
    cases h
    rfl
  · rintro rfl
    exact .root value

/-- Beneath a key of an object stands what stands in the member of that key. -/
theorem at_obj_cons_iff : (Json.obj members).At (key :: keys) value ↔
    ∃ inner, (key, inner) ∈ members ∧ inner.At keys value := by
  constructor
  · intro h
    cases h with
    | member hmember hat => exact ⟨_, hmember, hat⟩
  · rintro ⟨inner, hmember, hat⟩
    exact .member hmember hat

/-- Only in an object something stands beneath a key. -/
theorem At.isObject (h : j.At (key :: keys) value) : j.IsObject := by
  cases h with
  | member => exact ⟨_, rfl⟩

/-- A place beneath a place is reached through the value that stands there. -/
theorem at_append_iff : j.At (keys ++ more) value ↔ ∃ found, j.At keys found ∧ found.At more value := by
  induction keys generalizing j with
  | nil => simp
  | cons key keys ih =>
      constructor
      · intro h
        obtain ⟨members, rfl⟩ := h.isObject
        obtain ⟨inner, hmember, hat⟩ := at_obj_cons_iff.1 h
        obtain ⟨found, hfound, hvalue⟩ := ih.1 hat
        exact ⟨found, .member hmember hfound, hvalue⟩
      · rintro ⟨found, hfound, hvalue⟩
        obtain ⟨members, rfl⟩ := hfound.isObject
        obtain ⟨inner, hmember, hat⟩ := at_obj_cons_iff.1 hfound
        exact .member hmember (ih.2 ⟨found, hat, hvalue⟩)

/-- **In every value stands one that has no members**: one that is no object, or an empty object. -/
theorem exists_leaf : ∀ j : Json, ∃ keys leaf, j.At keys leaf ∧ (¬ leaf.IsObject ∨ leaf = .obj [])
  | .obj [] => ⟨[], .obj [], .root _, .inr rfl⟩
  | .obj ((key, inner) :: _) =>
      have ⟨keys, leaf, hat, hleaf⟩ := exists_leaf inner
      ⟨key :: keys, leaf, .member (List.mem_cons_self ..) hat, hleaf⟩
  | .null => ⟨[], .null, .root _, .inl fun ⟨_, h⟩ => nomatch h⟩
  | .bool b => ⟨[], .bool b, .root _, .inl fun ⟨_, h⟩ => nomatch h⟩
  | .int n => ⟨[], .int n, .root _, .inl fun ⟨_, h⟩ => nomatch h⟩
  | .float x => ⟨[], .float x, .root _, .inl fun ⟨_, h⟩ => nomatch h⟩
  | .str s => ⟨[], .str s, .root _, .inl fun ⟨_, h⟩ => nomatch h⟩
  | .arr items => ⟨[], .arr items, .root _, .inl fun ⟨_, h⟩ => nomatch h⟩

/-! ## Distinct keys -/

/-- The objects of a document have distinct keys. -/
def DistinctKeys (j : Json) : Prop :=
  ∀ keys members, j.At keys (.obj members) → (members.map (·.1)).Nodup

/-- The keys of an object are distinct, and so are those in its members. -/
theorem DistinctKeys.member (h : (Json.obj members).DistinctKeys) {inner : Json}
    (hmember : (key, inner) ∈ members) : inner.DistinctKeys :=
  fun keys _ hat => h (key :: keys) _ (.member hmember hat)

/-- An object has distinct keys at every place when its own are distinct and its members have. -/
theorem distinctKeys_obj_iff : (Json.obj members).DistinctKeys ↔
    (members.map (·.1)).Nodup ∧ ∀ m ∈ members, m.2.DistinctKeys := by
  constructor
  · exact fun h => ⟨h [] members (.root _), fun m hm => h.member hm⟩
  · rintro ⟨hnodup, hmembers⟩ keys others hat
    cases hat with
    | root => exact hnodup
    | member hmember hat => exact hmembers _ hmember _ _ hat

/-- Where there is no object there are no keys to differ. -/
theorem distinctKeys_of_not_isObject (h : ¬ j.IsObject) : j.DistinctKeys := by
  intro keys members hat
  cases hat with
  | root => exact absurd ⟨_, rfl⟩ h
  | member => exact absurd ⟨_, rfl⟩ h

/-- **With distinct keys there is one value at a place.** -/
theorem DistinctKeys.at_unique (h : j.DistinctKeys) {other : Json} (hat : j.At keys value)
    (hother : j.At keys other) : value = other := by
  induction keys generalizing j with
  | nil => rw [at_nil_iff.1 hat, at_nil_iff.1 hother]
  | cons key keys ih =>
      obtain ⟨members, rfl⟩ := hat.isObject
      obtain ⟨inner, hmember, hat⟩ := at_obj_cons_iff.1 hat
      obtain ⟨inner', hmember', hother⟩ := at_obj_cons_iff.1 hother
      have hnodup := h [] members (.root _)
      have hsame : some inner = some inner' := by
        rw [← (lookup_eq_some_iff_mem hnodup).2 hmember,
          (lookup_eq_some_iff_mem hnodup).2 hmember']
      obtain rfl := Option.some.inj hsame
      exact ih (h.member hmember) hat hother

/-- A look-up along a key looks into the member of that key, unless that is null. -/
theorem follow_cons_eq_some_iff {found : Json} :
    Path.follow (key :: keys) j = some found ↔
      ∃ inner, j.get? key = some inner ∧ inner ≠ .null ∧ Path.follow keys inner = some found := by
  rw [Path.follow]
  cases hget : j.get? key with
  | none => simp
  | some inner => cases inner <;> simp

/-- **A look-up along keys finds what stands there**, unless that is null. -/
theorem DistinctKeys.follow_eq_some_iff (h : j.DistinctKeys) (hkeys : keys ≠ []) {found : Json} :
    Path.follow keys j = some found ↔ found ≠ .null ∧ j.At keys found := by
  induction keys generalizing j with
  | nil => exact absurd rfl hkeys
  | cons key keys ih =>
      rw [follow_cons_eq_some_iff]
      -- in both directions the value beneath the first key is the one to go on with
      constructor
      · rintro ⟨inner, hget, hinner, hfollow⟩
        cases j with
        | obj members =>
            have hmember := (lookup_eq_some_iff_mem (h [] members (.root _))).1 hget
            by_cases hlast : keys = []
            · subst hlast
              obtain rfl := Option.some.inj hfollow
              exact ⟨hinner, .member hmember (.root _)⟩
            · obtain ⟨hfound, hat⟩ := (ih (h.member hmember) hlast).1 hfollow
              exact ⟨hfound, .member hmember hat⟩
        | _ => simp [get?] at hget
      · rintro ⟨hfound, hat⟩
        obtain ⟨members, rfl⟩ := hat.isObject
        obtain ⟨inner, hmember, hat⟩ := at_obj_cons_iff.1 hat
        have hget := (lookup_eq_some_iff_mem (h [] members (.root _))).2 hmember
        by_cases hlast : keys = []
        · subst hlast
          obtain rfl := at_nil_iff.1 hat
          exact ⟨_, hget, hfound, rfl⟩
        · refine ⟨inner, hget, ?_, (ih (h.member hmember) hlast).2 ⟨hfound, hat⟩⟩
          -- what has something beneath it is an object
          rintro rfl
          obtain ⟨first, keys, rfl⟩ := List.exists_cons_of_ne_nil hlast
          cases hat

end SearchTables.Json
