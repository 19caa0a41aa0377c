/-! # JSON values

Documents, mappings, query bodies and responses are JSON. The members of an object keep the order in
which they were written, because the order shows again whenever an object is printed; a name occurs once.
Whole numbers and fractional numbers are told apart: `1` is an integer of any size, `1.0` a double. -/

namespace SearchTables

/-- A JSON value. -/
inductive Json where
  | null
  | bool (value : Bool)
  | int (value : Int)
  | float (value : Float)
  | str (value : String)
  | arr (items : List Json)
  | obj (members : List (String × Json))
deriving Inhabited

/-- Put a value under a name: a name that is there keeps its place and takes the new value, a new name
goes last. -/
def insertMember {α : Type} (name : String) (value : α) : List (String × α) → List (String × α)
  | [] => [(name, value)]
  | (n, v) :: rest => if n = name then (name, value) :: rest else (n, v) :: insertMember name value rest

/-- The members that a list of pairs stands for, a later pair replacing the value of an earlier one. -/
def membersOf {α : Type} (pairs : List (String × α)) : List (String × α) :=
  pairs.foldl (fun members (name, value) => insertMember name value members) []

/-- A member that was just put is found. -/
@[simp] theorem lookup_insertMember_self {α : Type} (name : String) (value : α)
    (members : List (String × α)) : (insertMember name value members).lookup name = some value := by
  induction members with
  | nil => simp [insertMember]
  | cons m rest ih =>
      obtain ⟨n, v⟩ := m
      by_cases h : n = name
      · simp [insertMember, h]
      · have h' : (name == n) = false := by simpa [beq_eq_false_iff_ne] using fun e => h e.symm
        simp [insertMember, h, List.lookup_cons, h', ih]

/-- Putting a member leaves every other name as it was. -/
theorem lookup_insertMember_of_ne {α : Type} {name other : String} (h : other ≠ name) (value : α)
    (members : List (String × α)) :
    (insertMember name value members).lookup other = members.lookup other := by
  have h' : (other == name) = false := by simpa [beq_eq_false_iff_ne] using h
  induction members with
  | nil => simp [insertMember, List.lookup_cons, h']
  | cons m rest ih =>
      obtain ⟨n, v⟩ := m
      by_cases hn : n = name
      · subst hn; simp [insertMember, List.lookup_cons, h']
      · simp [insertMember, hn, List.lookup_cons, ih]

/-- Among members with distinct names a look-up finds what is there. -/
theorem lookup_eq_some_iff_mem {α : Type} {members : List (String × α)}
    (h : (members.map (·.1)).Nodup) {name : String} {found : α} :
    members.lookup name = some found ↔ (name, found) ∈ members := by
  induction members with
  | nil => simp
  | cons m rest ih =>
      obtain ⟨n, v⟩ := m
      rw [List.map_cons, List.nodup_cons] at h
      rw [List.lookup_cons, List.mem_cons, Prod.mk.injEq]
      by_cases hn : name = n
      · subst hn
        have hrest : (name, found) ∉ rest := fun hin => h.1 (List.mem_map.2 ⟨_, hin, rfl⟩)
        simp [hrest, eq_comm]
      · have hne : (name == n) = false := by simpa using hn
        simp [hne, hn, ih h.2]

/-- What a look-up finds is there. -/
theorem mem_of_lookup {α : Type} {members : List (String × α)} {name : String} {found : α}
    (h : members.lookup name = some found) : (name, found) ∈ members := by
  obtain ⟨before, after, hsplit, -⟩ := List.lookup_eq_some_iff.1 h
  rw [hsplit]
  exact List.mem_append_right _ List.mem_cons_self

namespace Json

/-- The member of an object; nothing for a missing name and for any other kind of value. -/
def get? (j : Json) (name : String) : Option Json :=
  match j with
  | .obj members => members.lookup name
  | _ => none

@[simp] theorem get?_obj (members : List (String × Json)) (name : String) :
    (obj members).get? name = members.lookup name := rfl

/-- Whether the value is `null`. -/
def isNull : Json → Bool
  | .null => true
  | _ => false

/-- Whether the value is an array. -/
def isArray : Json → Bool
  | .arr _ => true
  | _ => false

/-- The text of a string. -/
def str? : Json → Option String
  | .str s => some s
  | _ => none

/-- Whether a value counts as given: `null`, `false`, zero and everything empty do not. -/
def isGiven : Json → Bool
  | .null => false
  | .bool b => b
  | .int n => n != 0
  | .float x => x != 0.0
  | .str s => s != ""
  | .arr items => !items.isEmpty
  | .obj members => !members.isEmpty

/-- The kind of a value as diagnostics name it. -/
def kindName : Json → String
  | .null => "NoneType"
  | .bool _ => "bool"
  | .int _ => "int"
  | .float _ => "float"
  | .str _ => "str"
  | .arr _ => "list"
  | .obj _ => "dict"

end Json

end SearchTables
