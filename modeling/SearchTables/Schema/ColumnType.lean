/-! # Column types

The type of a column is a primitive named by its relational name, a list, or a struct of named members.
The **type id** of a type is what different indices must agree on: the name of a primitive, `LIST`, or
`STRUCT`. -/

namespace SearchTables

/-- A relational type. -/
inductive ColumnType where
  | primitive (name : String)
  | list (element : ColumnType)
  | struct (members : List (String × ColumnType))
deriving Inhabited

namespace ColumnType

/-! ## Equality -/

mutual

/-- Equality of types: structs agree member by member, in order. -/
def same : ColumnType → ColumnType → Bool
  | .primitive a, .primitive b => a == b
  | .list a, .list b => same a b
  | .struct xs, .struct ys => sameMembers xs ys
  | _, _ => false

/-- Equality of member lists. -/
def sameMembers : List (String × ColumnType) → List (String × ColumnType) → Bool
  | [], [] => true
  | (n, a) :: xs, (m, b) :: ys => n == m && same a b && sameMembers xs ys
  | _, _ => false

end

mutual

theorem eq_of_same : ∀ {a b : ColumnType}, same a b = true → a = b
  | .primitive a, .primitive b, h => by simpa [same] using h
  | .list a, .list b, h => by
      have := eq_of_same (a := a) (b := b) (by simpa [same] using h)
      rw [this]
  | .struct xs, .struct ys, h => by
      have : xs = ys := eq_of_sameMembers (by simpa [same] using h)
      rw [this]
  | .primitive _, .list _, h => by simp [same] at h
  | .primitive _, .struct _, h => by simp [same] at h
  | .list _, .primitive _, h => by simp [same] at h
  | .list _, .struct _, h => by simp [same] at h
  | .struct _, .primitive _, h => by simp [same] at h
  | .struct _, .list _, h => by simp [same] at h

theorem eq_of_sameMembers :
    ∀ {xs ys : List (String × ColumnType)}, sameMembers xs ys = true → xs = ys
  | [], [], _ => rfl
  | (n, a) :: xs, (m, b) :: ys, h => by
      simp only [sameMembers, Bool.and_eq_true, beq_iff_eq] at h
      have hab := eq_of_same (a := a) (b := b) h.1.2
      have hxy : xs = ys := eq_of_sameMembers h.2
      rw [h.1.1, hab, hxy]
  | [], _ :: _, h => by simp [sameMembers] at h
  | _ :: _, [], h => by simp [sameMembers] at h

end

mutual

theorem same_self : ∀ a : ColumnType, same a a = true
  | .primitive a => by simp [same]
  | .list a => by simp [same, same_self a]
  | .struct xs => by simp [same, sameMembers_self xs]

theorem sameMembers_self : ∀ xs : List (String × ColumnType), sameMembers xs xs = true
  | [] => rfl
  | (n, a) :: xs => by simp [sameMembers, same_self a, sameMembers_self xs]

end

/-- `same` decides equality. -/
theorem same_iff {a b : ColumnType} : same a b = true ↔ a = b :=
  ⟨eq_of_same, fun h => h ▸ same_self a⟩

instance : DecidableEq ColumnType := fun a b =>
  if h : same a b = true then isTrue (same_iff.1 h) else isFalse fun e => h (same_iff.2 e)

/-! ## Shape -/

/-- What different indices must agree on. -/
def typeId : ColumnType → String
  | .primitive name => name
  | .list _ => "LIST"
  | .struct _ => "STRUCT"

/-- The members of a struct; none for any other type. -/
def members : ColumnType → List (String × ColumnType)
  | .struct members => members
  | _ => []

/-- The type of the first member of that name. -/
def child? (t : ColumnType) (name : String) : Option ColumnType := t.members.lookup name

/-- Whether the type is a list. -/
def isList : ColumnType → Bool
  | .list _ => true
  | _ => false

mutual

/-- The type as schemas show it: `T[]` for lists, `STRUCT(a T, b U)` for structs. -/
def text : ColumnType → String
  | .primitive name => name
  | .list element => text element ++ "[]"
  | .struct members => "STRUCT(" ++ ", ".intercalate (memberTexts members) ++ ")"

/-- The members as schemas show them. -/
def memberTexts : List (String × ColumnType) → List String
  | [] => []
  | (name, type) :: rest => (name ++ " " ++ text type) :: memberTexts rest

end

/-! ## The primitives of resolved schemas -/

abbrev varchar : ColumnType := .primitive "VARCHAR"
abbrev bigint : ColumnType := .primitive "BIGINT"
abbrev integer : ColumnType := .primitive "INTEGER"
abbrev smallint : ColumnType := .primitive "SMALLINT"
abbrev tinyint : ColumnType := .primitive "TINYINT"
abbrev double : ColumnType := .primitive "DOUBLE"
abbrev single : ColumnType := .primitive "FLOAT"
abbrev boolean : ColumnType := .primitive "BOOLEAN"
abbrev timestamp : ColumnType := .primitive "TIMESTAMP"
abbrev json : ColumnType := .primitive "JSON"

/-- The names of the whole-number types. -/
def integerNames : List String := ["BIGINT", "INTEGER", "SMALLINT", "TINYINT"]

/-- The names of the fractional types. -/
def floatNames : List String := ["DOUBLE", "FLOAT"]

/-! ## Compatibility and merging -/

mutual

/-- Whether two indices may declare these types for one field: they are equal, or have equal type ids and
agree further down. Structs agree on the members they share, lists on their elements. -/
def compatible : ColumnType → ColumnType → Bool
  | .primitive a, second => same (.primitive a) second
  | .list a, .list b => same a b || compatible a b
  | .struct xs, second =>
      same (.struct xs) second || (second.typeId == "STRUCT" && compatibleMembers xs second)
  | .list _, _ => false

/-- Whether every member is compatible with the member of the same name, where there is one. -/
def compatibleMembers : List (String × ColumnType) → ColumnType → Bool
  | [], _ => true
  | (name, type) :: rest, second =>
      (match second.child? name with
        | some other => compatible type other
        | none => true) && compatibleMembers rest second

end

mutual

/-- The union of two compatible types: the members of the first struct in their order, then those that
only the second one has. -/
def merge : ColumnType → ColumnType → ColumnType
  | .primitive a, _ => .primitive a
  | .list a, .list b => .list (merge a b)
  | .list a, _ => .list a
  | .struct xs, second =>
      if same (.struct xs) second then .struct xs
      else
        .struct (mergeMembers xs second ++
          second.members.filter fun (name, _) => !xs.any fun (n, _) => n == name)

/-- The members of a first struct, each merged with the member of the same name. -/
def mergeMembers : List (String × ColumnType) → ColumnType → List (String × ColumnType)
  | [], _ => []
  | (name, type) :: rest, second =>
      (name, match second.child? name with
        | some other => merge type other
        | none => type) :: mergeMembers rest second

end

mutual

/-- The path at which two incompatible types disagree: down to the first incompatible member at every
level. -/
def conflictPath : ColumnType → ColumnType → String → String
  | .struct xs, second, path =>
      if second.typeId = "STRUCT" then conflictInMembers xs second path else path
  | .list a, .list b, path => conflictPath a b path
  | _, _, path => path

/-- The conflict in the first incompatible member. -/
def conflictInMembers : List (String × ColumnType) → ColumnType → String → String
  | [], _, path => path
  | (name, type) :: rest, second, path =>
      match second.child? name with
      | some other =>
          if compatible type other then conflictInMembers rest second path
          else conflictPath type other (path ++ "." ++ name)
      | none => conflictInMembers rest second path

end

/-! ## Where arrays were seen -/

mutual

/-- Turn the type at every path of a set into a list; what is a list already stays. -/
def wrapLists (isArray : String → Bool) (joinPath : String → String → String) :
    ColumnType → String → ColumnType
  | .struct members, path =>
      let inner := ColumnType.struct (wrapMembers isArray joinPath members path)
      if isArray path then .list inner else inner
  | .list element, _ => .list element
  | .primitive name, path => if isArray path then .list (.primitive name) else .primitive name

/-- `wrapLists` on the members of a struct at a path. -/
def wrapMembers (isArray : String → Bool) (joinPath : String → String → String) :
    List (String × ColumnType) → String → List (String × ColumnType)
  | [], _ => []
  | (name, type) :: rest, path =>
      (name, wrapLists isArray joinPath type (joinPath path name)) ::
        wrapMembers isArray joinPath rest path

end

end ColumnType

end SearchTables
