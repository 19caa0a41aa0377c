import SearchTables.Path

/-! # Residual content

A document may hold content that no mapping declares. The **residual** of a document is the part of it that
lies at no mapped path: an object with some declared members contributes the others, and the value at a
mapped path that is not above another one is left out whole. -/

namespace SearchTables

/-- Which paths are mapped, and which lie strictly above a mapped one. -/
structure PathSet where
  mapped : List String
  above : List String
deriving Inhabited

namespace PathSet

/-- The paths above are determined by the mapped ones. -/
def ofMapped (mapped : List String) : PathSet := ⟨mapped, Path.parents mapped⟩

/-- Whether a path is mapped. -/
def isMapped (s : PathSet) (path : String) : Bool := s.mapped.contains path

/-- Whether a path lies strictly above a mapped one. -/
def isAbove (s : PathSet) (path : String) : Bool := s.above.contains path

mutual

/-- The residual of a value at a path: its undeclared members. Only objects have members. -/
def residual (s : PathSet) (path : String) : Json → List (String × Json)
  | .obj members => residualMembers s path members
  | _ => []

/-- The residual of the members of an object at a path. -/
def residualMembers (s : PathSet) (path : String) : List (String × Json) → List (String × Json)
  | [] => []
  | (name, value) :: rest =>
      let inner := Path.under path name
      let others := residualMembers s path rest
      if s.isAbove inner then
        match residual s inner value with
        | [] => others
        | found => (name, .obj found) :: others
      else if s.isMapped inner then others
      else (name, value) :: others

end

/-- Only objects have residual content. -/
theorem residual_of_not_object (s : PathSet) (path : String) {j : Json}
    (h : ∀ members, j ≠ .obj members) : s.residual path j = [] := by
  cases j <;> simp_all [residual]

end PathSet

end SearchTables
