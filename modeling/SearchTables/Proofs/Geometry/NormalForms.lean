import SearchTables.Geometry.Shape
import SearchTables.Proofs.Outcome

/-! # Normal forms of geometries — one pass is enough

A value is **normal** when it is an object with a type, when the type is spelled as it should be, and when
every geometry in its list of geometries is normal, to any depth (`Shape.IsNormal`). What a normal form has
of the value that it comes from is said by `Shape.NormalOf`: a known type is respelled, items that are no
shapes are dropped from lists of geometries, and all else stays as and where it is. Decoding finds just
this (`decode_eq_some_iff`), a normal value is its own normal form (`decode_of_isNormal`), and so decoding
is a projection onto the normal values (`decode_projects`). -/

namespace SearchTables.Shape

/-! ## Spellings -/

/-- The spellings of the known types. -/
def knownTypes : List String := geometryTypes.map (·.2)

/-- Whether a type is spelled as it should be. A type that is not known in any letter case may be anything. -/
def IsCanonical (type : String) : Prop :=
  ∀ known ∈ knownTypes, Text.lowerAscii type = Text.lowerAscii known → type = known

/-- How a type is spelled in a normal form. -/
inductive Respelled (type : String) : String → Prop where
  | known {spelling : String} (hknown : spelling ∈ knownTypes)
      (hcase : Text.lowerAscii type = Text.lowerAscii spelling) : Respelled type spelling
  | unknown (h : ∀ known ∈ knownTypes, Text.lowerAscii type ≠ Text.lowerAscii known) : Respelled type type

/-- The table has every known type under its name in lower case. -/
theorem lookup_lowerAscii {spelling : String} (h : spelling ∈ knownTypes) :
    geometryTypes.lookup (Text.lowerAscii spelling) = some spelling := by
  have hall : ∀ known ∈ knownTypes, geometryTypes.lookup (Text.lowerAscii known) = some known := by
    decide
  exact hall spelling h

/-- The table has known types only. -/
theorem mem_knownTypes_of_lookup {name spelling : String} (h : geometryTypes.lookup name = some spelling) :
    spelling ∈ knownTypes ∧ Text.lowerAscii spelling = name := by
  have hall : ∀ entry ∈ geometryTypes, Text.lowerAscii entry.2 = entry.1 := by decide
  have hmem := mem_of_lookup h
  exact ⟨List.mem_map_of_mem hmem, hall _ hmem⟩

/-- The spelling of a type is what the table says. -/
theorem canonicalType_eq_iff {type spelling : String} :
    canonicalType type = spelling ↔ Respelled type spelling := by
  rw [canonicalType]
  -- the table is read by the name in lower case, and its names differ in lower case
  cases hlookup : geometryTypes.lookup (Text.lowerAscii type) with
  | none =>
      have hunknown : ∀ known ∈ knownTypes, Text.lowerAscii type ≠ Text.lowerAscii known := by
        intro known hknown hcase
        rw [hcase, lookup_lowerAscii hknown] at hlookup
        cases hlookup
      rw [Option.getD_none]
      constructor
      · rintro rfl
        exact .unknown hunknown
      · intro h
        cases h with
        | known hknown hcase => exact absurd hcase (hunknown _ hknown)
        | unknown => rfl
  | some found =>
      obtain ⟨hfound, hlower⟩ := mem_knownTypes_of_lookup hlookup
      rw [Option.getD_some]
      constructor
      · rintro rfl
        exact .known hfound hlower.symm
      · intro h
        cases h with
        | known hknown hcase =>
            rw [hcase, lookup_lowerAscii hknown] at hlookup
            exact (Option.some.inj hlookup).symm
        | unknown h => exact absurd hlower.symm (h _ hfound)

/-- A respelled type is spelled as it should be. -/
theorem Respelled.isCanonical {type spelling : String} (h : Respelled type spelling) :
    IsCanonical spelling := by
  intro known hknown hcase
  cases h with
  | known hspelling =>
      -- both have the same entry of the table
      have hentry := lookup_lowerAscii hspelling
      rw [hcase, lookup_lowerAscii hknown] at hentry
      exact (Option.some.inj hentry).symm
  | unknown h => exact absurd hcase (h known hknown)

/-- What is spelled as it should be is not respelled. -/
theorem canonicalType_of_isCanonical {type : String} (h : IsCanonical type) : canonicalType type = type := by
  rw [canonicalType_eq_iff]
  -- a type that is known in some letter case is the known one, and so respelled as itself
  by_cases hknown : ∃ known ∈ knownTypes, Text.lowerAscii type = Text.lowerAscii known
  · obtain ⟨known, hmem, hcase⟩ := hknown
    obtain rfl := h known hmem hcase
    exact .known hmem rfl
  · exact .unknown fun known hmem hcase => hknown ⟨known, hmem, hcase⟩

/-- The known types are spelled as they should be. -/
theorem isCanonical_of_mem {type : String} (h : type ∈ knownTypes) : IsCanonical type :=
  (Respelled.known h rfl).isCanonical

/-! ## Normal values -/

/-- **Normal values**: an object with a type that is spelled as it should be, all of whose geometries are
normal. -/
inductive IsNormal : Value → Prop where
  | object {members : List (String × Value)} {type : String}
      (htype : members.lookup "type" = some (.str type)) (hcanonical : IsCanonical type)
      (honly : ∀ value, ("type", value) ∈ members → value = .str type)
      (hinner : ∀ items, ("geometries", Value.list items) ∈ members → ∀ item ∈ items, IsNormal item) :
      IsNormal (.object members)

/-- Members stay when the type needs no respelling and the geometries are their own normal forms. -/
theorem decodeMembers_eq_self {type : String} {members : List (String × Value)}
    (hcanonical : IsCanonical type) (honly : ∀ value, ("type", value) ∈ members → value = .str type)
    (hinner : ∀ items, ("geometries", Value.list items) ∈ members → decodeItems items = items) :
    decodeMembers type members = members := by
  induction members with
  | nil => rfl
  | cons member rest ih =>
      obtain ⟨name, value⟩ := member
      have hrest := ih (fun value h => honly value (List.mem_cons_of_mem _ h))
        fun items h => hinner items (List.mem_cons_of_mem _ h)
      rw [decodeMembers, hrest]
      -- only the members named here are touched
      congr 2
      by_cases htype : name = "type"
      · subst htype
        rw [if_pos rfl, canonicalType_of_isCanonical hcanonical, honly value List.mem_cons_self]
      · rw [if_neg htype]
        by_cases hgeometries : name = "geometries"
        · subst hgeometries
          rw [if_pos rfl]
          unfold decodeInner
          split
          · rw [hinner _ List.mem_cons_self]
          · rfl
        · rw [if_neg hgeometries]

/-- Items that are their own normal forms stay. -/
theorem decodeItems_eq_self {items : List Value} (h : ∀ item ∈ items, decode item = some item) :
    decodeItems items = items := by
  induction items with
  | nil => rfl
  | cons item rest ih =>
      rw [List.forall_mem_cons] at h
      rw [decodeItems, h.1, ih h.2]

/-- **A normal value is its own normal form.** -/
theorem decode_of_isNormal {g : Value} (h : IsNormal g) : decode g = some g := by
  -- the induction carries that every geometry in the list is its own normal form
  induction h with
  | object htype hcanonical honly _ ih =>
      rw [decode, htype]
      dsimp only
      rw [decodeMembers_eq_self hcanonical honly fun items hitems => decodeItems_eq_self (ih items hitems)]

/-- A normal value is its own normal form as a constant, too. -/
theorem ofConstant_of_isNormal {g : Value} (h : IsNormal g) : ofConstant g = some g := by
  have hdecode := decode_of_isNormal h
  cases h with
  | object => exact hdecode

/-! ## Well-known text -/

/-- An object with a known type and one other member is normal when its geometries are. -/
theorem isNormal_tagged {type member : String} {value : Json} (htype : type ∈ knownTypes)
    (hmember : member ≠ "type")
    (hinner : ∀ items, member = "geometries" → Value.ofJson value = .list items → ∀ item ∈ items, IsNormal item) :
    IsNormal (.ofJson (Geometry.tagged type member value)) := by
  rw [Geometry.tagged, Value.ofJson, Value.ofJsonMembers_eq_map]
  refine .object rfl (isCanonical_of_mem htype) ?_ ?_
  · intro v hv
    simp only [List.map_cons, List.map_nil, List.mem_cons, List.not_mem_nil, or_false, Prod.mk.injEq] at hv
    rcases hv with ⟨-, rfl⟩ | ⟨hname, -⟩
    · rfl
    · exact absurd hname.symm hmember
  · intro items hitems
    simp only [List.map_cons, List.map_nil, List.mem_cons, List.not_mem_nil, or_false, Prod.mk.injEq] at hitems
    rcases hitems with ⟨hname, -⟩ | ⟨hname, hvalue⟩
    · exact absurd hname (by decide)
    · exact hinner items hname.symm hvalue.symm

/-- Coordinates are no geometries. -/
theorem isNormal_coordinates {type : String} (htype : type ∈ knownTypes) (value : Json) :
    IsNormal (.ofJson (Geometry.tagged type "coordinates" value)) :=
  isNormal_tagged htype (by decide) fun _ hname => absurd hname (by decide)

mutual

/-- **The GeoJSON form of a geometry is normal.** -/
theorem isNormal_toJson : ∀ g : Geometry, IsNormal (.ofJson g.toJson)
  | .point _ | .lineString _ | .polygon _ | .multiPoint _ | .multiLineString _ | .multiPolygon _
  | .envelope .. => isNormal_coordinates (by decide) _
  | .collection members => by
      refine isNormal_tagged (by decide) (by decide) fun items _ hvalue => ?_
      rw [Value.ofJson, Value.list.injEq] at hvalue
      rw [← hvalue]
      exact isNormal_toJsonAll members

/-- The GeoJSON forms of geometries are normal. -/
theorem isNormal_toJsonAll : ∀ gs : List Geometry,
    ∀ item ∈ Value.ofJsonItems (Geometry.toJsonAll gs), IsNormal item
  | [], _, h => by cases h
  | g :: gs, item, h => by
      rw [Geometry.toJsonAll, Value.ofJsonItems, List.mem_cons] at h
      rcases h with rfl | h
      · exact isNormal_toJson g
      · exact isNormal_toJsonAll gs item h

end

/-! ## Normal forms -/

/-- **Shapes**: values with a type that is a text, and well-known text. -/
def IsShape (v : Value) : Prop :=
  (∃ type, v.get? "type" = some (.str type)) ∨ ∃ s g, v = .str s ∧ Wkt.read s = .ok g

mutual

/-- **The normal form of a shape.** -/
inductive NormalOf : Value → Value → Prop where
  | object {members normal : List (String × Value)} {type spelling : String}
      (htype : members.lookup "type" = some (.str type)) (hspelling : Respelled type spelling)
      (hmembers : MembersOf spelling members normal) : NormalOf (.object members) (.object normal)
  | wellKnown {s : String} {g : Geometry} (hread : Wkt.read s = .ok g) : NormalOf (.str s) (.ofJson g.toJson)

/-- The members of a normal form with a type of given spelling, in their order. -/
inductive MembersOf : String → List (String × Value) → List (String × Value) → Prop where
  | nil {spelling : String} : MembersOf spelling [] []
  | type {spelling : String} {value : Value} {rest normal : List (String × Value)}
      (hrest : MembersOf spelling rest normal) :
      MembersOf spelling (("type", value) :: rest) (("type", .str spelling) :: normal)
  | geometries {spelling : String} {items shapes : List Value} {rest normal : List (String × Value)}
      (hitems : ItemsOf items shapes) (hrest : MembersOf spelling rest normal) :
      MembersOf spelling (("geometries", .list items) :: rest) (("geometries", .list shapes) :: normal)
  /-- Anything else, and geometries that are not a list, stay. -/
  | other {spelling name : String} {value : Value} {rest normal : List (String × Value)}
      (htype : name ≠ "type") (hvalue : name = "geometries" → ∀ items, value ≠ .list items)
      (hrest : MembersOf spelling rest normal) :
      MembersOf spelling ((name, value) :: rest) ((name, value) :: normal)

/-- The normal forms of the shapes among items, in their order. -/
inductive ItemsOf : List Value → List Value → Prop where
  | nil : ItemsOf [] []
  | kept {item shape : Value} {rest shapes : List Value} (hitem : NormalOf item shape)
      (hrest : ItemsOf rest shapes) : ItemsOf (item :: rest) (shape :: shapes)
  | dropped {item : Value} {rest shapes : List Value} (hitem : ¬IsShape item)
      (hrest : ItemsOf rest shapes) : ItemsOf (item :: rest) shapes

end

/-- Just the shapes have normal forms. -/
theorem isShape_iff {v : Value} : IsShape v ↔ (decode v).isSome = true := by
  have hread : ∀ s, (∃ g, Wkt.read s = .ok g) ↔ (Wkt.read? s).isSome = true := by
    intro s
    rw [Wkt.read?]
    cases Wkt.read s <;> simp [Except.toOption]
  cases v with
  | object members =>
      simp only [IsShape, Value.get?, decode]
      cases hlookup : members.lookup "type" with
      | none => simp
      | some value => cases value <;> simp
  | keyed entries =>
      simp only [IsShape, decode]
      cases hlookup : (Value.keyed entries).get? "type" with
      | none => simp
      | some value => cases value <;> simp
  | str s =>
      simp only [IsShape, Value.get?, decode, Option.isSome_map, ← hread s]
      simp
  | _ => simp [IsShape, Value.get?, decode]

mutual

/-- A normal form is what decoding finds. -/
theorem NormalOf.decode_eq : ∀ {v g : Value}, NormalOf v g → decode v = some g
  | _, _, .object htype hspelling hmembers => by
      rw [decode, htype]
      dsimp only
      rw [hmembers.decodeMembers_eq (canonicalType_eq_iff.2 hspelling)]
  | _, _, .wellKnown hread => by
      rw [decode, Wkt.read?, hread]
      rfl

/-- The members of a normal form are what decoding makes of them. -/
theorem MembersOf.decodeMembers_eq {type spelling : String} (hspelling : canonicalType type = spelling) :
    ∀ {members normal : List (String × Value)}, MembersOf spelling members normal →
      decodeMembers type members = normal
  | _, _, .nil => rfl
  | _, _, .type hrest => by
      rw [decodeMembers, hrest.decodeMembers_eq hspelling, if_pos rfl, hspelling]
  | _, _, .geometries hitems hrest => by
      rw [decodeMembers, hrest.decodeMembers_eq hspelling, if_neg (by decide), if_pos rfl, decodeInner,
        hitems.decodeItems_eq]
  | _, _, .other htype hvalue hrest => by
      rw [decodeMembers, hrest.decodeMembers_eq hspelling, if_neg htype]
      split
      · rename_i hname
        unfold decodeInner
        split
        · exact absurd rfl (hvalue hname _)
        · rfl
      · rfl

/-- The normal forms of items are what decoding makes of them. -/
theorem ItemsOf.decodeItems_eq : ∀ {items shapes : List Value}, ItemsOf items shapes →
    decodeItems items = shapes
  | _, _, .nil => rfl
  | _, _, .kept hitem hrest => by
      rw [decodeItems, hitem.decode_eq]
      dsimp only
      rw [hrest.decodeItems_eq]
  | _, _, .dropped hitem hrest => by
      rw [isShape_iff, Bool.not_eq_true, Option.isSome_eq_false_iff, Option.isNone_iff_eq_none] at hitem
      rw [decodeItems, hitem]
      exact hrest.decodeItems_eq

end

mutual

/-- What decoding finds for a JSON value is its normal form. -/
theorem normalOf_of_decode : ∀ {j : Json} {g : Value}, decode (.ofJson j) = some g → NormalOf (.ofJson j) g
  | .obj members, g, h => by
      rw [Value.ofJson, decode] at h
      split at h
      · rename_i type htype
        obtain rfl := Option.some.inj h
        rw [Value.ofJson]
        exact .object htype (canonicalType_eq_iff.1 rfl) (membersOf_decodeMembers type members)
      · cases h
  | .str s, g, h => by
      rw [Value.ofJson, decode, Wkt.read?] at h
      obtain ⟨w, hread, rfl⟩ := Option.map_eq_some_iff.1 h
      cases hw : Wkt.read s with
      | error fault =>
          rw [hw] at hread
          cases hread
      | ok w' =>
          rw [hw] at hread
          obtain rfl := Option.some.inj hread
          rw [Value.ofJson]
          exact .wellKnown hw
  | .null, _, h | .bool _, _, h | .int _, _, h | .float _, _, h | .arr _, _, h => by cases h

/-- What decoding makes of members are those of the normal form. -/
theorem membersOf_decodeMembers (type : String) : ∀ members : List (String × Json),
    MembersOf (canonicalType type) (Value.ofJsonMembers members)
      (decodeMembers type (Value.ofJsonMembers members))
  | [] => .nil
  | (name, value) :: rest => by
      have hrest := membersOf_decodeMembers type rest
      rw [Value.ofJsonMembers, decodeMembers]
      by_cases htype : name = "type"
      · subst htype
        rw [if_pos rfl]
        exact .type hrest
      · rw [if_neg htype]
        by_cases hgeometries : name = "geometries"
        · subst hgeometries
          rw [if_pos rfl]
          cases value with
          | arr items => exact .geometries (itemsOf_decodeItems items) hrest
          | _ => exact .other (by decide) (fun _ _ h => nomatch h) hrest
        · rw [if_neg hgeometries]
          exact .other htype (fun h => absurd h hgeometries) hrest

/-- What decoding makes of items are the normal forms of the shapes among them. -/
theorem itemsOf_decodeItems : ∀ items : List Json,
    ItemsOf (Value.ofJsonItems items) (decodeItems (Value.ofJsonItems items))
  | [] => .nil
  | item :: rest => by
      have hrest := itemsOf_decodeItems rest
      rw [Value.ofJsonItems, decodeItems]
      cases hitem : decode (.ofJson item) with
      | none => exact .dropped (by rw [isShape_iff, hitem]; simp) hrest
      | some g => exact .kept (normalOf_of_decode hitem) hrest

end

/-- **Decoding a JSON value finds its normal form**, and nothing when it has none. -/
theorem decode_eq_some_iff {j : Json} {g : Value} : decode (.ofJson j) = some g ↔ NormalOf (.ofJson j) g :=
  ⟨normalOf_of_decode, NormalOf.decode_eq⟩

/-! ## Normal forms are normal -/

/-- The type of a normal form is there, and it has the given spelling. -/
theorem MembersOf.lookup_type {spelling : String} {value : Value} :
    ∀ {members normal : List (String × Value)}, MembersOf spelling members normal →
      members.lookup "type" = some value → normal.lookup "type" = some (.str spelling)
  | _, _, .type _, _ => rfl
  | _, _, .geometries _ hrest, htype => hrest.lookup_type htype
  | (name, _) :: _, _, .other hname _ hrest, htype => by
      have hne : ("type" == name) = false := beq_false_of_ne (Ne.symm hname)
      rw [List.lookup_cons, hne] at htype ⊢
      exact hrest.lookup_type htype

/-- The only types among the members of a normal form have the given spelling. -/
theorem MembersOf.eq_of_mem {spelling : String} {value : Value} :
    ∀ {members normal : List (String × Value)}, MembersOf spelling members normal →
      ("type", value) ∈ normal → value = .str spelling
  | _, _, .type hrest, hmem => by
      rcases List.mem_cons.1 hmem with heq | hmem
      · exact (Prod.mk.inj heq).2
      · exact hrest.eq_of_mem hmem
  | _, _, .geometries _ hrest, hmem => by
      rcases List.mem_cons.1 hmem with heq | hmem
      · exact absurd (Prod.mk.inj heq).1 (by decide)
      · exact hrest.eq_of_mem hmem
  | _, _, .other hname _ hrest, hmem => by
      rcases List.mem_cons.1 hmem with heq | hmem
      · exact absurd (Prod.mk.inj heq).1.symm hname
      · exact hrest.eq_of_mem hmem

mutual

/-- **A normal form is normal.** -/
theorem NormalOf.isNormal : ∀ {v g : Value}, NormalOf v g → IsNormal g
  | _, _, .object htype hspelling hmembers =>
      .object (hmembers.lookup_type htype) hspelling.isCanonical (fun _ => hmembers.eq_of_mem)
        fun _ => hmembers.inner
  | _, _, .wellKnown _ => isNormal_toJson _

/-- The geometries of a normal form are normal. -/
theorem MembersOf.inner {spelling : String} : ∀ {members normal : List (String × Value)} {items : List Value},
    MembersOf spelling members normal → ("geometries", Value.list items) ∈ normal →
      ∀ item ∈ items, IsNormal item
  | _, _, _, .nil, hmem => by cases hmem
  | _, _, _, .type hrest, hmem => by
      rcases List.mem_cons.1 hmem with heq | hmem
      · exact absurd (Prod.mk.inj heq).1 (by decide)
      · exact hrest.inner hmem
  | _, _, _, .geometries hitems hrest, hmem => by
      rcases List.mem_cons.1 hmem with heq | hmem
      · obtain rfl := Value.list.inj (Prod.mk.inj heq).2
        exact hitems.isNormal
      · exact hrest.inner hmem
  | _, _, _, .other _ hvalue hrest, hmem => by
      rcases List.mem_cons.1 hmem with heq | hmem
      · obtain ⟨hname, heq⟩ := Prod.mk.inj heq
        exact absurd heq.symm (hvalue hname.symm _)
      · exact hrest.inner hmem

/-- The normal forms of items are normal. -/
theorem ItemsOf.isNormal : ∀ {items shapes : List Value}, ItemsOf items shapes →
    ∀ shape ∈ shapes, IsNormal shape
  | _, _, .nil, _, hmem => by cases hmem
  | _, _, .kept hitem hrest, _, hmem => by
      rcases List.mem_cons.1 hmem with rfl | hmem
      · exact hitem.isNormal
      · exact hrest.isNormal _ hmem
  | _, _, .dropped _ hrest, _, hmem => hrest.isNormal _ hmem

end

/-! ## The projection -/

/-- Whether nothing is left to be changed in a geometry. -/
structure IsSettled (g : Value) : Prop where
  normal : IsNormal g
  decode_eq : decode g = some g
  ofConstant_eq : ofConstant g = some g

/-- Nothing is left to be changed in a normal value. -/
theorem IsNormal.isSettled {g : Value} (h : IsNormal g) : IsSettled g :=
  ⟨h, decode_of_isNormal h, ofConstant_of_isNormal h⟩

/-- **Decoding is a projection onto normal values.** What it finds for a JSON value is the normal form of it,
with nothing left to be changed, and nothing is left to be changed in what is read from well-known text. -/
theorem decode_projects :
    (∀ (j : Json) (g : Value), decode (.ofJson j) = some g ↔ NormalOf (.ofJson j) g) ∧
      (∀ (j : Json) (g : Value), decode (.ofJson j) = some g → IsSettled g) ∧
      ∀ (s : String) (g : Geometry), Wkt.read s = .ok g → IsSettled (.ofJson g.toJson) := by
  refine ⟨fun j g => decode_eq_some_iff, fun j g h => ?_, fun s g _ => ?_⟩
  · exact (decode_eq_some_iff.1 h).isNormal.isSettled
  · exact (isNormal_toJson g).isSettled

/-- A collection with a text that says nothing, an empty point as text, a number, and a polygon. -/
def mixedCollection : Json :=
  .obj [("type", .str "GEOMETRYCollection"),
    ("geometries", .arr [.str "nowhere", .str "Point empty", .int 7,
      .obj [("coordinates", .null), ("type", .str "polygon")]]),
    ("crs", .int 4326)]

/-- The collection of the empty point and the polygon. -/
def normalCollection : Value :=
  .object [("type", .str "GeometryCollection"),
    ("geometries", .list [.object [("type", .str "Point"), ("coordinates", .list [])],
      .object [("coordinates", .null), ("type", .str "Polygon")]]),
    ("crs", .int 4326)]

/-- The normal form of the mixed collection keeps the empty point and the polygon. -/
theorem decode_projects_collection :
    (decode (.ofJson mixedCollection) = some normalCollection ∧
      NormalOf (.ofJson mixedCollection) normalCollection ∧ IsSettled normalCollection) ∧
      Wkt.read "Point empty" = .ok (.point []) ∧ IsSettled (.ofJson (Geometry.point []).toJson) := by
  have hdecode : decode (.ofJson mixedCollection) = some normalCollection := by rfl
  have hread : Wkt.read "Point empty" = .ok (.point []) := by rfl
  exact ⟨⟨hdecode, (decode_projects.1 _ _).1 hdecode, decode_projects.2.1 _ _ hdecode⟩, hread,
    decode_projects.2.2 _ _ hread⟩

end SearchTables.Shape
