import SearchTables.Proofs.Filter.Translation
import SearchTables.Proofs.Geometry.Rectangle
import SearchTables.Proofs.Geometry.WktGrammar

/-! # Regions of the map — which points a bounding box asks for

A **region** lies between two latitudes and is as wide as the way east from one longitude to another. When
the first longitude is east of the second one, that way leads over the antimeridian. The corners of an
envelope say which region it is. A bounding box for the points within an envelope is made of the smaller and
the larger of both longitudes, which is the region of the envelope only while its corners stand from west
to east (`Envelope.selects_within`): the box of one that crosses the antimeridian is what lies on the other
side of the globe. -/

namespace SearchTables

/-! ## Regions -/

/-- A latitude or a longitude; a number in JSON may be infinite. -/
abbrev Degrees := WithBot (WithTop ℚ)

/-- The longitudes that are reached going east from one longitude to another. -/
def ReachedEast (west east longitude : Degrees) : Prop :=
  if west ≤ east then west ≤ longitude ∧ longitude ≤ east else west ≤ longitude ∨ longitude ≤ east

/-- The places between two latitudes whose longitude is reached going east. -/
def region (west south east north : Degrees) : Set Place :=
  {p | (south ≤ p.2 ∧ p.2 ≤ north) ∧ ReachedEast west east p.1}

/-- The way east from the smaller longitude to the larger one leads to all that are between them. -/
theorem mem_region_min_max {x₁ x₂ south north : Degrees} {p : Place} :
    p ∈ region (min x₁ x₂) south (max x₁ x₂) north ↔
      (south ≤ p.2 ∧ p.2 ≤ north) ∧ min x₁ x₂ ≤ p.1 ∧ p.1 ≤ max x₁ x₂ := by
  rw [region, Set.mem_ofPred_eq, ReachedEast, if_pos min_le_max]

namespace Value

/-- The degrees that a number stands for. -/
def degrees? : Value → Option Degrees
  | .int n => (Extended.ofInt n).place?
  | .float x => (Extended.ofFloat x).place?
  | _ => none

variable {v w : Value} {p q : Degrees}

/-- Degrees are given by an integer or by a double. -/
theorem int_or_float_of_degrees (h : v.degrees? = some q) :
    (∃ n, v = .int n) ∨ ∃ x, v = .float x := by
  cases v with
  | int n => exact .inl ⟨n, rfl⟩
  | float x => exact .inr ⟨x, rfl⟩
  | _ => cases h

/-- Degrees are a number in its place. -/
theorem exists_number_of_degrees (h : v.degrees? = some q) :
    ∃ n, v.number? = some n ∧ n.IsProper ∧ n.place? = some q := by
  rcases int_or_float_of_degrees h with ⟨n, rfl⟩ | ⟨x, rfl⟩
  · exact ⟨_, rfl, Nat.one_pos, h⟩
  · exact ⟨_, rfl, Extended.isProper_ofFloat x, h⟩

/-- Degrees are ordered as numbers. -/
theorem less_of_degrees (hv : v.degrees? = some p) (hw : w.degrees? = some q) :
    Box.less v w = .ok (decide (p < q)) := by
  obtain ⟨n, hn, hnp, hnplace⟩ := exists_number_of_degrees hv
  obtain ⟨m, hm, hmp, hmplace⟩ := exists_number_of_degrees hw
  have hlt : n.lt m = decide (p < q) := by
    rw [Bool.eq_iff_iff, Extended.lt_iff_of_place hnp hmp hnplace hmplace, decide_eq_true_iff]
  rw [← hlt]
  rcases int_or_float_of_degrees hv with ⟨k, rfl⟩ | ⟨x, rfl⟩ <;>
    rcases int_or_float_of_degrees hw with ⟨l, rfl⟩ | ⟨y, rfl⟩ <;>
    obtain rfl := Option.some.inj hn <;> obtain rfl := Option.some.inj hm <;>
    rw [Box.less.eq_def] <;> rfl

/-- The smaller of two values has the smaller degrees. -/
theorem exists_smaller (hv : v.degrees? = some p) (hw : w.degrees? = some q) :
    ∃ u, Box.smaller v w = .ok u ∧ u.degrees? = some (min p q) := by
  rw [Box.smaller, less_of_degrees hw hv]
  by_cases h : q < p
  · refine ⟨w, ?_, by rw [min_eq_right h.le, hw]⟩
    rw [decide_eq_true h]
    rfl
  · refine ⟨v, ?_, by rw [min_eq_left (not_lt.1 h), hv]⟩
    rw [decide_eq_false h]
    rfl

/-- The larger of two values has the larger degrees. -/
theorem exists_larger (hv : v.degrees? = some p) (hw : w.degrees? = some q) :
    ∃ u, Box.larger v w = .ok u ∧ u.degrees? = some (max p q) := by
  rw [Box.larger, less_of_degrees hv hw]
  by_cases h : p < q
  · refine ⟨w, ?_, by rw [max_eq_right h.le, hw]⟩
    rw [decide_eq_true h]
    rfl
  · refine ⟨v, ?_, by rw [max_eq_left (not_lt.1 h), hv]⟩
    rw [decide_eq_false h]
    rfl

end Value

/-- **The region that a bounding box asks for**, in the form in which it is sent: from the longitude of
its upper left corner to that of its lower right corner. -/
inductive BoxSelects (field : String) : Value → Set Place → Prop where
  | mk {top left bottom right : Value} {north west south east : Degrees}
      (htop : top.degrees? = some north) (hleft : left.degrees? = some west)
      (hbottom : bottom.degrees? = some south) (hright : right.degrees? = some east) :
      BoxSelects field
        (.object [("geo_bounding_box", .object [(field, .object [
          ("top_left", .object [("lat", top), ("lon", left)]),
          ("bottom_right", .object [("lat", bottom), ("lon", right)])])])])
        (region west south east north)

/-- A sent box selects one region. -/
theorem BoxSelects.unique {field : String} {sent : Value} {area other : Set Place}
    (h : BoxSelects field sent area) (h' : BoxSelects field sent other) : area = other := by
  cases h with
  | mk htop hleft hbottom hright =>
      cases h' with
      | mk htop' hleft' hbottom' hright' =>
          obtain rfl := Option.some.inj (htop.symm.trans htop')
          obtain rfl := Option.some.inj (hleft.symm.trans hleft')
          obtain rfl := Option.some.inj (hbottom.symm.trans hbottom')
          obtain rfl := Option.some.inj (hright.symm.trans hright')
          rfl

/-! ## Envelopes -/

/-- Whether a relation says that the field is within the constant: `within` with the field first, or
`contains` with the constant first. -/
def SaysWithin (relation : SpatialRelation) (fieldFirst : Bool) : Prop :=
  (relation = .within ∧ fieldFirst = true) ∨ (relation = .contains ∧ fieldFirst = false)

/-- A relation says `within` when it is `within` once the field comes first. -/
theorem saysWithin_iff {relation : SpatialRelation} {fieldFirst : Bool} :
    SaysWithin relation fieldFirst ↔ (if fieldFirst then relation else relation.swapped) = .within := by
  cases relation <;> cases fieldFirst <;> simp [SaysWithin, SpatialRelation.swapped]

/-- An envelope by its upper left corner and its lower right corner. -/
structure Envelope where
  x₁ : Degrees
  y₁ : Degrees
  x₂ : Degrees
  y₂ : Degrees

namespace Envelope

/-- The region of an envelope. -/
def area (e : Envelope) : Set Place := region e.x₁ e.y₂ e.x₂ e.y₁

/-- The corners of an envelope as two pairs of numbers. -/
inductive Corners (e : Envelope) : Value → Prop where
  | mk {x₁ y₁ x₂ y₂ : Value} (hx₁ : x₁.degrees? = some e.x₁) (hy₁ : y₁.degrees? = some e.y₁)
      (hx₂ : x₂.degrees? = some e.x₂) (hy₂ : y₂.degrees? = some e.y₂) :
      Corners e (.list [.list [x₁, y₁], .list [x₂, y₂]])

/-- An envelope as a GeoJSON object. The letter case of its type does not matter. -/
inductive IsObject (e : Envelope) : Value → Prop where
  | mk {members : List (String × Value)} {type : String} {coordinates : Value}
      (htype : members.lookup "type" = some (.str type)) (hname : Text.lowerAscii type = "envelope")
      (hcoordinates : members.lookup "coordinates" = some coordinates)
      (hcorners : Corners e coordinates) : IsObject e (.object members)

/-- **An envelope as it is written in a filter**: as a GeoJSON object, as GeoJSON text, or as well-known
text, which gives both longitudes before both latitudes. -/
inductive IsWritten (e : Envelope) : Value → Prop where
  | object {v : Value} (h : IsObject e v) : IsWritten e v
  | text {s : String} {j : Json} (hstart : (Text.trim s).startsWith "\x7b" = true)
      (hread : Json.read? (Text.trim s) = some j) (h : IsObject e (.ofJson j)) : IsWritten e (.str s)
  | wellKnown {s : String} {ts : Wkt.Tokens} {x₁ x₂ y₁ y₂ : Float} (hlexes : Wkt.Lexes s.toList ts)
      (hderives : Wkt.Derives (.envelope x₁ x₂ y₁ y₂) ts)
      (hcorners : Corners e (.list [.list [.float x₁, .float y₁], .list [.float x₂, .float y₂]])) :
      IsWritten e (.str s)

/-- An envelope in normal form. -/
structure IsNormal (e : Envelope) (shape : Value) : Prop where
  type_eq : shape.get? "type" = some (.str "envelope")
  corners : ∃ coordinates, shape.get? "coordinates" = some coordinates ∧ Corners e coordinates

variable {e : Envelope}

/-- The members of a normal form, one by one. -/
theorem lookup_decodeMembers (type name : String) (members : List (String × Value)) :
    (Shape.decodeMembers type members).lookup name =
      (members.lookup name).map fun value =>
        if name = "type" then .str (Shape.canonicalType type)
        else if name = "geometries" then Shape.decodeInner value
        else value := by
  induction members with
  | nil => rfl
  | cons member rest ih =>
      obtain ⟨other, value⟩ := member
      rw [Shape.decodeMembers, List.lookup_cons, List.lookup_cons]
      by_cases h : name = other
      · subst h
        rw [beq_self_eq_true]
        rfl
      · rw [beq_false_of_ne h]
        exact ih

/-- The normal form of an envelope object. -/
theorem IsObject.exists_decode {v : Value} (h : IsObject e v) :
    ∃ shape, Shape.decode v = some shape ∧ IsNormal e shape := by
  obtain ⟨htype, hname, hcoordinates, hcorners⟩ := h
  rename_i members type coordinates
  have hcanonical : Shape.canonicalType type = "envelope" := by
    rw [Shape.canonicalType, hname]
    rfl
  refine ⟨.object (Shape.decodeMembers type members), ?_, ?_, coordinates, ?_, hcorners⟩
  · rw [Shape.decode, htype]
  · rw [Value.get?, lookup_decodeMembers, htype, hcanonical]
    rfl
  · rw [Value.get?, lookup_decodeMembers, hcoordinates]
    rfl

/-- Trimming leaves the tokens of a text. -/
theorem lexes_trim {s : String} {ts : Wkt.Tokens} (h : Wkt.Lexes s.toList ts) :
    Wkt.Lexes (Text.trim s).toList ts := by
  have hstart : Wkt.Lexes (Text.trimStartChars s.toList) ts := by
    cases ts with
    | nil =>
        rw [Wkt.lexes_nil_iff] at h ⊢
        exact fun c hc => h c ((List.dropWhile_suffix _).subset hc)
    | cons t ts =>
        have hidem : Text.trimStartChars (Text.trimStartChars s.toList) = Text.trimStartChars s.toList :=
          List.dropWhile_idempotent Text.isBlank s.toList
        rw [Wkt.lexes_cons_iff] at h ⊢
        rwa [hidem]
  -- the tokens are read off the text without the blanks at its end
  have hread : ∀ cs : List Char, Wkt.Lexes cs ts ↔ Wkt.tokens (String.ofList cs) = .ok ts := by
    intro cs
    rw [Wkt.tokens_eq_ok_iff, String.toList_ofList]
  have hend : Wkt.tokens (String.ofList (Text.trimEndChars (Text.trimStartChars s.toList))) =
      Wkt.tokens (String.ofList (Text.trimStartChars s.toList)) := by
    have hidem : ∀ cs, Text.trimEndChars (Text.trimEndChars cs) = Text.trimEndChars cs := by
      intro cs
      rw [Text.trimEndChars, Text.trimEndChars, List.reverse_reverse, List.dropWhile_idempotent]
    rw [Wkt.tokens, Wkt.tokens, String.toList_ofList, String.toList_ofList, hidem]
  rw [Text.trim, String.toList_ofList, hread, hend, ← hread]
  exact hstart

/-- Well-known text does not start as a GeoJSON object does. -/
theorem not_startsWith_of_lexes {s word : String} {ts : Wkt.Tokens}
    (h : Wkt.Lexes s.toList (.word word :: ts)) : s.startsWith "\x7b" = false := by
  rw [String.startsWith_string_eq_false_iff]
  rintro ⟨rest, hrest⟩
  rw [← hrest, Wkt.lexes_cons_iff] at h
  obtain ⟨left, htake, -⟩ := h
  -- a brace is no blank, no letter and no sign, and what is left are numerals
  have hbrace : Wkt.takeToken? (Text.trimStartChars ("\x7b".toList ++ rest)) =
      Wkt.takeNumber? ('\x7b' :: rest) := rfl
  rw [hbrace, Wkt.takeNumber?] at htake
  obtain ⟨_, -, hnumber⟩ := Option.map_eq_some_iff.1 htake
  cases hnumber

/-- The tokens of an envelope start with a word. -/
theorem exists_word_of_derives {x₁ x₂ y₁ y₂ : Float} {ts : Wkt.Tokens}
    (h : Wkt.Derives (.envelope x₁ x₂ y₁ y₂) ts) : ∃ word rest, ts = .word word :: rest := by
  cases h with
  | empty hhead => cases hhead <;> exact ⟨_, _, rfl⟩
  | body hhead => cases hhead <;> exact ⟨_, _, rfl⟩

/-- **The normal form of an envelope has its corners**, in whichever way it is written. -/
theorem IsWritten.exists_ofConstant {geometry : Value} (h : IsWritten e geometry) :
    ∃ shape, Shape.ofConstant geometry = some shape ∧ IsNormal e shape := by
  cases h with
  | object h =>
      cases h with
      | mk htype hname hcoordinates hcorners =>
          exact (IsObject.mk htype hname hcoordinates hcorners).exists_decode
  | text hstart hread h =>
      obtain ⟨shape, hshape, hnormal⟩ := h.exists_decode
      refine ⟨shape, ?_, hnormal⟩
      rw [Shape.ofConstant, if_pos hstart, hread]
      exact hshape
  | @wellKnown s ts x₁ x₂ y₁ y₂ hlexes hderives hcorners =>
      have htrim := lexes_trim hlexes
      have hread : Wkt.read (Text.trim s) = .ok (.envelope x₁ x₂ y₁ y₂) :=
        Wkt.read_eq_ok_iff.2 ⟨ts, htrim, hderives⟩
      obtain ⟨word, rest, rfl⟩ := exists_word_of_derives hderives
      refine ⟨.ofJson (Geometry.envelope x₁ x₂ y₁ y₂).toJson, ?_, ?_⟩
      · rw [Shape.ofConstant, not_startsWith_of_lexes htrim, Wkt.read?, hread]
        rfl
      · exact ⟨rfl, .list [.list [.float x₁, .float y₁], .list [.float x₂, .float y₂]], rfl, hcorners⟩

/-- The box of an envelope has the smaller and the larger of both longitudes and of both latitudes. -/
theorem IsNormal.exists_box {shape : Value} (h : IsNormal e shape) :
    ∃ box, Box.ofGeometry? shape = .ok (some box) ∧ box.minX.degrees? = some (min e.x₁ e.x₂) ∧
      box.minY.degrees? = some (min e.y₁ e.y₂) ∧ box.maxX.degrees? = some (max e.x₁ e.x₂) ∧
      box.maxY.degrees? = some (max e.y₁ e.y₂) := by
  obtain ⟨coordinates, hcoordinates, hcorners⟩ := h.corners
  obtain ⟨hx₁, hy₁, hx₂, hy₂⟩ := hcorners
  obtain ⟨minX, hminX, hwest⟩ := Value.exists_smaller hx₁ hx₂
  obtain ⟨minY, hminY, hsouth⟩ := Value.exists_smaller hy₁ hy₂
  obtain ⟨maxX, hmaxX, heast⟩ := Value.exists_larger hx₁ hx₂
  obtain ⟨maxY, hmaxY, hnorth⟩ := Value.exists_larger hy₁ hy₂
  refine ⟨⟨minX, minY, maxX, maxY⟩, ?_, hwest, hsouth, heast, hnorth⟩
  have hbox : ∀ x₁ y₁ x₂ y₂, Box.ofCorners (.list [.list [x₁, y₁], .list [x₂, y₂]]) =
      (do
        let minX ← Box.smaller x₁ x₂
        let minY ← Box.smaller y₁ y₂
        let maxX ← Box.larger x₁ x₂
        let maxY ← Box.larger y₁ y₂
        pure ⟨minX, minY, maxX, maxY⟩) := fun _ _ _ _ => rfl
  rw [ Box.ofGeometry?, h.type_eq, hcoordinates]
  dsimp only [Option.getD_some]
  rw [hbox, hminX, hminY, hmaxX, hmaxY]
  rfl

/-! ## Boxes in place of envelopes -/

section

variable {t : Translator} {context name : String} {geometry : Value} {relation : SpatialRelation}
  {fieldFirst : Bool}

/-- **The box for the points within an envelope** is that from the smaller to the larger longitude. Columns
that exist on the side of the table only have no clause. -/
theorem exists_translate_within (hwithin : SaysWithin relation fieldFirst)
    (hfield : t.schema.indexType? (Path.under context name) = some "geo_point")
    (hlevel : t.enter.tooDeep = false) (hwritten : e.IsWritten geometry) :
    ∃ clause,
      (t.translate context (.spatial relation name geometry fieldFirst)).1 =
        .ok (if Path.under context name = "" ∨ residualColumns.contains (Path.under context name) then none
          else some clause) ∧
      BoxSelects (Path.under context name) clause.toValue
        (region (min e.x₁ e.x₂) (min e.y₁ e.y₂) (max e.x₁ e.x₂) (max e.y₁ e.y₂)) := by
  obtain ⟨shape, hshape, hnormal⟩ := hwritten.exists_ofConstant
  obtain ⟨box, hbox, hwest, hsouth, heast, hnorth⟩ := hnormal.exists_box
  have hspatial : t.schema.spatialClause relation (Path.under context name) geometry fieldFirst =
      .ok (some (.geoBox (Path.under context name) box.minX box.minY box.maxX box.maxY)) := by
    rw [Schema.spatialClause, hfield, if_neg (by decide), hshape]
    dsimp only
    rw [saysWithin_iff.1 hwithin, if_pos rfl, hbox]
  refine ⟨.geoBox (Path.under context name) box.minX box.minY box.maxX box.maxY, ?_,
    .mk hnorth hwest hsouth heast⟩
  have hleaf : (t.translate context (.spatial relation name geometry fieldFirst)).1 =
      t.schema.translateLeaf context (.spatial relation name geometry fieldFirst) := by
    rw [Translator.translate_of_isLeaf rfl, hlevel]
    rfl
  rw [hleaf, Schema.translateLeaf, Schema.leafClause, hspatial]
  split <;> rfl

end

/-- Corners that stand from west to east say the region between them. -/
theorem region_min_max_of_le (hlongitudes : e.x₁ ≤ e.x₂) (hlatitudes : e.y₂ ≤ e.y₁) :
    region (min e.x₁ e.x₂) (min e.y₁ e.y₂) (max e.x₁ e.x₂) (max e.y₁ e.y₂) = e.area := by
  rw [min_eq_left hlongitudes, max_eq_right hlongitudes, min_eq_right hlatitudes, max_eq_left hlatitudes]
  rfl

/-- What is strictly between the longitudes of an envelope across the antimeridian is not in it. -/
theorem not_mem_area_of_between {p : Place} (hwest : e.x₂ < p.1) (heast : p.1 < e.x₁) : p ∉ e.area := by
  rintro ⟨-, hreached⟩
  rw [ReachedEast, if_neg (not_le.2 (hwest.trans heast))] at hreached
  rcases hreached with h | h
  · exact absurd heast (not_lt.2 h)
  · exact absurd hwest (not_lt.2 h)

/-- **The box for the points within an envelope selects the region of the envelope exactly when its
longitudes stand from west to east.** It always selects all latitudes of the envelope with the longitudes
between the smaller and the larger one, so what it selects in place of an envelope across the antimeridian
are the places that the envelope leaves out. -/
theorem selects_within {e : Envelope} {t : Translator} {context name : String} {geometry : Value}
    {relation : SpatialRelation} {fieldFirst : Bool} (hwithin : SaysWithin relation fieldFirst)
    (hfield : t.schema.indexType? (Path.under context name) = some "geo_point")
    (hlevel : t.enter.tooDeep = false) (hwritten : e.IsWritten geometry) (hlatitudes : e.y₂ ≤ e.y₁) :
    ∃ clause selected,
      (t.translate context (.spatial relation name geometry fieldFirst)).1 =
        .ok (if Path.under context name = "" ∨ residualColumns.contains (Path.under context name) then none
          else some clause) ∧
      BoxSelects (Path.under context name) clause.toValue selected ∧
      (∀ p : Place, p ∈ selected ↔
        (e.y₂ ≤ p.2 ∧ p.2 ≤ e.y₁) ∧ min e.x₁ e.x₂ ≤ p.1 ∧ p.1 ≤ max e.x₁ e.x₂) ∧
      (e.x₁ ≤ e.x₂ → selected = e.area) ∧
      ∀ p : Place, e.y₂ ≤ p.2 → p.2 ≤ e.y₁ → e.x₂ < p.1 → p.1 < e.x₁ → p ∈ selected ∧ p ∉ e.area := by
  obtain ⟨clause, hclause, hselects⟩ := exists_translate_within hwithin hfield hlevel hwritten
  -- the latitudes are in order already, so only the longitudes change places
  have hmem : ∀ p : Place,
      p ∈ region (min e.x₁ e.x₂) (min e.y₁ e.y₂) (max e.x₁ e.x₂) (max e.y₁ e.y₂) ↔
        (e.y₂ ≤ p.2 ∧ p.2 ≤ e.y₁) ∧ min e.x₁ e.x₂ ≤ p.1 ∧ p.1 ≤ max e.x₁ e.x₂ := by
    intro p
    rw [mem_region_min_max, min_eq_right hlatitudes, max_eq_left hlatitudes]
  refine ⟨clause, _, hclause, hselects, hmem, fun h => region_min_max_of_le h hlatitudes, ?_⟩
  intro p hsouth hnorth hwest heast
  refine ⟨(hmem p).2 ⟨⟨hsouth, hnorth⟩, ?_, ?_⟩, not_mem_area_of_between hwest heast⟩
  · exact (min_le_right ..).trans hwest.le
  · exact heast.le.trans (le_max_left ..)

/-- An envelope with whole degrees. -/
def ofInts (x₁ y₁ x₂ y₂ : Int) : Envelope where
  x₁ := (x₁ : ℚ)
  y₁ := (y₁ : ℚ)
  x₂ := (x₂ : ℚ)
  y₂ := (y₂ : ℚ)

/-- Its GeoJSON object. -/
def objectOfInts (x₁ y₁ x₂ y₂ : Int) : Value :=
  .object [("type", .str "envelope"),
    ("coordinates", .list [.list [.int x₁, .int y₁], .list [.int x₂, .int y₂]])]

/-- The object writes the envelope. -/
theorem isWritten_objectOfInts (x₁ y₁ x₂ y₂ : Int) :
    IsWritten (ofInts x₁ y₁ x₂ y₂) (objectOfInts x₁ y₁ x₂ y₂) := by
  have hdegrees : ∀ n : Int, (Value.int n).degrees? = some ((n : ℚ) : Degrees) := by
    intro n
    show some _ = some _
    rw [Nat.cast_one, div_one]
    rfl
  exact .object (.mk rfl (by decide) rfl (.mk (hdegrees _) (hdegrees _) (hdegrees _) (hdegrees _)))

/-- Whole degrees are ordered as integers. -/
theorem intCast_lt {m n : Int} (h : m < n) : ((m : ℚ) : Degrees) < (n : ℚ) :=
  WithBot.coe_lt_coe.2 (WithTop.coe_lt_coe.2 (Int.cast_lt.2 h))

/-- A schema with one field of points. -/
def locations : Schema := { columns := [], pathTypes := [("location", "geo_point")] }

/-- The points within the twenty degrees east from `170` to `-170` are asked for by a box that does not
select them. -/
theorem not_selects_of_crossing :
    let e := ofInts 170 10 (-170) (-10)
    let geometry := objectOfInts 170 10 (-170) (-10)
    IsWritten e geometry ∧ ∃ clause,
      (Translator.translate { schema := locations } "" (.spatial .within "location" geometry true)).1 =
          .ok (some clause) ∧
        ¬ BoxSelects "location" clause.toValue e.area := by
  intro e geometry
  have hwritten : IsWritten e geometry := isWritten_objectOfInts 170 10 (-170) (-10)
  have hfield : locations.indexType? (Path.under "" "location") = some "geo_point" := rfl
  have hlevel : ({ schema := locations } : Translator).enter.tooDeep = false := rfl
  obtain ⟨clause, hclause, hselects⟩ :=
    exists_translate_within (.inl ⟨rfl, rfl⟩) hfield hlevel hwritten
  refine ⟨hwritten, clause, hclause, fun harea => ?_⟩
  -- the origin is in the box, and it is on the other side of the globe
  have hwest : e.x₂ < ((0 : Int) : ℚ) := intCast_lt (by decide)
  have heast : ((0 : Int) : ℚ) < e.x₁ := intCast_lt (by decide)
  have hsouth : e.y₂ < ((0 : Int) : ℚ) := intCast_lt (by decide)
  have hnorth : ((0 : Int) : ℚ) < e.y₁ := intCast_lt (by decide)
  have hbox : (((0 : Int) : ℚ), ((0 : Int) : ℚ)) ∈
      region (min e.x₁ e.x₂) (min e.y₁ e.y₂) (max e.x₁ e.x₂) (max e.y₁ e.y₂) := by
    rw [mem_region_min_max]
    exact ⟨⟨(min_le_right ..).trans hsouth.le, hnorth.le.trans (le_max_left ..)⟩,
      (min_le_right ..).trans hwest.le, heast.le.trans (le_max_left ..)⟩
  rw [hselects.unique harea] at hbox
  exact not_mem_area_of_between hwest heast hbox

/-- An envelope of ten degrees around the origin that contains a field is asked for by a box of its region. -/
theorem selects_within_of_origin :
    ∃ clause selected,
      (Translator.translate { schema := locations } ""
          (.spatial .contains "location" (objectOfInts (-10) 10 10 (-10)) false)).1 = .ok (some clause) ∧
        BoxSelects "location" clause.toValue selected ∧
        selected = (ofInts (-10) 10 10 (-10)).area :=
  have hfield : locations.indexType? (Path.under "" "location") = some "geo_point" := rfl
  have hlevel : ({ schema := locations } : Translator).enter.tooDeep = false := rfl
  have ⟨clause, selected, hclause, hselects, _, harea, _⟩ :=
    selects_within (.inr ⟨rfl, rfl⟩) hfield hlevel (isWritten_objectOfInts (-10) 10 10 (-10))
      (intCast_lt (by decide)).le
  ⟨clause, selected, hclause, hselects, harea (intCast_lt (by decide)).le⟩

end Envelope

end SearchTables
