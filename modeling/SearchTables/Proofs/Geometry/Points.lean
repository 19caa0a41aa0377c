import SearchTables.Proofs.Geometry.Region
import SearchTables.Proofs.Geometry.WktRendering
import SearchTables.Proofs.Text.Parts

/-! # Points — every encoding of a location is read alike

A location is written with two numerals: as members of an object, as a list, as a text with a comma, or as
well-known text. The object and the text with a comma give the latitude first, the list and the well-known
text the longitude (`Shape.Locates`). A numeral is the same number in all of them, since free text and
well-known text have the same plain numerals (`readFloat?_chars`). All of them are read as the same point
(`decodePoint_of_locates`). -/

namespace SearchTables

/-! ## Numerals in free text -/

section

variable (p : TextNumeral)

/-- A numeral holds no blanks. -/
theorem not_blank_of_mem_chars : ∀ c ∈ p.chars, Text.isBlank c = false := by
  intro c hc
  rw [Bool.eq_false_iff]
  intro hblank
  have hpart := Wkt.isNumeralPart_of_mem hc
  rw [Wkt.not_numeralPart_of_isBlank hblank] at hpart
  exact Bool.false_ne_true hpart

/-- A numeral has no blanks to trim. -/
theorem tight_chars : Text.Tight p.chars := by
  obtain ⟨c, cs, hchars, -⟩ := Wkt.exists_startsNumeral p
  refine .of_forall ?_ (not_blank_of_mem_chars p)
  rw [hchars]
  exact List.cons_ne_nil c cs

/-- The characters after the sign start with a digit or a point. -/
theorem exists_bodyChars : ∃ c cs, p.bodyChars = c :: cs ∧ Wkt.isLetter c = false := by
  -- without its sign a numeral is a numeral again
  let unsigned : TextNumeral := { p with sign := .none }
  obtain ⟨c, cs, hchars, hstart⟩ := Wkt.exists_startsNumeral unsigned
  exact ⟨c, cs, hchars, hstart.not_letter⟩

/-- What is no letter has no other case. -/
theorem toLower_toUpper_of_not_letter {c : Char} (h : Wkt.isLetter c = false) :
    c.toLower = c ∧ c.toUpper = c := by
  rw [Wkt.isLetter, Bool.or_eq_false_iff, Bool.and_eq_false_iff, Bool.and_eq_false_iff] at h
  simp only [decide_eq_false_iff_not] at h
  obtain ⟨hlower, hupper⟩ := h
  constructor
  · unfold Char.toLower
    rw [dif_neg]
    rintro ⟨hleast, hmost⟩
    exact hupper.elim (fun h => h hleast) fun h => h hmost
  · unfold Char.toUpper
    rw [dif_neg]
    rintro ⟨hleast, hmost⟩
    exact hlower.elim (fun h => h hleast) fun h => h hmost

/-- A numeral is no name of a value without digits. -/
theorem namedFloat?_bodyChars (negative : Bool) :
    namedFloat? negative (Text.lowerAscii (String.ofList p.bodyChars)) = none := by
  obtain ⟨c, cs, hbody, hletter⟩ := exists_bodyChars p
  have hfirst : ∀ (d : Char) (name : String), Wkt.isLetter d = true → name.toList.head? = some d →
      Text.lowerAscii (String.ofList p.bodyChars) ≠ name := by
    rintro d name hd hname rfl
    rw [Text.lowerAscii, String.toList_ofList, String.toList_ofList, hbody, List.map_cons,
      List.head?_cons, Option.some.injEq, (toLower_toUpper_of_not_letter hletter).1] at hname
    rw [hname, hd] at hletter
    exact Bool.false_ne_true hletter.symm
  have hinf := hfirst 'i' "inf" (by decide) (by decide)
  have hinfinity := hfirst 'i' "infinity" (by decide) (by decide)
  have hnan := hfirst 'n' "nan" (by decide) (by decide)
  simp [namedFloat?, hinf, hinfinity, hnan]

/-- A text without underscores has no separators to drop. -/
theorem dropSeparators?_of_not_mem {cs : List Char} (h : '_' ∉ cs) (before : Option Char) :
    dropSeparators? before cs = some cs := by
  induction cs generalizing before with
  | nil => simp [dropSeparators?]
  | cons c cs ih =>
      rw [List.mem_cons, not_or] at h
      rw [dropSeparators?, ih h.2]
      · rfl
      · exact Ne.symm h.1

/-- **A numeral of well-known text is the same number in free text.** -/
theorem readFloat?_chars : readFloat? (String.ofList p.chars) = some p.numeral.toFloat := by
  have hsplit : splitSign p.chars = (p.sign.negative, p.bodyChars) :=
    splitSign_append fun c hc => p.not_sign Wkt.not_digit [] c (by rwa [List.append_nil])
  have hunderscore : '_' ∉ p.bodyChars := by
    intro hmem
    have hpart := Wkt.isNumeralPart_of_mem (p := p) (List.mem_append_right _ hmem)
    exact absurd hpart (by decide)
  obtain ⟨n, left, htake, hleft, hn⟩ := takeNumeral_append Wkt.not_digit p []
  rw [List.append_nil] at htake
  obtain rfl := List.length_eq_zero_iff.1 (Nat.le_zero.1 hleft)
  rw [readFloat?, String.toList_ofList, Text.trimWhite_of_tight (tight_chars p), hsplit]
  dsimp only
  rw [namedFloat?_bodyChars, dropSeparators?_of_not_mem hunderscore]
  dsimp only
  rw [htake, hn rfl]

end

namespace Shape

/-! ## Encodings -/

/-- The tokens of a point in well-known text, after its keyword. -/
def pointTokens (longitude latitude : TextNumeral) : Wkt.Tokens :=
  [.sign '(', .number (String.ofList longitude.chars) longitude.numeral.toFloat,
    .number (String.ofList latitude.chars) latitude.numeral.toFloat, .sign ')']

/-- **The encodings of a location** by the numerals of its longitude and its latitude. -/
inductive Locates (longitude latitude : TextNumeral) : Value → Prop where
  /-- Members of an object, which has no type or no coordinates: otherwise it is GeoJSON. -/
  | object {members : List (String × Value)}
      (hlatitude : members.lookup "lat" = some (.str (String.ofList latitude.chars)))
      (hlongitude : members.lookup "lon" = some (.str (String.ofList longitude.chars)))
      (hother : members.lookup "type" = none ∨ members.lookup "coordinates" = none) :
      Locates longitude latitude (.object members)
  /-- A list, longitude first. What may come after both is not looked at. -/
  | list {more : List Value} : Locates longitude latitude
      (.list (.str (String.ofList longitude.chars) :: .str (String.ofList latitude.chars) :: more))
  /-- A text with a comma, latitude first, with blanks around both. -/
  | text {a b c d : List Char} (ha : ∀ x ∈ a, Text.isBlank x = true) (hb : ∀ x ∈ b, Text.isBlank x = true)
      (hc : ∀ x ∈ c, Text.isBlank x = true) (hd : ∀ x ∈ d, Text.isBlank x = true) :
      Locates longitude latitude
        (.str (String.ofList (a ++ (latitude.chars ++ b ++ ',' :: (c ++ longitude.chars)) ++ d)))
  /-- Well-known text, longitude first, with the keyword in any letter case and any spacing. -/
  | wellKnown {s word : String} (hword : Text.upperAscii word = "POINT")
      (hspaced : Wkt.Spaced s.toList (.word word :: pointTokens longitude latitude)) :
      Locates longitude latitude (.str s)

section

variable {longitude latitude : TextNumeral}

/-- The text of a numeral is a coordinate. -/
theorem coordinate?_chars (p : TextNumeral) :
    coordinate? (.str (String.ofList p.chars)) = .ok (some p.numeral.toFloat) := by
  rw [coordinate?, readFloat?_chars]

/-- A comma is no blank and stands in no numeral. -/
theorem not_mem_comma {p : TextNumeral} {blanks : List Char} (hblank : ∀ c ∈ blanks, Text.isBlank c = true) :
    ',' ∉ p.chars ++ blanks ∧ ',' ∉ blanks ++ p.chars := by
  have hchars : ',' ∉ p.chars := fun h => absurd (Wkt.isNumeralPart_of_mem h) (by decide)
  have hblanks : ',' ∉ blanks := fun h => absurd (hblank _ h) (by decide)
  simp [hchars, hblanks]

/-- What starts with a numeral does not start with the keyword of points. -/
theorem not_keyword_of_chars (p : TextNumeral) (rest : List Char) :
    Text.upperAscii (String.ofList ((p.chars ++ rest).take 5)) ≠ "POINT" := by
  obtain ⟨c, cs, hchars, hstart⟩ := Wkt.exists_startsNumeral p
  intro h
  have hfirst := congrArg (fun s => s.toList.head?) h
  simp only [hchars, Text.upperAscii, List.cons_append, List.take_succ_cons, String.toList_ofList,
    List.map_cons, List.head?_cons] at hfirst
  rw [(toLower_toUpper_of_not_letter hstart.not_letter).2] at hfirst
  have hnot := hstart.not_letter
  rw [Option.some.inj hfirst] at hnot
  exact absurd hnot (by decide)

/-- A text with a comma gives the latitude first. -/
theorem decodePointText_comma {a b c d : List Char} (ha : ∀ x ∈ a, Text.isBlank x = true)
    (hb : ∀ x ∈ b, Text.isBlank x = true) (hc : ∀ x ∈ c, Text.isBlank x = true)
    (hd : ∀ x ∈ d, Text.isBlank x = true) :
    decodePointText (String.ofList (a ++ (latitude.chars ++ b ++ ',' :: (c ++ longitude.chars)) ++ d)) =
      some (pointValue longitude.numeral.toFloat latitude.numeral.toFloat) := by
  -- a numeral stands at either end, so trimming takes just the outer blanks
  have htight : Text.Tight (latitude.chars ++ b ++ ',' :: (c ++ longitude.chars)) := by
    have h := (tight_chars latitude).append (b ++ ',' :: c) (tight_chars longitude)
    simpa using h
  have hkeyword := not_keyword_of_chars latitude (b ++ ',' :: (c ++ longitude.chars))
  rw [← List.append_assoc] at hkeyword
  have hparts : (String.ofList (latitude.chars ++ b ++ ',' :: (c ++ longitude.chars))).splitOn "," =
      [String.ofList (latitude.chars ++ b), String.ofList (c ++ longitude.chars)] := by
    have hcut := Text.splitOn_eq_cutAt
      (String.ofList (latitude.chars ++ b ++ ',' :: (c ++ longitude.chars))) ','
    rwa [String.toList_ofList, Text.cutAt_append (not_mem_comma hb).1,
      Text.cutAt_of_not_mem (not_mem_comma hc).2] at hcut
  have hlatitude : Text.trim (String.ofList (latitude.chars ++ b)) = String.ofList latitude.chars := by
    simpa using Text.trim_around (tight_chars latitude) (List.forall_mem_nil _) hb
  have hlongitude : Text.trim (String.ofList (c ++ longitude.chars)) = String.ofList longitude.chars := by
    simpa using Text.trim_around (tight_chars longitude) hc (List.forall_mem_nil _)
  unfold decodePointText
  rw [Text.trim_around htight ha hd]
  dsimp only
  rw [String.toList_ofList, if_neg hkeyword, hparts]
  dsimp only
  rw [hlatitude, hlongitude, readFloat?_chars, readFloat?_chars, pointOf]

/-- The tokens of a point in well-known text are those of the geometry. -/
theorem derives_pointTokens {word : String} (hword : Text.upperAscii word = "POINT") :
    Wkt.Derives (.point [longitude.numeral.toFloat, latitude.numeral.toFloat])
      (.word word :: pointTokens longitude latitude) := by
  have hcoordinate : Wkt.CoordinateTokens [longitude.numeral.toFloat, latitude.numeral.toFloat]
      [.number (String.ofList longitude.chars) longitude.numeral.toFloat,
        .number (String.ofList latitude.chars) latitude.numeral.toFloat] :=
    ⟨Nat.le_refl 2, .cons (.cons .nil)⟩
  exact .body (.plain hword) (List.mem_singleton_self _) (.point (.mk hcoordinate))

/-- Trimmed, the text of a point starts with its keyword. -/
theorem upperAscii_take_of_spaced {s word : String} {ts : Wkt.Tokens}
    (hword : Text.upperAscii word = "POINT") (h : Wkt.Spaced s.toList (.word word :: ts)) :
    Text.upperAscii (String.ofList ((Text.trim s).toList.take 5)) = "POINT" := by
  generalize hcs : s.toList = cs at h
  cases h with
  | @token blanks front rest _ _ hblank hspelled _ _ =>
      cases hspelled with
      | word hne hletters =>
          -- the letters of the keyword are no blanks, so trimming takes nothing of them
          have hnone : ∀ c ∈ front, Text.isBlank c = false := fun c hc =>
            Wkt.not_blank_of_isLetter (hletters c hc)
          have htight := Text.Tight.of_forall hne hnone
          have hlength : front.length = 5 := by
            have h := congrArg (fun s => s.toList.length) hword
            simpa [Text.upperAscii] using h
          obtain ⟨c, more, hfirst, hc⟩ := htight.first
          obtain ⟨before, d, hlast, hd⟩ := htight.last
          have hstart : Text.trimStartChars (blanks ++ (front ++ rest)) = front ++ rest := by
            rw [hfirst, List.cons_append]
            exact Text.trimStartChars_append hblank hc
          have hend : Text.trimEndChars (front ++ rest) = front ++ Text.trimEndChars rest := by
            rw [hlast]
            exact Text.trimEndChars_append_of_last hd rest
          have htake : (front ++ Text.trimEndChars rest).take 5 = front := by
            rw [← hlength, List.take_left]
          rw [Text.trim, hcs, hstart, hend, String.toList_ofList, htake, hword]

/-- Well-known text gives the longitude first. -/
theorem decodePointText_wellKnown {s word : String} (hword : Text.upperAscii word = "POINT")
    (hspaced : Wkt.Spaced s.toList (.word word :: pointTokens longitude latitude)) :
    decodePointText s = some (pointValue longitude.numeral.toFloat latitude.numeral.toFloat) := by
  have hlexes := Envelope.lexes_trim hspaced.lexes
  have hread : Wkt.read (Text.trim s) = .ok (.point [longitude.numeral.toFloat, latitude.numeral.toFloat]) :=
    Wkt.read_eq_ok_iff.2 ⟨_, hlexes, derives_pointTokens hword⟩
  unfold decodePointText
  dsimp only
  rw [if_pos (upperAscii_take_of_spaced hword hspaced), Wkt.read?, hread]
  rfl

/-- **Every encoding of a location is read as the same point**, longitude first. -/
theorem decodePoint_of_locates {v : Value} (h : Locates longitude latitude v) :
    decodePoint v = .ok (some (.object [("type", .str "Point"),
      ("coordinates", .list [.float longitude.numeral.toFloat, .float latitude.numeral.toFloat])])) := by
  cases h with
  | @object members hlatitude hlongitude hother =>
      have hplain : ((members.lookup "type").isSome && (members.lookup "coordinates").isSome) = false := by
        rcases hother with hother | hother
        · rw [hother, Option.isSome_none, Bool.false_and]
        · rw [hother, Option.isSome_none, Bool.and_false]
      simp only [decodePoint, hasMembers, Value.get?, hplain, hlatitude, hlongitude, Option.getD_some,
        coordinate?_chars]
      rfl
  | list =>
      simp only [decodePoint, coordinate?_chars]
      rfl
  | text ha hb hc hd =>
      rw [decodePoint, decodePointText_comma ha hb hc hd]
      rfl
  | wellKnown hword hspaced =>
      rw [decodePoint, decodePointText_wellKnown hword hspaced]
      rfl

/-- The numeral `-71.5`. -/
def westNumeral : TextNumeral :=
  ⟨.minus, ⟨['7', '1'], by simp; decide⟩, some ⟨['5'], by simp; decide⟩, none, .inl (by simp)⟩

/-- The numeral `0.42E+2`. -/
def northNumeral : TextNumeral :=
  ⟨.none, ⟨['0'], by simp; decide⟩, some ⟨['4', '2'], by simp; decide⟩,
    some ⟨true, .plus, ⟨['2'], by simp; decide⟩, by simp⟩, .inl (by simp)⟩

/-- An island by these numerals. -/
def islandPoint : Value :=
  .object [("type", .str "Point"),
    ("coordinates", .list [.float westNumeral.numeral.toFloat, .float northNumeral.numeral.toFloat])]

/-- The island in all four encodings. -/
theorem decodePoint_of_locates_island :
    (Locates westNumeral northNumeral (.object [("lat", .str "0.42E+2"), ("lon", .str "-71.5")]) ∧
      Locates westNumeral northNumeral (.list [.str "-71.5", .str "0.42E+2"]) ∧
      Locates westNumeral northNumeral (.str " 0.42E+2\t,-71.5 ") ∧
      Locates westNumeral northNumeral (.str "pOInt(-71.5  0.42E+2 )")) ∧
    decodePoint (.object [("lat", .str "0.42E+2"), ("lon", .str "-71.5")]) = .ok (some islandPoint) ∧
    decodePoint (.list [.str "-71.5", .str "0.42E+2"]) = .ok (some islandPoint) ∧
    decodePoint (.str " 0.42E+2\t,-71.5 ") = .ok (some islandPoint) ∧
    decodePoint (.str "pOInt(-71.5  0.42E+2 )") = .ok (some islandPoint) := by
  have hobject : Locates westNumeral northNumeral (.object [("lat", .str "0.42E+2"), ("lon", .str "-71.5")]) :=
    .object rfl rfl (.inl rfl)
  have hlist : Locates westNumeral northNumeral (.list [.str "-71.5", .str "0.42E+2"]) := .list
  have htext : Locates westNumeral northNumeral (.str " 0.42E+2\t,-71.5 ") :=
    .text (a := [' ']) (b := ['\t']) (c := []) (d := [' ']) (List.all_eq_true.1 rfl)
      (List.all_eq_true.1 rfl) (by simp) (List.all_eq_true.1 rfl)
  have hwellKnown : Locates westNumeral northNumeral (.str "pOInt(-71.5  0.42E+2 )") := by
    refine .wellKnown (by decide : Text.upperAscii "pOInt" = "POINT") ?_
    refine @Wkt.Spaced.token [] "pOInt".toList "(-71.5  0.42E+2 )".toList _ _ (by simp)
      (.word (by decide) (List.all_eq_true.1 rfl)) (.inr (by simp [Wkt.Apart]; decide)) (.sign rfl ?_)
    refine @Wkt.Spaced.token [] "-71.5".toList "  0.42E+2 )".toList _ _ (by simp)
      (.number westNumeral) (.inr (by simp [Wkt.Apart])) ?_
    refine @Wkt.Spaced.token [' ', ' '] "0.42E+2".toList " )".toList _ _ (List.all_eq_true.1 rfl)
      (.number northNumeral) (.inr (by simp [Wkt.Apart])) ?_
    exact @Wkt.Spaced.token [' '] [')'] [] _ _ (List.all_eq_true.1 rfl) (.sign rfl) (.inl ⟨_, rfl⟩)
      (.done (by simp))
  exact ⟨⟨hobject, hlist, htext, hwellKnown⟩, decodePoint_of_locates hobject, decodePoint_of_locates hlist,
    decodePoint_of_locates htext, decodePoint_of_locates hwellKnown⟩

end

end Shape

end SearchTables
