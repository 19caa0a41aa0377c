import SearchTables.Proofs.Geometry.WktGrammar

/-! # Rendered well-known text — what is written is read back

A **style** chooses the case of every letter of every keyword, the members of multipoints that stand in
parentheses, and the numeral of each number (`Style.tokens`). Any blanks may stand around the tokens, and
one must where two of them would run together (`Spaced`). `reads_exactly` is the result on reading as a
whole: the texts that are read, those that are refused, and that every rendering is read back. -/

namespace SearchTables.Wkt

/-! ## Spacing -/

/-- The characters of a token. -/
inductive Spelled : WktToken → List Char → Prop where
  | word {letters : List Char} (hne : letters ≠ []) (hletters : ∀ c ∈ letters, isLetter c = true) :
      Spelled (.word (String.ofList letters)) letters
  | number (p : TextNumeral) : Spelled (.number (String.ofList p.chars) p.numeral.toFloat) p.chars
  | sign {c : Char} (hsign : isSign c = true) : Spelled (.sign c) [c]

/-- Whether a word or a numeral may stand before a text, which starts with a blank or a sign or is empty. -/
def Apart (cs : List Char) : Prop := ∀ c, cs.head? = some c → Text.isBlank c = true ∨ isSign c = true

/-- Tokens that are written with blanks around them, no word or numeral touching another. -/
inductive Spaced : List Char → Tokens → Prop where
  | done {blanks : List Char} (hblank : ∀ c ∈ blanks, Text.isBlank c = true) : Spaced blanks []
  | token {blanks front rest : List Char} {t : WktToken} {ts : Tokens}
      (hblank : ∀ c ∈ blanks, Text.isBlank c = true) (hspelled : Spelled t front)
      (hapart : (∃ c, t = .sign c) ∨ Apart rest) (hrest : Spaced rest ts) :
      Spaced (blanks ++ (front ++ rest)) (t :: ts)

/-- A numeral that stands apart is the longest one. -/
theorem Apart.longest {rest : List Char} (h : Apart rest) (p : TextNumeral) : Longest p rest := by
  intro q hq
  rcases Nat.le_total q.chars.length p.chars.length with hle | hle
  · exact hle
  · obtain ⟨more, hmore⟩ := List.prefix_of_prefix_length_le (List.prefix_append ..) hq hle
    cases more with
    | nil => exact Nat.le_of_eq (by rw [← hmore, List.append_nil])
    | cons c more =>
        -- the longer numeral would hold the blank or the sign that comes next
        rw [← hmore, List.prefix_append_right_inj] at hq
        obtain ⟨after, rfl⟩ := hq
        have hpart : isNumeralPart c = true :=
          isNumeralPart_of_mem (p := q) (hmore ▸ List.mem_append_right _ (List.mem_cons_self ..))
        rcases h c rfl with hblank | hsign
        · rw [not_numeralPart_of_isBlank hblank] at hpart
          exact absurd hpart Bool.false_ne_true
        · rw [not_numeralPart_of_isSign hsign] at hpart
          exact absurd hpart Bool.false_ne_true

/-- A token that stands apart is the one at the start of the text. -/
theorem Spelled.begins {t : WktToken} {front rest : List Char} (h : Spelled t front)
    (hapart : (∃ c, t = .sign c) ∨ Apart rest) : Begins (front ++ rest) t rest := by
  cases h with
  | word hne hletters =>
      rcases hapart with ⟨c, hc⟩ | hapart
      · exact nomatch hc
      · refine .word hne hletters fun c hc => ?_
        rcases hapart c hc with hblank | hsign
        · exact not_letter_of_isBlank hblank
        · exact not_letter_of_isSign hsign
  | number p =>
      rcases hapart with ⟨c, hc⟩ | hapart
      · exact nomatch hc
      · exact .number p (hapart.longest p)
  | sign hsign => exact .sign hsign

/-- A sign may stand anywhere. -/
theorem Spaced.sign {c : Char} {cs : List Char} {ts : Tokens} (hsign : isSign c = true)
    (h : Spaced cs ts) : Spaced (c :: cs) (.sign c :: ts) :=
  @Spaced.token [] [c] cs _ _ (fun _ h => absurd h List.not_mem_nil) (.sign hsign) (.inl ⟨c, rfl⟩) h

/-- A spaced text has the tokens that it was written with. -/
theorem Spaced.lexes {cs : List Char} {ts : Tokens} (h : Spaced cs ts) : Lexes cs ts := by
  induction h with
  | done hblank => exact .done hblank
  | token hblank hspelled hapart _ ih => exact .token hblank (hspelled.begins hapart) ih

/-! ## Styles -/

/-- Where a part of a geometry stands: its number in each list that it is in, the outermost list first. -/
abbrev Place := List Nat

/-- How a geometry is written. -/
structure Style where
  /-- Whether a letter of the keyword at a place is a capital. -/
  capital : Place → Nat → Bool
  /-- Whether the member of a multipoint at a place stands in parentheses. -/
  enclosed : Place → Bool
  /-- The numeral of a number. It can be written only when the number is its value (`Spelled`). -/
  numeral : Float → TextNumeral

/-- Letters in upper case, with the case that is chosen for each. -/
def cased (capital : Nat → Bool) : List Char → List Char
  | [] => []
  | c :: cs => (if capital 0 then c else c.toLower) :: cased (fun i => capital (i + 1)) cs

section

variable {α : Type}

/-- The tokens of items from a given number on, with a comma before each but the first of all. -/
def itemsTokens (item : Place → α → Tokens) (place : Place) : Nat → List α → Tokens
  | _, [] => []
  | 0, x :: xs => item (place ++ [0]) x ++ itemsTokens item place 1 xs
  | i + 1, x :: xs => .sign ',' :: item (place ++ [i + 1]) x ++ itemsTokens item place (i + 2) xs

/-- The tokens of a list. -/
def listTokens (item : Place → α → Tokens) (place : Place) (xs : List α) : Tokens :=
  .sign '(' :: itemsTokens item place 0 xs ++ [.sign ')']

end

namespace Style

variable (style : Style)

/-- A keyword in the letter case of its place. -/
def keyword (place : Place) (name : String) : WktToken :=
  .word (String.ofList (cased (style.capital place) name.toList))

/-- The tokens of a number. -/
def number (x : Float) : WktToken := .number (String.ofList (style.numeral x).chars) x

/-- The tokens of a coordinate. -/
def coordinate (c : Coordinate) : Tokens := c.map style.number

/-- The tokens of a coordinate in parentheses. -/
def point (c : Coordinate) : Tokens := .sign '(' :: style.coordinate c ++ [.sign ')']

/-- The tokens of a member of a multipoint. -/
def pointMember (place : Place) (c : Coordinate) : Tokens :=
  if style.enclosed place then style.point c else style.coordinate c

/-- The tokens of a line. -/
def line : Place → List Coordinate → Tokens := listTokens fun _ => style.coordinate

/-- The tokens of several lines. -/
def lines : Place → List (List Coordinate) → Tokens := listTokens style.line

mutual

/-- The tokens of a geometry at a place. -/
def tokens (style : Style) : Place → Geometry → Tokens
  | place, .point c => style.keyword place "POINT" :: style.point c
  | place, .lineString line => style.keyword place "LINESTRING" :: style.line place line
  | place, .polygon rings => style.keyword place "POLYGON" :: style.lines place rings
  | place, .multiPoint points =>
      style.keyword place "MULTIPOINT" :: listTokens style.pointMember place points
  | place, .multiLineString lines => style.keyword place "MULTILINESTRING" :: style.lines place lines
  | place, .multiPolygon polygons =>
      style.keyword place "MULTIPOLYGON" :: listTokens style.lines place polygons
  | place, .collection members =>
      style.keyword place "GEOMETRYCOLLECTION" ::
        .sign '(' :: membersTokens style place 0 members ++ [.sign ')']
  | place, .envelope minX maxX maxY minY =>
      [style.keyword place "ENVELOPE", .sign '(', style.number minX, .sign ',', style.number maxX,
        .sign ',', style.number maxY, .sign ',', style.number minY, .sign ')']

/-- The tokens of the members of a collection, as those of any items. -/
def membersTokens (style : Style) (place : Place) : Nat → List Geometry → Tokens
  | _, [] => []
  | 0, g :: gs => tokens style (place ++ [0]) g ++ membersTokens style place 1 gs
  | i + 1, g :: gs =>
      .sign ',' :: tokens style (place ++ [i + 1]) g ++ membersTokens style place (i + 2) gs

end

end Style

/-! ## Proper geometries -/

/-- Whether a list is not empty and its members are as said. -/
def Filled {α : Type} (member : α → Prop) (xs : List α) : Prop := xs ≠ [] ∧ ∀ x ∈ xs, member x

/-- Whether a coordinate has two numbers or more. -/
def ProperCoordinate (c : Coordinate) : Prop := 2 ≤ c.length

/-- A geometry of one of the seven types without empty parts, however nested, or an envelope. -/
inductive Proper : Geometry → Prop where
  | point {c : Coordinate} (h : ProperCoordinate c) : Proper (.point c)
  | lineString {line : List Coordinate} (h : Filled ProperCoordinate line) : Proper (.lineString line)
  | polygon {rings : List (List Coordinate)} (h : Filled (Filled ProperCoordinate) rings) :
      Proper (.polygon rings)
  | multiPoint {points : List Coordinate} (h : Filled ProperCoordinate points) :
      Proper (.multiPoint points)
  | multiLineString {lines : List (List Coordinate)} (h : Filled (Filled ProperCoordinate) lines) :
      Proper (.multiLineString lines)
  | multiPolygon {polygons : List (List (List Coordinate))}
      (h : Filled (Filled (Filled ProperCoordinate)) polygons) : Proper (.multiPolygon polygons)
  | collection {members : List Geometry} (hne : members ≠ []) (h : ∀ g ∈ members, Proper g) :
      Proper (.collection members)
  | envelope {minX maxX maxY minY : Float} : Proper (.envelope minX maxX maxY minY)

/-! ## Renderings are derived -/

/-- The upper case of a keyword is the keyword, however its letters are cased. -/
theorem upperAscii_cased (capital : Nat → Bool) {letters : List Char}
    (h : ∀ c ∈ letters, c.toUpper = c ∧ c.toLower.toUpper = c) :
    Text.upperAscii (String.ofList (cased capital letters)) = String.ofList letters := by
  rw [Text.upperAscii, String.toList_ofList]
  congr 1
  induction letters generalizing capital with
  | nil => rfl
  | cons c cs ih =>
      rw [List.forall_mem_cons] at h
      rw [cased, List.map_cons, ih _ h.2]
      split
      · rw [h.1.1]
      · rw [h.1.2]

/-- The keywords are made of capitals. -/
theorem capitals_of_mem_keywords {name : String} {g : Geometry} (h : name ∈ keywords g) :
    ∀ c ∈ name.toList, c.toUpper = c ∧ c.toLower.toUpper = c := by
  have hnames : ∀ name ∈ keywords g,
      (name.toList.all fun c => c.toUpper = c ∧ c.toLower.toUpper = c) = true := by
    cases g
    all_goals
      simp only [keywords]
      decide
  simpa using hnames name h

section

variable {α : Type} {item : α → Tokens → Prop} {write : Place → α → Tokens} {place : Place}

/-- Written items are items. -/
theorem further_itemsTokens {xs : List α} (h : ∀ x ∈ xs, ∀ place, item x (write place x)) (i : Nat) :
    Further item xs (itemsTokens write place (i + 1) xs) := by
  induction xs generalizing i with
  | nil => exact .done
  | cons x xs ih =>
      rw [List.forall_mem_cons] at h
      exact .more (h.1 _) (ih h.2 (i + 1))

/-- A written list is a list. -/
theorem listed_listTokens {xs : List α} (h : Filled (fun x => ∀ place, item x (write place x)) xs) :
    Listed item xs (listTokens write place xs) := by
  obtain ⟨hne, h⟩ := h
  cases xs with
  | nil => exact absurd rfl hne
  | cons x xs =>
      rw [List.forall_mem_cons] at h
      exact .mk (h.1 _) (further_itemsTokens h.2 0)

/-- What holds of the members of one filled list holds of those of another. -/
theorem Filled.imp {P Q : α → Prop} {xs : List α} (h : Filled P xs) (himp : ∀ x, P x → Q x) :
    Filled Q xs :=
  ⟨h.1, fun x hx => himp x (h.2 x hx)⟩

end

namespace Style

variable {style : Style}

/-- Written numbers are numerals. -/
theorem numbers_coordinate (c : Coordinate) : Numbers c (style.coordinate c) := by
  induction c with
  | nil => exact .nil
  | cons x c ih => exact .cons ih

/-- A written coordinate is one. -/
theorem coordinateTokens (c : Coordinate) (h : ProperCoordinate c) :
    CoordinateTokens c (style.coordinate c) := ⟨h, numbers_coordinate c⟩

/-- A written member of a multipoint is one. -/
theorem memberTokens (c : Coordinate) (h : ProperCoordinate c) (place : Place) :
    MemberTokens c (style.pointMember place c) := by
  rw [pointMember]
  split
  · exact .enclosed (.mk (coordinateTokens c h))
  · exact .bare (coordinateTokens c h)

/-- A written line is one. -/
theorem lineTokens (line : List Coordinate) (h : Filled ProperCoordinate line) (place : Place) :
    LineTokens line (style.line place line) :=
  listed_listTokens (h.imp fun c hc _ => coordinateTokens c hc)

/-- Written lines are lines. -/
theorem linesTokens (lines : List (List Coordinate)) (h : Filled (Filled ProperCoordinate) lines)
    (place : Place) : LinesTokens lines (style.lines place lines) :=
  listed_listTokens (h.imp lineTokens)

/-- The members of a collection are written as any items are. -/
theorem membersTokens_eq (place : Place) (i : Nat) (gs : List Geometry) :
    style.membersTokens place i gs = itemsTokens style.tokens place i gs := by
  induction gs generalizing i with
  | nil => cases i <;> rfl
  | cons g gs ih => cases i <;> simp only [membersTokens, itemsTokens, ih]

/-- The keyword of a geometry in any letter case stands before its body. -/
theorem derives_of_body {name : String} {g : Geometry} {ts : Tokens} (hbody : Body Derives g ts)
    (hname : name ∈ keywords g) (place : Place) : Derives g (style.keyword place name :: ts) := by
  have hword : Text.upperAscii (String.ofList (cased (style.capital place) name.toList)) = name := by
    rw [upperAscii_cased _ (capitals_of_mem_keywords hname), String.ofList_toList]
  exact .body (.plain hword) hname hbody

/-- **The tokens of a proper geometry in any style are tokens of that geometry.** -/
theorem derives_tokens {g : Geometry} (h : Proper g) (place : Place) :
    Derives g (style.tokens place g) := by
  induction h generalizing place with
  | point h =>
      exact derives_of_body (.point (.mk (coordinateTokens _ h))) (List.mem_singleton_self _) place
  | lineString h =>
      exact derives_of_body (.lineString (lineTokens _ h place)) (List.mem_singleton_self _) place
  | polygon h =>
      exact derives_of_body (.polygon (linesTokens _ h place)) (List.mem_singleton_self _) place
  | multiPoint h =>
      exact derives_of_body (.multiPoint (listed_listTokens (h.imp memberTokens)))
        (List.mem_singleton_self _) place
  | multiLineString h =>
      exact derives_of_body (.multiLineString (linesTokens _ h place)) (List.mem_singleton_self _) place
  | multiPolygon h =>
      exact derives_of_body (.multiPolygon (listed_listTokens (h.imp linesTokens)))
        (List.mem_singleton_self _) place
  | collection hne _ ih =>
      have hmembers : Listed Derives _ (listTokens style.tokens place _) := listed_listTokens ⟨hne, ih⟩
      -- the members stand at places of their own, and are written there as any geometry is
      rw [tokens, membersTokens_eq]
      exact derives_of_body (.collection hmembers) (List.mem_singleton_self _) place
  | envelope =>
      exact derives_of_body .envelope (List.mem_cons_of_mem _ (List.mem_singleton_self _)) place

end Style

/-! ## Reading -/

/-- **Exactly the grammar is read.** A text is read as a geometry when its tokens are those of the
geometry, a text whose tokens are of no geometry is refused, and a proper geometry, rendered in any style
and with any blanks, is read back. -/
theorem reads_exactly :
    (∀ (s : String) (g : Geometry), read s = .ok g ↔ ∃ ts, Lexes s.toList ts ∧ Derives g ts) ∧
    (∀ s : String, (∀ g ts, Lexes s.toList ts → ¬Derives g ts) → ∃ fault, read s = .error fault) ∧
    ∀ (style : Style) (g : Geometry) (s : String), Proper g → Spaced s.toList (style.tokens [] g) →
      read s = .ok g := by
  refine ⟨fun s g => read_eq_ok_iff, fun s hnone => ?_, fun style g s hproper hspaced => ?_⟩
  · cases hread : read s with
    | error fault => exact ⟨fault, rfl⟩
    | ok g =>
        obtain ⟨ts, hts, hderives⟩ := read_eq_ok_iff.1 hread
        exact absurd hderives (hnone g ts hts)
  · exact read_eq_ok_iff.2 ⟨_, hspaced.lexes, Style.derives_tokens hproper []⟩

/-- The numeral of one. -/
def oneNumeral : TextNumeral := ⟨.none, ⟨['1'], by simp; decide⟩, none, none, .inl (by simp)⟩

/-- A style of all capitals outside and one capital inside, the members of multipoints in parentheses. -/
def mixedStyle : Style where
  capital place i := place.isEmpty || i == 0
  enclosed _ := true
  numeral _ := oneNumeral

/-- A multipoint in a collection. -/
def nestedPoint : Geometry :=
  .collection [.multiPoint [[oneNumeral.numeral.toFloat, oneNumeral.numeral.toFloat]]]

/-- A multipoint in a collection, in mixed letter case, is read back; a blank text is refused. -/
theorem reads_exactly_mixed_case :
    (∃ fault, read " " = .error fault) ∧ Proper nestedPoint ∧
      Spaced "GEOMETRYCOLLECTION(Multipoint\t((1 1)))".toList (mixedStyle.tokens [] nestedPoint) ∧
      read "GEOMETRYCOLLECTION(Multipoint\t((1 1)))" = .ok nestedPoint := by
  -- a blank text has no tokens, and every geometry has some
  have hblank : ∀ g ts, Lexes " ".toList ts → ¬Derives g ts := by
    intro g ts hts hderives
    have hnil : ts = [] := (lexes_blanks_iff (by simp)).1 hts
    cases hderives with
    | empty hhead => cases hhead <;> simp at hnil
    | body hhead => cases hhead <;> simp at hnil
  have hproper : Proper nestedPoint := by
    refine .collection (List.cons_ne_nil _ _) fun g hg => ?_
    obtain rfl := List.mem_singleton.1 hg
    refine .multiPoint ⟨List.cons_ne_nil _ _, fun c hc => ?_⟩
    obtain rfl := List.mem_singleton.1 hc
    exact Nat.le_refl 2
  have hspaced : Spaced "GEOMETRYCOLLECTION(Multipoint\t((1 1)))".toList
      (mixedStyle.tokens [] nestedPoint) := by
    refine @Spaced.token [] "GEOMETRYCOLLECTION".toList "(Multipoint\t((1 1)))".toList _ _ (by simp)
      (.word (by decide) (List.all_eq_true.1 rfl)) (.inr (by simp [Apart]; decide)) (.sign rfl ?_)
    refine @Spaced.token [] "Multipoint".toList "\t((1 1)))".toList _ _ (by simp)
      (.word (by decide) (List.all_eq_true.1 rfl)) (.inr (by simp [Apart]; decide)) ?_
    refine @Spaced.token ['\t'] ['('] "(1 1)))".toList _ _ (List.all_eq_true.1 rfl) (.sign rfl)
      (.inl ⟨_, rfl⟩) (.sign rfl ?_)
    refine @Spaced.token [] ['1'] " 1)))".toList _ _ (by simp) (.number oneNumeral)
      (.inr (by simp [Apart])) ?_
    refine @Spaced.token [' '] ['1'] ")))".toList _ _ (List.all_eq_true.1 rfl) (.number oneNumeral)
      (.inr (by simp [Apart]; decide)) ?_
    exact .sign rfl (.sign rfl (.sign rfl (.done (by simp))))
  exact ⟨reads_exactly.2.1 " " hblank, hproper, hspaced,
    reads_exactly.2.2 mixedStyle nestedPoint _ hproper hspaced⟩

end SearchTables.Wkt
