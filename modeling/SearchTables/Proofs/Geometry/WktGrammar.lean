import SearchTables.Geometry.Wkt
import SearchTables.Proofs.Geometry.WktLexing

/-! # Grammar of well-known text — the tokens of each geometry

`Derives` says which tokens are those of a geometry: a keyword, an optional dimension mark, and the word
for emptiness or a body. A reading function is **exact** for a phrase of the grammar (`Reads`) when it
takes the tokens that the phrase has at the start of what is left, and nothing else. Reading is exact for
every phrase, and from this `read_eq_ok_iff` says which texts are read, and as which geometries. -/

namespace SearchTables.Wkt

/-! ## The grammar -/

section

variable {α : Type}

/-- Numerals one after the other, for these numbers. -/
inductive Numbers : List Float → Tokens → Prop where
  | nil : Numbers [] []
  | cons {text : String} {x : Float} {xs : List Float} {ts : Tokens} (hrest : Numbers xs ts) :
      Numbers (x :: xs) (.number text x :: ts)

/-- Two numerals or more. -/
def CoordinateTokens (c : Coordinate) (ts : Tokens) : Prop := 2 ≤ c.length ∧ Numbers c ts

/-- Any number of items, with a comma before each. -/
inductive Further (item : α → Tokens → Prop) : List α → Tokens → Prop where
  | done : Further item [] []
  | more {x : α} {xs : List α} {ts us : Tokens} (hitem : item x ts) (hrest : Further item xs us) :
      Further item (x :: xs) (.sign ',' :: ts ++ us)

/-- One item or more in parentheses, with a comma between two of them. -/
inductive Listed (item : α → Tokens → Prop) : List α → Tokens → Prop where
  | mk {x : α} {xs : List α} {ts us : Tokens} (hitem : item x ts) (hrest : Further item xs us) :
      Listed item (x :: xs) (.sign '(' :: ts ++ us ++ [.sign ')'])

end

/-- A list of coordinates. -/
abbrev LineTokens : List Coordinate → Tokens → Prop := Listed CoordinateTokens

/-- A list of lines. -/
abbrev LinesTokens : List (List Coordinate) → Tokens → Prop := Listed LineTokens

/-- A coordinate in parentheses. -/
inductive PointTokens (c : Coordinate) : Tokens → Prop where
  | mk {ts : Tokens} (hc : CoordinateTokens c ts) : PointTokens c (.sign '(' :: ts ++ [.sign ')'])

/-- A coordinate with or without parentheses around it. -/
inductive MemberTokens (c : Coordinate) : Tokens → Prop where
  | bare {ts : Tokens} (hc : CoordinateTokens c ts) : MemberTokens c ts
  | enclosed {ts : Tokens} (hc : PointTokens c ts) : MemberTokens c ts

/-- A word that is a given keyword in some letter case, and a dimension mark or none. -/
inductive Head (name : String) : Tokens → Prop where
  | plain {word : String} (hword : Text.upperAscii word = name) : Head name [.word word]
  | marked {word mark : String} (hword : Text.upperAscii word = name)
      (hmark : Text.upperAscii mark ∈ ["Z", "M", "ZM"]) : Head name [.word word, .word mark]

/-- The keywords of a geometry, in upper case. -/
def keywords : Geometry → List String
  | .point _ => ["POINT"]
  | .lineString _ => ["LINESTRING"]
  | .polygon _ => ["POLYGON"]
  | .multiPoint _ => ["MULTIPOINT"]
  | .multiLineString _ => ["MULTILINESTRING"]
  | .multiPolygon _ => ["MULTIPOLYGON"]
  | .collection _ => ["GEOMETRYCOLLECTION"]
  | .envelope .. => ["BBOX", "ENVELOPE"]

/-- The geometries that the word for emptiness writes. There is no empty envelope. -/
def emptyGeometries : List Geometry :=
  [.point [], .lineString [], .polygon [], .multiPoint [], .multiLineString [], .multiPolygon [],
    .collection []]

/-- What stands after the keyword of a geometry that is not written as empty. -/
inductive Body (member : Geometry → Tokens → Prop) : Geometry → Tokens → Prop where
  | point {c : Coordinate} {ts : Tokens} (h : PointTokens c ts) : Body member (.point c) ts
  | lineString {line : List Coordinate} {ts : Tokens} (h : LineTokens line ts) :
      Body member (.lineString line) ts
  | polygon {rings : List (List Coordinate)} {ts : Tokens} (h : LinesTokens rings ts) :
      Body member (.polygon rings) ts
  | multiPoint {points : List Coordinate} {ts : Tokens} (h : Listed MemberTokens points ts) :
      Body member (.multiPoint points) ts
  | multiLineString {lines : List (List Coordinate)} {ts : Tokens} (h : LinesTokens lines ts) :
      Body member (.multiLineString lines) ts
  | multiPolygon {polygons : List (List (List Coordinate))} {ts : Tokens}
      (h : Listed LinesTokens polygons ts) : Body member (.multiPolygon polygons) ts
  | collection {members : List Geometry} {ts : Tokens} (h : Listed member members ts) :
      Body member (.collection members) ts
  /-- Least and greatest longitude, greatest and least latitude. -/
  | envelope {a b c d : String} {minX maxX maxY minY : Float} :
      Body member (.envelope minX maxX maxY minY)
        [.sign '(', .number a minX, .sign ',', .number b maxX, .sign ',', .number c maxY, .sign ',',
          .number d minY, .sign ')']

/-- **The tokens of a geometry**: its keyword, then the word for emptiness or a body. -/
inductive Derives : Geometry → Tokens → Prop where
  | empty {name word : String} {g : Geometry} {head : Tokens} (hhead : Head name head)
      (hname : name ∈ keywords g) (hempty : g ∈ emptyGeometries)
      (hword : Text.upperAscii word = "EMPTY") : Derives g (head ++ [.word word])
  | body {name : String} {g : Geometry} {head ts : Tokens} (hhead : Head name head)
      (hname : name ∈ keywords g) (hbody : Body Derives g ts) : Derives g (head ++ ts)

/-! ## Single tokens -/

/-- A sign is taken where it stands. -/
theorem expectSign_eq_ok_iff {c : Char} {ts rest : Tokens} :
    expectSign c ts = .ok rest ↔ ts = .sign c :: rest := by
  cases ts with
  | nil => simp [expectSign]
  | cons t ts =>
      cases t with
      | word => simp [expectSign]
      | number => simp [expectSign]
      | sign d =>
          rw [expectSign]
          by_cases h : d = c
          · rw [if_pos h, Except.ok.injEq, h, List.cons.injEq, eq_self, true_and]
          · simp [h]

/-- A number is taken where its numeral stands. -/
theorem number_eq_ok_iff {x : Float} {ts rest : Tokens} :
    number ts = .ok (x, rest) ↔ ∃ text, ts = .number text x :: rest := by
  cases ts with
  | nil => simp [number]
  | cons t ts => cases t <;> simp [number]

/-- Whether no numeral stands at the start of tokens. -/
def NoNumber (ts : Tokens) : Prop := ∀ text x rest, ts ≠ .number text x :: rest

/-- A sign is no numeral. -/
theorem noNumber_sign {c : Char} (rest : Tokens) : NoNumber (.sign c :: rest) :=
  fun _ _ _ h => WktToken.noConfusion (List.cons.inj h).1

/-- Numbers are taken up to the first token that is none. -/
theorem numbers_eq_iff {xs : List Float} {ts rest : Tokens} :
    numbers ts = (xs, rest) ↔ ∃ us, ts = us ++ rest ∧ Numbers xs us ∧ NoNumber rest := by
  constructor
  · intro h
    induction ts generalizing xs with
    | nil =>
        obtain ⟨rfl, rfl⟩ := Prod.mk.inj h
        exact ⟨[], rfl, .nil, fun _ _ _ h => List.cons_ne_nil _ _ h.symm⟩
    | cons t ts ih =>
        unfold numbers at h
        split at h
        · rename_i text x more heq
          obtain ⟨rfl, rfl⟩ := List.cons.inj heq
          rcases hmore : numbers ts with ⟨ys, left⟩
          rw [hmore] at h
          obtain ⟨rfl, rfl⟩ := Prod.mk.inj h
          obtain ⟨us, rfl, hnumbers, hend⟩ := ih hmore
          exact ⟨.number text x :: us, rfl, .cons hnumbers, hend⟩
        · rename_i hnone
          obtain ⟨rfl, rfl⟩ := Prod.mk.inj h
          exact ⟨[], rfl, .nil, hnone⟩
  · rintro ⟨us, rfl, hnumbers, hend⟩
    induction hnumbers with
    | nil => exact numbers.eq_2 _ hend
    | cons _ ih => rw [List.cons_append, numbers, ih]

/-! ## Exact reading -/

section

variable {α : Type} {n : Nat} {p item : Tokens → Except WktFault (α × Tokens)}
  {phrase : α → Tokens → Prop} {ends : Tokens → Prop}

/-- Reading takes a phrase exactly: what it takes is the phrase, and it takes the phrase where that
stands, unless something comes after that may not follow it. The second is so for fewer tokens than a
given number. -/
structure Reads (n : Nat) (p : Tokens → Except WktFault (α × Tokens)) (phrase : α → Tokens → Prop)
    (ends : Tokens → Prop) : Prop where
  sound {ts : Tokens} {x : α} {rest : Tokens} (h : p ts = .ok (x, rest)) :
    ∃ us, ts = us ++ rest ∧ phrase x us
  complete {us : Tokens} {x : α} {rest : Tokens} (hphrase : phrase x us) (hend : ends rest)
    (hlength : (us ++ rest).length < n) : p (us ++ rest) = .ok (x, rest)

/-- Anything may follow. -/
abbrev Anything : Tokens → Prop := fun _ => True

/-- Coordinates are read exactly; no numeral may follow one. -/
theorem reads_coordinate : Reads n coordinate CoordinateTokens NoNumber where
  sound {ts c rest} h := by
    simp only [coordinate, bind_eq_ok, Prod.exists, number_eq_ok_iff, pure_eq_ok, Prod.mk.injEq] at h
    obtain ⟨x, _, ⟨a, rfl⟩, y, left, ⟨b, rfl⟩, rfl, hleft⟩ := h
    obtain ⟨us, rfl, hnumbers, -⟩ := numbers_eq_iff.1 (Prod.ext rfl hleft : numbers left = (_, rest))
    exact ⟨.number a x :: .number b y :: us, rfl, by simp, .cons (.cons hnumbers)⟩
  complete {us c rest} hphrase hend _ := by
    obtain ⟨htwo, hnumbers⟩ := hphrase
    cases hnumbers with
    | nil => exact absurd htwo (by simp)
    | @cons a x _ _ hnumbers =>
        cases hnumbers with
        | nil => exact absurd htwo (by simp)
        | @cons b y xs us hnumbers =>
            simp only [coordinate, bind_eq_ok, Prod.exists, number_eq_ok_iff, pure_eq_ok, Prod.mk.injEq]
            have hmore := numbers_eq_iff.2 ⟨us, rfl, hnumbers, hend⟩
            refine ⟨x, .number b y :: (us ++ rest), ⟨a, rfl⟩, y, us ++ rest, ⟨b, rfl⟩, ?_⟩
            rw [hmore]
            exact ⟨rfl, rfl⟩

/-- The body of a point is read exactly. -/
theorem reads_pointBody : Reads n pointBody PointTokens Anything where
  sound {ts c rest} h := by
    simp only [pointBody, bind_eq_ok, Prod.exists, expectSign_eq_ok_iff, pure_eq_ok, Prod.mk.injEq] at h
    obtain ⟨_, rfl, c, _, hc, rest, rfl, rfl, rfl⟩ := h
    obtain ⟨us, rfl, hcoordinate⟩ := (reads_coordinate (n := 0)).sound hc
    exact ⟨.sign '(' :: us ++ [.sign ')'], by simp, .mk hcoordinate⟩
  complete {us c rest} hphrase _ _ := by
    obtain @⟨ts, hcoordinate⟩ := hphrase
    -- the closing parenthesis ends the numbers
    have hc : coordinate (ts ++ .sign ')' :: rest) = .ok (c, .sign ')' :: rest) :=
      reads_coordinate.complete hcoordinate (noNumber_sign rest) (Nat.lt_succ_self _)
    simp only [pointBody, bind_eq_ok, Prod.exists, expectSign_eq_ok_iff, pure_eq_ok, Prod.mk.injEq]
    exact ⟨ts ++ .sign ')' :: rest, by simp, c, _, hc, rest, rfl, rfl, rfl⟩

/-- A coordinate does not start with a sign. -/
theorem CoordinateTokens.ne_sign {c : Coordinate} {us rest : Tokens} (h : CoordinateTokens c us)
    (sign : Char) (more : Tokens) : us ++ rest ≠ .sign sign :: more := by
  obtain ⟨htwo, hnumbers⟩ := h
  cases hnumbers with
  | nil => exact absurd htwo (by simp)
  | cons => exact fun h => WktToken.noConfusion (List.cons.inj h).1

/-- Members of a multipoint are read exactly; no numeral may follow one. -/
theorem reads_pointMember : Reads n pointMember MemberTokens NoNumber where
  sound {ts c rest} h := by
    unfold pointMember at h
    split at h
    · rename_i ts
      -- after an opening parenthesis a member is read as the body of a point is
      have hbody : pointBody (.sign '(' :: ts) = .ok (c, rest) := h
      obtain ⟨us, hts, hpoint⟩ := (reads_pointBody (n := 0)).sound hbody
      exact ⟨us, hts, .enclosed hpoint⟩
    · obtain ⟨us, hts, hcoordinate⟩ := (reads_coordinate (n := 0)).sound h
      exact ⟨us, hts, .bare hcoordinate⟩
  complete {us c rest} hphrase hend hlength := by
    cases hphrase with
    | bare hcoordinate =>
        rw [pointMember.eq_2]
        · exact reads_coordinate.complete hcoordinate hend hlength
        · exact hcoordinate.ne_sign '('
    | enclosed hpoint =>
        have hbody := reads_pointBody.complete hpoint trivial hlength
        cases hpoint
        exact hbody

/-! ## Lists -/

/-- What may come before a comma or a closing parenthesis may come before further items. -/
theorem Further.followed (hcomma : ∀ rest, ends (.sign ',' :: rest))
    (hclose : ∀ rest, ends (.sign ')' :: rest)) {xs : List α} {us : Tokens} (h : Further phrase xs us)
    (rest : Tokens) : ends (us ++ .sign ')' :: rest) := by
  cases h with
  | done => exact hclose rest
  | more => exact hcomma _

/-- What is taken after the first item are further items and a closing parenthesis. -/
theorem moreItems_sound (hitem : Reads n item phrase ends) {steps : Nat} {ts rest : Tokens} {xs : List α}
    (h : moreItems item steps ts = .ok (xs, rest)) :
    ∃ us, ts = us ++ .sign ')' :: rest ∧ Further phrase xs us := by
  induction steps generalizing ts xs with
  | zero => exact absurd h (by simp [moreItems])
  | succ steps ih =>
      unfold moreItems at h
      split at h
      · rename_i ts
        simp only [bind_eq_ok, Prod.exists, pure_eq_ok, Prod.mk.injEq] at h
        obtain ⟨x, _, hx, xs, _, hxs, rfl, rfl⟩ := h
        obtain ⟨us, rfl, hphrase⟩ := hitem.sound hx
        obtain ⟨vs, rfl, hfurther⟩ := ih hxs
        exact ⟨.sign ',' :: us ++ vs, by simp, .more hphrase hfurther⟩
      · simp only [bind_eq_ok, expectSign_eq_ok_iff, pure_eq_ok, Prod.mk.injEq] at h
        obtain ⟨_, rfl, rfl, rfl⟩ := h
        exact ⟨[], rfl, .done⟩

/-- Further items are taken when there are steps enough. -/
theorem moreItems_complete (hitem : Reads n item phrase ends)
    (hcomma : ∀ rest, ends (.sign ',' :: rest)) (hclose : ∀ rest, ends (.sign ')' :: rest))
    {steps : Nat} {us rest : Tokens} {xs : List α} (h : Further phrase xs us)
    (hlength : (us ++ .sign ')' :: rest).length ≤ n)
    (hsteps : (us ++ .sign ')' :: rest).length < steps) :
    moreItems item steps (us ++ .sign ')' :: rest) = .ok (xs, rest) := by
  -- every further item has a comma before it, so there are fewer items than tokens
  induction h generalizing steps with
  | done =>
      obtain ⟨steps, rfl⟩ := Nat.exists_eq_succ_of_ne_zero (Nat.ne_zero_of_lt hsteps)
      rfl
  | @more x xs us vs hphrase hrest ih =>
      obtain ⟨steps, rfl⟩ := Nat.exists_eq_succ_of_ne_zero (Nat.ne_zero_of_lt hsteps)
      simp only [List.cons_append, List.append_assoc, List.length_cons, List.length_append]
        at hlength hsteps ih
      have hx := hitem.complete hphrase (hrest.followed hcomma hclose rest) (by simp; omega)
      have hxs : moreItems item steps (vs ++ .sign ')' :: rest) = .ok (xs, rest) :=
        ih (by omega) (by omega)
      simp only [List.cons_append, List.append_assoc, moreItems, bind_eq_ok, Prod.exists, pure_eq_ok,
        Prod.mk.injEq]
      exact ⟨x, _, hx, xs, _, hxs, rfl, rfl⟩

/-- **Lists are read exactly** when their items are. -/
theorem reads_listOf (hitem : Reads n item phrase ends)
    (hcomma : ∀ rest, ends (.sign ',' :: rest)) (hclose : ∀ rest, ends (.sign ')' :: rest)) :
    Reads (n + 1) (listOf item) (Listed phrase) Anything where
  sound {ts xs rest} h := by
    simp only [listOf, bind_eq_ok, Prod.exists, expectSign_eq_ok_iff, pure_eq_ok, Prod.mk.injEq] at h
    obtain ⟨_, rfl, x, _, hx, xs, rest, hxs, rfl, rfl⟩ := h
    obtain ⟨us, rfl, hphrase⟩ := hitem.sound hx
    obtain ⟨vs, rfl, hfurther⟩ := moreItems_sound hitem hxs
    exact ⟨.sign '(' :: us ++ vs ++ [.sign ')'], by simp, .mk hphrase hfurther⟩
  complete {us xs rest} hphrase _ hlength := by
    obtain @⟨x, xs, us, vs, hphrase, hrest⟩ := hphrase
    simp only [List.append_assoc, List.cons_append, List.nil_append, List.length_cons,
      List.length_append] at hlength ⊢
    have hx := hitem.complete hphrase (hrest.followed hcomma hclose rest) (by simp; omega)
    have hxs : moreItems item ((vs ++ .sign ')' :: rest).length + 1) (vs ++ .sign ')' :: rest) =
        .ok (xs, rest) :=
      moreItems_complete hitem hcomma hclose hrest (by simp; omega) (Nat.lt_succ_self _)
    simp only [listOf, bind_eq_ok, Prod.exists, expectSign_eq_ok_iff, pure_eq_ok, Prod.mk.injEq]
    exact ⟨_, rfl, x, _, hx, xs, rest, hxs, rfl, rfl⟩

/-- Reading is exact for more tokens only when it is for fewer. -/
theorem Reads.of_le {m : Nat} (h : Reads m p phrase ends) (hle : n ≤ m) : Reads n p phrase ends where
  sound := h.sound
  complete hphrase hend hlength := h.complete hphrase hend (Nat.lt_of_lt_of_le hlength hle)

/-- Lines are read exactly. -/
theorem reads_line : Reads n line LineTokens Anything :=
  (reads_listOf reads_coordinate noNumber_sign noNumber_sign).of_le (Nat.le_succ n)

/-- Lists of lines are read exactly. -/
theorem reads_lines : Reads n lines LinesTokens Anything :=
  (reads_listOf reads_line (fun _ => trivial) fun _ => trivial).of_le (Nat.le_succ n)

/-- Reading a part of a geometry is exact for the geometries with such a part. -/
theorem Reads.map (hp : Reads n p phrase Anything) (f : α → Geometry) :
    Reads n (fun ts => do let (x, left) ← p ts; pure (f x, left))
      (fun g us => ∃ x, f x = g ∧ phrase x us) Anything where
  sound {ts g rest} h := by
    simp only [bind_eq_ok, Prod.exists, pure_eq_ok, Prod.mk.injEq] at h
    obtain ⟨x, _, hx, rfl, rfl⟩ := h
    obtain ⟨us, hts, hphrase⟩ := hp.sound hx
    exact ⟨us, hts, x, rfl, hphrase⟩
  complete {us g rest} hphrase hend hlength := by
    obtain ⟨x, rfl, hphrase⟩ := hphrase
    simp only [bind_eq_ok, Prod.exists, pure_eq_ok, Prod.mk.injEq]
    exact ⟨x, rest, hp.complete hphrase hend hlength, rfl, rfl⟩

end

/-! ## Bodies -/

section

variable {n : Nat} {member : Tokens → Except WktFault (Geometry × Tokens)}
  {phrase : Geometry → Tokens → Prop}

/-- What is taken as an envelope is the body of one. -/
theorem envelopeBody_sound {name : String} (hname : name = "BBOX" ∨ name = "ENVELOPE") {ts rest : Tokens}
    {g : Geometry} (h : envelopeBody ts = .ok (g, rest)) :
    ∃ us, ts = us ++ rest ∧ name ∈ keywords g ∧ Body phrase g us := by
  simp only [envelopeBody, bind_eq_ok, Prod.exists, expectSign_eq_ok_iff, number_eq_ok_iff, pure_eq_ok,
    Prod.mk.injEq] at h
  obtain ⟨_, rfl, minX, _, ⟨a, rfl⟩, _, rfl, maxX, _, ⟨b, rfl⟩, _, rfl, maxY, _, ⟨c, rfl⟩, _, rfl,
    minY, _, ⟨d, rfl⟩, _, rfl, rfl, rfl⟩ := h
  exact ⟨_, rfl, by simpa [keywords] using hname, .envelope⟩

/-- **Bodies are read exactly** when the members of collections are. -/
theorem reads_body (hmember : Reads n member phrase Anything) (word : String) :
    Reads (n + 1) (body member word)
      (fun g us => Text.upperAscii word ∈ keywords g ∧ Body phrase g us) Anything := by
  have hpoints : Reads (n + 1) (listOf pointMember) (Listed MemberTokens) Anything :=
    reads_listOf reads_pointMember noNumber_sign noNumber_sign
  have hpolygons : Reads (n + 1) (listOf lines) (Listed LinesTokens) Anything :=
    reads_listOf reads_lines (fun _ => trivial) fun _ => trivial
  have hmembers : Reads (n + 1) (listOf member) (Listed phrase) Anything :=
    reads_listOf hmember (fun _ => trivial) fun _ => trivial
  constructor
  case sound =>
    intro ts g rest h
    rw [body] at h
    split at h
    case isTrue hname =>
      obtain ⟨us, hts, c, rfl, hbody⟩ := ((reads_pointBody (n := n)).map .point).sound h
      exact ⟨us, hts, List.mem_singleton.2 hname, .point hbody⟩
    split at h
    case isTrue hname =>
      obtain ⟨us, hts, line, rfl, hbody⟩ := ((reads_line (n := n)).map .lineString).sound h
      exact ⟨us, hts, List.mem_singleton.2 hname, .lineString hbody⟩
    split at h
    case isTrue hname =>
      obtain ⟨us, hts, rings, rfl, hbody⟩ := ((reads_lines (n := n)).map .polygon).sound h
      exact ⟨us, hts, List.mem_singleton.2 hname, .polygon hbody⟩
    split at h
    case isTrue hname =>
      obtain ⟨us, hts, points, rfl, hbody⟩ := (hpoints.map .multiPoint).sound h
      exact ⟨us, hts, List.mem_singleton.2 hname, .multiPoint hbody⟩
    split at h
    case isTrue hname =>
      obtain ⟨us, hts, ls, rfl, hbody⟩ := ((reads_lines (n := n)).map .multiLineString).sound h
      exact ⟨us, hts, List.mem_singleton.2 hname, .multiLineString hbody⟩
    split at h
    case isTrue hname =>
      obtain ⟨us, hts, polygons, rfl, hbody⟩ := (hpolygons.map .multiPolygon).sound h
      exact ⟨us, hts, List.mem_singleton.2 hname, .multiPolygon hbody⟩
    split at h
    case isTrue hname =>
      obtain ⟨us, hts, members, rfl, hbody⟩ := (hmembers.map .collection).sound h
      exact ⟨us, hts, List.mem_singleton.2 hname, .collection hbody⟩
    split at h
    case isTrue hname => exact envelopeBody_sound hname h
    exact nomatch h
  case complete =>
    -- the geometry has the keyword that its reading function is chosen by
    rintro us g rest ⟨hname, hbody⟩ hend hlength
    cases hbody with
    | point hbody =>
        simp only [body, List.mem_singleton.1 hname, reduceIte]
        exact (reads_pointBody.map .point).complete ⟨_, rfl, hbody⟩ hend hlength
    | lineString hbody =>
        simp only [body, List.mem_singleton.1 hname, reduceIte, String.reduceEq]
        exact (reads_line.map .lineString).complete ⟨_, rfl, hbody⟩ hend hlength
    | polygon hbody =>
        simp only [body, List.mem_singleton.1 hname, reduceIte, String.reduceEq]
        exact (reads_lines.map .polygon).complete ⟨_, rfl, hbody⟩ hend hlength
    | multiPoint hbody =>
        simp only [body, List.mem_singleton.1 hname, reduceIte, String.reduceEq]
        exact (hpoints.map .multiPoint).complete ⟨_, rfl, hbody⟩ hend hlength
    | multiLineString hbody =>
        simp only [body, List.mem_singleton.1 hname, reduceIte, String.reduceEq]
        exact (reads_lines.map .multiLineString).complete ⟨_, rfl, hbody⟩ hend hlength
    | multiPolygon hbody =>
        simp only [body, List.mem_singleton.1 hname, reduceIte, String.reduceEq]
        exact (hpolygons.map .multiPolygon).complete ⟨_, rfl, hbody⟩ hend hlength
    | collection hbody =>
        simp only [body, List.mem_singleton.1 hname, reduceIte, String.reduceEq]
        exact (hmembers.map .collection).complete ⟨_, rfl, hbody⟩ hend hlength
    | envelope =>
        simp only [keywords, List.mem_cons, List.not_mem_nil, or_false] at hname
        rcases hname with hname | hname
        · simp only [body, hname, reduceIte, String.reduceEq, true_or]
          rfl
        · simp only [body, hname, reduceIte, String.reduceEq, or_true]
          rfl

end

/-! ## Geometries -/

/-- A keyword and what is skipped after it are a head. -/
theorem exists_head (word : String) (ts : Tokens) :
    ∃ mark, ts = mark ++ skipDimension ts ∧ Head (Text.upperAscii word) (.word word :: mark) := by
  unfold skipDimension
  split
  · rename_i mark rest
    split
    · rename_i hmark
      exact ⟨[.word mark], rfl, .marked rfl (by simpa [dimensionMarks] using hmark)⟩
    · exact ⟨[], rfl, .plain rfl⟩
  · exact ⟨[], rfl, .plain rfl⟩

/-- The keyword of a head comes first, and its mark is skipped unless a further one follows. -/
theorem Head.exists_eq {name : String} {head : Tokens} (h : Head name head) :
    ∃ word mark, head = .word word :: mark ∧ Text.upperAscii word = name ∧
      ∀ rest, skipDimension rest = rest → skipDimension (mark ++ rest) = rest := by
  cases h with
  | @plain word hword => exact ⟨word, [], rfl, hword, fun _ h => h⟩
  | @marked word mark hword hmark =>
      refine ⟨word, [.word mark], rfl, hword, fun rest _ => ?_⟩
      have hcontains : dimensionMarks.contains (Text.upperAscii mark) = true := by
        simpa [dimensionMarks] using hmark
      rw [List.cons_append, List.nil_append, skipDimension, if_pos hcontains]

/-- Which keywords have empty geometries. -/
theorem emptyGeometry_eq_ok_iff {name : String} {g : Geometry} :
    emptyGeometry name = .ok g ↔ name ∈ keywords g ∧ g ∈ emptyGeometries := by
  constructor
  · intro h
    unfold emptyGeometry at h
    iterate 7
      split at h
      case isTrue hname =>
        obtain rfl := Except.ok.inj h
        exact ⟨List.mem_singleton.2 hname, by simp [emptyGeometries]⟩
    exact nomatch h
  · rintro ⟨hname, hempty⟩
    simp only [emptyGeometries, List.mem_cons, List.not_mem_nil, or_false] at hempty
    rcases hempty with rfl | rfl | rfl | rfl | rfl | rfl | rfl <;>
      simp [emptyGeometry, List.mem_singleton.1 hname]

/-- The word for emptiness is taken where it stands. -/
theorem takeEmpty?_eq_some_iff {ts rest : Tokens} :
    takeEmpty? ts = some rest ↔ ∃ word, ts = .word word :: rest ∧ Text.upperAscii word = "EMPTY" := by
  unfold takeEmpty?
  split
  · rename_i word more
    simp only [Option.ite_none_right_eq_some, Option.some.injEq, List.cons.injEq, WktToken.word.injEq]
    constructor
    · rintro ⟨hword, rfl⟩
      exact ⟨word, ⟨rfl, rfl⟩, hword⟩
    · rintro ⟨_, ⟨rfl, rfl⟩, hword⟩
      exact ⟨hword, rfl⟩
  · rename_i hnone
    exact iff_of_false (by simp) fun ⟨word, hts, _⟩ => hnone word rest hts

/-- A body starts with a parenthesis. -/
theorem Body.exists_eq {member : Geometry → Tokens → Prop} {g : Geometry} {ts : Tokens}
    (h : Body member g ts) : ∃ more, ts = .sign '(' :: more := by
  cases h with
  | point h => cases h; exact ⟨_, rfl⟩
  | lineString h => cases h; exact ⟨_, rfl⟩
  | polygon h => cases h; exact ⟨_, rfl⟩
  | multiPoint h => cases h; exact ⟨_, rfl⟩
  | multiLineString h => cases h; exact ⟨_, rfl⟩
  | multiPolygon h => cases h; exact ⟨_, rfl⟩
  | collection h => cases h; exact ⟨_, rfl⟩
  | envelope => exact ⟨_, rfl⟩

/-- **Geometries are read exactly**, when there are more levels than tokens. -/
theorem reads_geometry (levels : Nat) : Reads levels (geometry levels) Derives Anything := by
  -- the members of a collection have one level less, and at least the keyword less in front of them
  induction levels with
  | zero => exact ⟨fun h => (nomatch h), fun _ _ h => absurd h (Nat.not_lt_zero _)⟩
  | succ levels ih =>
      constructor
      case sound =>
        intro ts g rest h
        cases ts with
        | nil => exact nomatch h
        | cons t ts =>
            cases t with
            | number => exact nomatch h
            | sign => exact nomatch h
            | word word =>
                obtain ⟨mark, hts, hhead⟩ := exists_head word ts
                rw [geometry] at h
                split at h
                · rename_i more hmore
                  obtain ⟨empty, hempty, hword⟩ := takeEmpty?_eq_some_iff.1 hmore
                  obtain ⟨g', hg, heq⟩ := map_eq_ok.1 h
                  obtain ⟨rfl, rfl⟩ := Prod.mk.inj heq
                  obtain ⟨hname, hform⟩ := emptyGeometry_eq_ok_iff.1 hg
                  refine ⟨.word word :: mark ++ [.word empty], ?_, .empty hhead hname hform hword⟩
                  rw [hts, hempty]
                  simp
                · obtain ⟨us, hus, hname, hbody⟩ := (reads_body ih word).sound h
                  refine ⟨.word word :: mark ++ us, ?_, .body hhead hname hbody⟩
                  rw [hts, hus]
                  simp
      case complete =>
        intro us g rest hphrase _ hlength
        cases hphrase with
        | @empty name empty _ head hhead hname hform hword =>
            obtain ⟨word, mark, rfl, rfl, hskip⟩ := hhead.exists_eq
            -- the word for emptiness is no mark itself, and is not skipped
            have hstop : skipDimension (.word empty :: rest) = .word empty :: rest := by
              rw [skipDimension, hword]
              rfl
            simp only [List.append_assoc, List.cons_append, List.nil_append]
            rw [geometry]
            rw [hskip _ hstop, takeEmpty?_eq_some_iff.2 ⟨empty, rfl, hword⟩]
            exact map_eq_ok.2 ⟨g, emptyGeometry_eq_ok_iff.2 ⟨hname, hform⟩, rfl⟩
        | @body name _ head us hhead hname hbody =>
            obtain ⟨word, mark, rfl, rfl, hskip⟩ := hhead.exists_eq
            obtain ⟨more, hmore⟩ := hbody.exists_eq
            -- a body starts with a parenthesis, which is neither a mark nor a word
            have hstop : skipDimension (us ++ rest) = us ++ rest := by
              rw [hmore]
              rfl
            have hnone : takeEmpty? (us ++ rest) = none := by
              rw [hmore]
              rfl
            simp only [List.append_assoc, List.cons_append]
            rw [geometry]
            rw [hskip _ hstop, hnone]
            refine (reads_body ih word).complete ⟨hname, hbody⟩ trivial ?_
            simp only [List.append_assoc, List.cons_append, List.length_cons, List.length_append]
              at hlength ⊢
            omega

/-- **A text is read as a geometry exactly when its tokens are those of the geometry.** -/
theorem read_eq_ok_iff {s : String} {g : Geometry} :
    read s = .ok g ↔ ∃ ts, Lexes s.toList ts ∧ Derives g ts := by
  simp only [read, bind_eq_ok, Prod.exists, tokens_eq_ok_iff]
  constructor
  · rintro ⟨ts, hts, g', rest, hg, hrest⟩
    split at hrest
    · rename_i hempty
      obtain rfl := List.isEmpty_iff.1 hempty
      obtain ⟨us, rfl, hderives⟩ := (reads_geometry _).sound hg
      obtain rfl := pure_eq_ok.1 hrest
      exact ⟨us ++ [], hts, by rwa [List.append_nil]⟩
    · exact nomatch hrest
  · rintro ⟨ts, hts, hderives⟩
    -- there is one level more than tokens, so the levels do not run out
    have hg : geometry (ts.length + 1) (ts ++ []) = .ok (g, []) :=
      (reads_geometry _).complete hderives trivial (by rw [List.append_nil]; exact Nat.lt_succ_self _)
    rw [List.append_nil] at hg
    exact ⟨ts, hts, g, [], hg, rfl⟩

end SearchTables.Wkt
