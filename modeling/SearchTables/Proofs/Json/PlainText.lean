import SearchTables.Proofs.Json.Canonical
import SearchTables.Proofs.Json.Place
import SearchTables.Text.Utf8

/-! # Plain JSON — texts that are read back

A text is **plain** when all of its characters are printable ASCII and none of them is escaped in JSON. A
value is plain when it consists of such texts, of null and of truth values. What is printed of it is
ASCII (`lt_of_mem_chars`), and reading that gives the value back (`read?_render_of_plain`). -/

namespace SearchTables

namespace Text

/-- The code points of ASCII characters are their own. -/
theorem codesOf_of_ascii {cs : List Char} (h : ∀ c ∈ cs, c.toNat < 0x80) :
    codesOf cs = cs.map Char.toNat := by
  induction cs with
  | nil => rfl
  | cons c rest ih =>
      rw [List.forall_mem_cons] at h
      cases rest with
      | nil => rfl
      | cons d rest =>
          have hmark : pairCode? c.toNat d.toNat = none := pairCode?_eq_none (by omega)
          rw [codesOf, hmark]
          exact congrArg _ (ih h.2)

/-- An ASCII character is written as itself. -/
theorem written_of_ascii {c : Char} (h : c.toNat < 0x80) : written c.toNat = [c] := by
  have hhalf : isHalf c.toNat = false := by
    simp only [isHalf, decide_eq_false_iff_not]
    omega
  have hmark : isMark c.toNat = false := by
    simp only [isMark, decide_eq_false_iff_not]
    omega
  rw [written, hhalf, hmark]
  simp

/-- ASCII characters are written as themselves. -/
theorem writtenAll_of_ascii {cs : List Char} (h : ∀ c ∈ cs, c.toNat < 0x80) :
    writtenAll (cs.map Char.toNat) = cs := by
  induction cs with
  | nil => rfl
  | cons c rest ih =>
      rw [List.forall_mem_cons] at h
      rw [writtenAll, List.map_cons, List.flatMap_cons, written_of_ascii h.1]
      exact congrArg _ (ih h.2)

/-- Bytes of ASCII characters are code points. -/
theorem decodeUtf8_of_ascii {bytes : List Nat} (h : ∀ b ∈ bytes, b < 0x80) :
    decodeUtf8 bytes = bytes := by
  induction bytes with
  | nil => rfl
  | cons b rest ih =>
      rw [List.forall_mem_cons] at h
      have hstart : startByte b = some (.inl b) := if_pos h.1
      rw [decodeUtf8, decodeAfter]
      simp only [hstart, List.nil_append]
      exact congrArg _ (ih h.2)

end Text

namespace Json

/-! ## Texts -/

/-- A text of printable ASCII characters of which none is escaped. -/
def PlainText (s : String) : Prop :=
  ∀ c ∈ s.toList, 0x20 ≤ c.toNat ∧ c.toNat < 0x7f ∧ c ≠ '"' ∧ c ≠ '\\'

instance (s : String) : Decidable (PlainText s) :=
  List.decidableBAll _ s.toList

/-- The characters of a plain text are ASCII. -/
theorem PlainText.lt {s : String} (h : PlainText s) : ∀ c ∈ s.toList, c.toNat < 0x80 := by
  intro c hc
  obtain ⟨-, hhigh, -⟩ := h c hc
  omega

/-- A printable character that is not escaped stands for itself. -/
theorem stringCode_of_plain {c : Char} (hlow : 0x20 ≤ c.toNat) (hhigh : c.toNat < 0x7f)
    (hquote : c ≠ '"') (hslash : c ≠ '\\') : stringCode true c.toNat = [c] := by
  have hself : Char.ofNat c.toNat = c := Char.ofNat_toNat c
  have hne : ∀ d : Char, d.toNat < 0x20 → c ≠ d := by
    rintro d hd rfl
    omega
  rw [stringCode]
  simp only [hself, hquote, hslash, hne '\n' (by decide), hne '\r' (by decide), hne '\t' (by decide),
    hne '\x08' (by decide), hne '\x0c' (by decide), or_self, if_false]
  rw [if_neg (by simp; omega), Text.written_of_ascii (by omega)]

/-- A plain text stands between quotes as it is. -/
theorem toList_quote_of_plain {s : String} (h : PlainText s) :
    (quote true s).toList = '"' :: s.toList ++ ['"'] := by
  have hcodes : (Text.codePoints s).flatMap (stringCode true) = s.toList := by
    rw [Text.codePoints, Text.codesOf_of_ascii fun c hc => by have := h c hc; omega,
      List.flatMap_map]
    conv_rhs => rw [← List.flatMap_singleton' s.toList]
    refine List.flatMap_congr fun c hc => ?_
    obtain ⟨hlow, hhigh, hquote, hslash⟩ := h c hc
    exact stringCode_of_plain hlow hhigh hquote hslash
  rw [quote, String.toList_ofList, hcodes]

/-- A plain text is read back up to its closing quote. -/
theorem readString_of_plain {cs : List Char}
    (h : ∀ c ∈ cs, 0x20 ≤ c.toNat ∧ c.toNat < 0x7f ∧ c ≠ '"' ∧ c ≠ '\\') {steps : Nat}
    (hsteps : cs.length < steps) (rest : List Char) :
    readString steps (cs ++ '"' :: rest) = some (cs, rest) := by
  induction cs generalizing steps with
  | nil =>
      cases steps with
      | zero => simp at hsteps
      | succ steps => rfl
  | cons c cs ih =>
      rw [List.forall_mem_cons] at h
      obtain ⟨hlow, -, hquote, hslash⟩ := h.1
      cases steps with
      | zero => simp at hsteps
      | succ steps =>
          -- a character that needs no escape is taken as it stands
          have hread : readString (steps + 1) (c :: (cs ++ '"' :: rest)) =
              (readString steps (cs ++ '"' :: rest)).map fun found => (c :: found.1, found.2) := by
            rw [readString]
            · rw [if_neg (by simp [hslash]; omega)]
            · exact hquote
            · intro _ hc
              exact absurd hc hslash
            · intro _ _ hc
              exact absurd hc hslash
          rw [List.cons_append, hread, ih h.2 (by simpa using hsteps)]
          rfl

/-! ## Values -/

/-- A value of plain texts, null and truth values; the members of its objects have distinct names. -/
inductive Plain : Json → Prop where
  | null : Plain .null
  | bool (b : Bool) : Plain (.bool b)
  | str {s : String} (h : PlainText s) : Plain (.str s)
  | arr {items : List Json} (h : ∀ item ∈ items, Plain item) : Plain (.arr items)
  | obj {members : List (String × Json)} (hnames : ∀ m ∈ members, PlainText m.1)
      (hdistinct : (members.map (·.1)).Nodup) (h : ∀ m ∈ members, Plain m.2) : Plain (.obj members)

/-- A value is **read back** from its text, whatever comes after it. -/
def ReadBack (j : Json) : Prop :=
  ∀ {steps : Nat} (rest : List Char), 2 * (chars j).length ≤ steps →
    readValue steps (chars j ++ rest) = some (j, rest)

/-- The text of a plain value starts with a character that is neither white space nor a closing
bracket. -/
theorem exists_chars_eq_cons {j : Json} (h : Plain j) :
    ∃ c cs, chars j = c :: cs ∧ isSpace c = false ∧ c ≠ ']' := by
  cases h with
  | null => exact ⟨'n', _, rfl, rfl, by decide⟩
  | bool b => cases b <;> exact ⟨_, _, rfl, rfl, by decide⟩
  | str => exact ⟨'"', _, toList_quote _, rfl, by decide⟩
  | @arr items h =>
      cases items with
      | nil => exact ⟨'[', _, chars_arr_nil, rfl, by decide⟩
      | cons item rest => exact ⟨'[', _, chars_arr_cons .., rfl, by decide⟩
  | @obj members =>
      rcases members with - | ⟨⟨name, value⟩, rest⟩
      · exact ⟨'\x7b', _, chars_obj_nil, rfl, by decide⟩
      · exact ⟨'\x7b', _, chars_obj_cons .., rfl, by decide⟩

/-- A space is skipped. -/
theorem skipSpace_space (cs : List Char) : skipSpace (' ' :: cs) = skipSpace cs := rfl

/-- There is no white space before a plain value. -/
theorem skipSpace_chars {j : Json} (h : Plain j) (rest : List Char) :
    skipSpace (chars j ++ rest) = chars j ++ rest := by
  obtain ⟨c, cs, hchars, hspace, -⟩ := exists_chars_eq_cons h
  rw [hchars, List.cons_append, skipSpace, List.dropWhile_cons_of_neg (by simp [hspace])]

/-- The items of an array are read back up to its closing bracket. -/
theorem readItems_of_plain {item : Json} {items : List Json} (h : ∀ x ∈ item :: items, Plain x)
    (hread : ∀ x ∈ item :: items, ReadBack x) {steps : Nat} (rest : List Char)
    (hsteps : 2 * ((chars item).length + (moreItems items).length) + 1 ≤ steps) :
    readItems steps (chars item ++ (moreItems items ++ ']' :: rest)) =
      some (item :: items, rest) := by
  -- one step goes to each item, whose text is not empty
  induction items generalizing item steps with
  | nil =>
      obtain ⟨steps, rfl⟩ : ∃ n, steps = n + 1 := ⟨steps - 1, by omega⟩
      rw [readItems, hread item (by simp) _ (by omega)]
      rfl
  | cons next items ih =>
      obtain ⟨steps, rfl⟩ : ∃ n, steps = n + 1 := ⟨steps - 1, by omega⟩
      rw [List.forall_mem_cons] at h hread
      have hlength : (moreItems (next :: items)).length =
          2 + ((chars next).length + (moreItems items).length) := by
        simp [moreItems]
        omega
      rw [hlength] at hsteps
      have hrest : readItems steps (skipSpace (' ' :: (chars next ++ (moreItems items ++ ']' :: rest)))) =
          some (next :: items, rest) := by
        have hspace : skipSpace (' ' :: (chars next ++ (moreItems items ++ ']' :: rest))) =
            chars next ++ (moreItems items ++ ']' :: rest) := by
          rw [skipSpace_space, skipSpace_chars (h.2 next (by simp))]
        rw [hspace]
        exact ih h.2 hread.2 (by omega)
      have hmore : moreItems (next :: items) ++ ']' :: rest =
          ',' :: ' ' :: (chars next ++ (moreItems items ++ ']' :: rest)) := by
        simp [moreItems]
      have hcomma : ∀ cs, skipSpace (',' :: cs) = ',' :: cs := fun _ => rfl
      rw [readItems, hread.1 _ (by omega), hmore]
      simp only [hcomma, hrest, Option.map_some]

/-- A member of an object is read back: it is the last one before a brace, and others come after a
comma. -/
theorem readMembers_member {name : String} {value : Json} (hname : PlainText name) (h : Plain value)
    (hread : ReadBack value) {steps : Nat} (hsteps : 2 * (memberChars name value).length ≤ steps)
    {c : Char} {rest more : List Char} (hnext : skipSpace rest = c :: more) :
    (c = '\x7d' → readMembers (steps + 1) (memberChars name value ++ rest) =
      some ([(name, value)], more)) ∧
    (c = ',' → readMembers (steps + 1) (memberChars name value ++ rest) =
      (readMembers steps (skipSpace more)).map fun (members, rest) =>
        ((name, value) :: members, rest)) := by
  have hchars : memberChars name value ++ rest =
      '"' :: (name.toList ++ '"' :: ':' :: ' ' :: (chars value ++ rest)) := by
    rw [memberChars, toList_quote_of_plain hname]
    simp
  have hlength : (memberChars name value).length = name.toList.length + (chars value).length + 4 := by
    rw [memberChars, toList_quote_of_plain hname]
    simp
    omega
  -- the reader goes over the name, the colon, the space and the value
  have hstring : readString steps (name.toList ++ '"' :: ':' :: ' ' :: (chars value ++ rest)) =
      some (name.toList, ':' :: ' ' :: (chars value ++ rest)) :=
    readString_of_plain hname (by omega) _
  have hcolon : skipSpace (':' :: ' ' :: (chars value ++ rest)) =
      ':' :: ' ' :: (chars value ++ rest) := rfl
  have hspace : skipSpace (' ' :: (chars value ++ rest)) = chars value ++ rest := by
    rw [skipSpace_space, skipSpace_chars h]
  have hvalue : readValue steps (chars value ++ rest) = some (value, rest) := hread rest (by omega)
  rw [hchars, readMembers]
  constructor
  · rintro rfl
    simp only [hstring, hcolon, hspace, hvalue, hnext, String.ofList_toList]
  · rintro rfl
    simp only [hstring, hcolon, hspace, hvalue, hnext, String.ofList_toList]

/-- There is no white space before a member. -/
theorem skipSpace_memberChars (name : String) (value : Json) (rest : List Char) :
    skipSpace (memberChars name value ++ rest) = memberChars name value ++ rest := by
  rw [memberChars, toList_quote]
  rfl

/-- The members of an object are read back up to its closing brace. -/
theorem readMembers_of_plain {name : String} {value : Json} {members : List (String × Json)}
    (hnames : ∀ m ∈ (name, value) :: members, PlainText m.1)
    (h : ∀ m ∈ (name, value) :: members, Plain m.2)
    (hread : ∀ m ∈ (name, value) :: members, ReadBack m.2) {steps : Nat} (rest : List Char)
    (hsteps : 2 * ((memberChars name value).length + (moreMembers members).length) + 1 ≤ steps) :
    readMembers steps (memberChars name value ++ (moreMembers members ++ '\x7d' :: rest)) =
      some ((name, value) :: members, rest) := by
  induction members generalizing name value steps with
  | nil =>
      obtain ⟨steps, rfl⟩ : ∃ n, steps = n + 1 := ⟨steps - 1, by omega⟩
      rw [List.forall_mem_singleton] at hnames h hread
      have hend : skipSpace (moreMembers [] ++ '\x7d' :: rest) = '\x7d' :: rest := rfl
      have hlength : 2 * (memberChars name value).length ≤ steps := by omega
      exact (readMembers_member hnames h hread hlength hend).1 rfl
  | cons next members ih =>
      obtain ⟨other, found⟩ := next
      -- a member is longer than the one step that it takes
      obtain ⟨steps, rfl⟩ : ∃ n, steps = n + 1 := ⟨steps - 1, by omega⟩
      rw [List.forall_mem_cons] at hnames h hread
      have hlength : (moreMembers ((other, found) :: members)).length =
          2 + ((memberChars other found).length + (moreMembers members).length) := by
        simp [moreMembers]
        omega
      rw [hlength] at hsteps
      have hmore : moreMembers ((other, found) :: members) ++ '\x7d' :: rest =
          ',' :: ' ' :: (memberChars other found ++ (moreMembers members ++ '\x7d' :: rest)) := by
        simp [moreMembers]
      have hcomma : skipSpace (moreMembers ((other, found) :: members) ++ '\x7d' :: rest) =
          ',' :: ' ' :: (memberChars other found ++ (moreMembers members ++ '\x7d' :: rest)) := by
        rw [hmore]
        rfl
      have hspace : skipSpace
          (' ' :: (memberChars other found ++ (moreMembers members ++ '\x7d' :: rest))) =
            memberChars other found ++ (moreMembers members ++ '\x7d' :: rest) := by
        rw [skipSpace_space, skipSpace_memberChars]
      have hlength' : 2 * (memberChars name value).length ≤ steps := by omega
      rw [(readMembers_member hnames.1 h.1 hread.1 hlength' hcomma).2 rfl, hspace,
        ih hnames.2 h.2 hread.2 (by omega)]
      rfl

/-- A plain text is read back. -/
theorem readBack_str {s : String} (h : PlainText s) : ReadBack (.str s) := by
  intro steps rest hsteps
  have hchars : chars (.str s) = '"' :: s.toList ++ ['"'] := toList_quote_of_plain h
  have hlength : (chars (.str s)).length = s.toList.length + 2 := by
    simp [hchars]
  obtain ⟨steps, rfl⟩ : ∃ n, steps = n + 1 := ⟨steps - 1, by omega⟩
  have hstring : readString steps (s.toList ++ '"' :: rest) = some (s.toList, rest) :=
    readString_of_plain h (by omega) rest
  rw [hchars, List.cons_append, List.cons_append, List.append_assoc, List.singleton_append,
    readValue]
  simp only [hstring, Option.map_some, String.ofList_toList]

/-- An array is read back when its items are. -/
theorem readBack_arr {items : List Json} (h : ∀ item ∈ items, Plain item)
    (hread : ∀ item ∈ items, ReadBack item) : ReadBack (.arr items) := by
  intro steps rest hsteps
  cases items with
  | nil =>
      have hlength : (chars (.arr [])).length = 2 := by rw [chars_arr_nil]; rfl
      obtain ⟨steps, rfl⟩ : ∃ n, steps = n + 1 := ⟨steps - 1, by omega⟩
      rw [chars_arr_nil]
      rfl
  | cons item items =>
      have htext : chars (.arr (item :: items)) ++ rest =
          '[' :: (chars item ++ (moreItems items ++ ']' :: rest)) := by
        rw [chars_arr_cons]
        simp
      have hlength : (chars (.arr (item :: items))).length =
          (chars item).length + (moreItems items).length + 2 := by
        rw [chars_arr_cons]
        simp only [List.length_cons, List.length_append, List.length_nil]
      obtain ⟨steps, rfl⟩ : ∃ n, steps = n + 1 := ⟨steps - 1, by omega⟩
      have hitems := readItems_of_plain h hread rest (by omega : _ ≤ steps)
      have hitem := h item (by simp)
      rw [htext, readValue]
      simp only [skipSpace_chars hitem]
      split
      · -- an item does not start with the closing bracket
        rename_i hend
        obtain ⟨c, cs, hchars, -, hne⟩ := exists_chars_eq_cons hitem
        rw [hchars] at hend
        exact absurd (List.cons.inj hend).1 hne
      · rw [hitems]
        rfl

/-- An object is read back when its values are. -/
theorem readBack_obj {members : List (String × Json)} (hnames : ∀ m ∈ members, PlainText m.1)
    (hdistinct : (members.map (·.1)).Nodup) (h : ∀ m ∈ members, Plain m.2)
    (hread : ∀ m ∈ members, ReadBack m.2) : ReadBack (.obj members) := by
  intro steps rest hsteps
  rcases members with - | ⟨⟨name, value⟩, members⟩
  · have hlength : (chars (.obj [])).length = 2 := by rw [chars_obj_nil]; rfl
    obtain ⟨steps, rfl⟩ : ∃ n, steps = n + 1 := ⟨steps - 1, by omega⟩
    rw [chars_obj_nil]
    rfl
  · have htext : chars (.obj ((name, value) :: members)) ++ rest =
        '\x7b' :: (memberChars name value ++ (moreMembers members ++ '\x7d' :: rest)) := by
      rw [chars_obj_cons]
      simp
    have hlength : (chars (.obj ((name, value) :: members))).length =
        (memberChars name value).length + (moreMembers members).length + 2 := by
      rw [chars_obj_cons]
      simp only [List.length_cons, List.length_append, List.length_nil]
    obtain ⟨steps, rfl⟩ : ∃ n, steps = n + 1 := ⟨steps - 1, by omega⟩
    have hmembers := readMembers_of_plain hnames h hread rest (by omega : _ ≤ steps)
    rw [htext, readValue]
    simp only [skipSpace_memberChars]
    split
    · -- a name does not start with the closing brace
      rename_i hend
      rw [memberChars, toList_quote] at hend
      exact absurd (List.cons.inj hend).1 (by decide)
    · rw [hmembers, Option.map_some]
      simp only [membersOf_of_nodup hdistinct]

/-- **A plain value is read back from its text.** The induction is on the value. -/
theorem readBack_of_plain {j : Json} (h : Plain j) : ReadBack j := by
  induction h with
  | null =>
      intro steps rest hsteps
      have hlength : (chars .null).length = 4 := rfl
      obtain ⟨steps, rfl⟩ : ∃ n, steps = n + 1 := ⟨steps - 1, by omega⟩
      rfl
  | bool b =>
      intro steps rest hsteps
      have hlength : 4 ≤ (chars (.bool b)).length := by cases b <;> decide
      obtain ⟨steps, rfl⟩ : ∃ n, steps = n + 1 := ⟨steps - 1, by omega⟩
      cases b <;> rfl
  | str h => exact readBack_str h
  | arr h ih => exact readBack_arr h ih
  | obj hnames hdistinct h ih => exact readBack_obj hnames hdistinct h ih

/-! ## ASCII -/

/-- A plain text is ASCII, and so is its text. -/
theorem lt_of_mem_quote {s : String} (h : PlainText s) :
    ∀ c ∈ (quote true s).toList, c.toNat < 0x80 := by
  have hplain := h.lt
  have hquote : '"'.toNat < 0x80 := by decide
  rw [toList_quote_of_plain h]
  simpa [hquote, or_imp, forall_and] using hplain

/-- Further items are ASCII when each of them is. -/
theorem lt_of_mem_moreItems {items : List Json} (h : ∀ item ∈ items, ∀ c ∈ chars item, c.toNat < 0x80) :
    ∀ c ∈ moreItems items, c.toNat < 0x80 := by
  induction items with
  | nil => simp [moreItems]
  | cons item items ih =>
      rw [List.forall_mem_cons] at h
      simp only [moreItems, List.cons_append, List.forall_mem_cons, List.forall_mem_append]
      exact ⟨by decide, by decide, h.1, ih h.2⟩

/-- A member is ASCII when its name is plain and its value ASCII. -/
theorem lt_of_mem_memberChars {name : String} {value : Json} (hname : PlainText name)
    (h : ∀ c ∈ chars value, c.toNat < 0x80) : ∀ c ∈ memberChars name value, c.toNat < 0x80 := by
  simp only [memberChars, List.forall_mem_cons, List.forall_mem_append]
  exact ⟨lt_of_mem_quote hname, by decide, by decide, h⟩

/-- Further members are ASCII when each of them is. -/
theorem lt_of_mem_moreMembers {members : List (String × Json)} (hnames : ∀ m ∈ members, PlainText m.1)
    (h : ∀ m ∈ members, ∀ c ∈ chars m.2, c.toNat < 0x80) :
    ∀ c ∈ moreMembers members, c.toNat < 0x80 := by
  induction members with
  | nil => simp [moreMembers]
  | cons m members ih =>
      obtain ⟨name, value⟩ := m
      rw [List.forall_mem_cons] at hnames h
      simp only [moreMembers, List.cons_append, List.forall_mem_cons, List.forall_mem_append]
      exact ⟨by decide, by decide, lt_of_mem_memberChars hnames.1 h.1, ih hnames.2 h.2⟩

/-- **The text of a plain value is ASCII.** The induction is on the value. -/
theorem lt_of_mem_chars {j : Json} (h : Plain j) : ∀ c ∈ chars j, c.toNat < 0x80 := by
  induction h with
  | null => exact PlainText.lt (s := "null") (by decide)
  | bool b =>
      cases b with
      | false => exact PlainText.lt (s := "false") (by decide)
      | true => exact PlainText.lt (s := "true") (by decide)
  | str h => exact lt_of_mem_quote h
  | @arr items _ ih =>
      cases items with
      | nil => exact PlainText.lt (s := "[]") (by decide)
      | cons item items =>
          rw [List.forall_mem_cons] at ih
          simp only [chars_arr_cons, List.forall_mem_cons, List.forall_mem_append, List.mem_singleton,
            forall_eq]
          exact ⟨by decide, ⟨ih.1, lt_of_mem_moreItems ih.2⟩, by decide⟩
  | @obj members hnames _ _ ih =>
      rcases members with - | ⟨⟨name, value⟩, members⟩
      · exact PlainText.lt (s := "\x7b\x7d") (by decide)
      · rw [List.forall_mem_cons] at hnames ih
        simp only [chars_obj_cons, List.forall_mem_cons, List.forall_mem_append, List.mem_singleton,
          forall_eq]
        exact ⟨by decide, ⟨lt_of_mem_memberChars hnames.1 ih.1, lt_of_mem_moreMembers hnames.2 ih.2⟩,
          by decide⟩

/-! ## Whole texts -/

/-- **Reading what was printed** of a plain value gives it back. -/
theorem read?_render_of_plain {j : Json} (h : Plain j) : read? (render .spaced j) = some j := by
  have hread := readBack_of_plain h [] (Nat.le_add_right (2 * (chars j).length) 2)
  have hspace := skipSpace_chars h []
  rw [List.append_nil] at hread hspace
  have htext : (render .spaced j).toList = chars j := rfl
  rw [read?]
  simp only [htext, hspace, hread]
  rfl

end Json

end SearchTables
