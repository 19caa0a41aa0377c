import SearchTables.Proofs.Json.StringText
import SearchTables.Proofs.Decimal.NumberText

/-! # JSON text — unique readability

The text of a value says what kind of value it is and where it ends, so no two values of different
**form** have one text: equal whole numbers, doubles that print alike, strings with the same units, arrays
and objects of these in one order (`render_eq_iff`). Printing after sorting the members of every object
makes the text one for all orders of the members. -/

namespace SearchTables

namespace Json

/-! ## Forms -/

/-- What the text of a value tells about it. -/
inductive Form where
  | null
  | bool (value : Bool)
  | int (value : Int)
  | float (text : String)
  | str (units : List Nat)
  | arr (items : List Form)
  | obj (members : List (List Nat × Form))

mutual

/-- The form of a value: doubles by their texts, strings and names by their units. -/
def form : Json → Form
  | .null => .null
  | .bool b => .bool b
  | .int n => .int n
  | .float x => .float (numberLayout.render x)
  | .str s => .str (Text.units s)
  | .arr items => .arr (formItems items)
  | .obj members => .obj (formMembers members)

/-- The forms of the items of an array. -/
def formItems : List Json → List Form
  | [] => []
  | item :: rest => form item :: formItems rest

/-- The forms of the members of an object. -/
def formMembers : List (String × Json) → List (List Nat × Form)
  | [] => []
  | (name, value) :: rest => (Text.units name, form value) :: formMembers rest

end

/-- The characters of the text of a value, spaced. -/
def chars (j : Json) : List Char := (render .spaced j).toList

/-- The characters of the items after the first one of an array. -/
def moreItems : List Json → List Char
  | [] => []
  | item :: rest => ',' :: ' ' :: chars item ++ moreItems rest

/-- The characters of a member of an object. -/
def memberChars (name : String) (value : Json) : List Char :=
  (quote true name).toList ++ ':' :: ' ' :: chars value

/-- The characters of the members after the first one of an object. -/
def moreMembers : List (String × Json) → List Char
  | [] => []
  | (name, value) :: rest => ',' :: ' ' :: memberChars name value ++ moreMembers rest

/-- Texts with a separator between each two, the first one apart. -/
theorem toList_joinWith_cons (text : String) (texts : List String) :
    (joinWith ", " (text :: texts)).toList =
      text.toList ++ texts.flatMap fun t => ',' :: ' ' :: t.toList := by
  rw [joinWith, String.toList_intercalate, List.map_cons]
  induction texts generalizing text with
  | nil => rw [List.map_nil, List.intercalate_singleton, List.flatMap_nil, List.append_nil]
  | cons t texts ih =>
      rw [List.map_cons, List.intercalate_cons_cons, ih t, List.flatMap_cons, List.append_assoc]
      rfl

/-- The texts of items after their first one. -/
theorem flatMap_renderItems (items : List Json) :
    ((renderItems .spaced items).flatMap fun t => ',' :: ' ' :: t.toList) = moreItems items := by
  induction items with
  | nil => rfl
  | cons item rest ih => rw [renderItems, List.flatMap_cons, ih, moreItems, chars]

/-- The text of a member. -/
theorem toList_member (name : String) (value : Json) :
    (quote JsonLayout.spaced.ascii name ++ JsonLayout.spaced.nameSeparator ++
      render .spaced value).toList = memberChars name value := by
  rw [String.toList_append, String.toList_append, List.append_assoc]
  rfl

/-- The texts of members after their first one. -/
theorem flatMap_renderMembers (members : List (String × Json)) :
    ((renderMembers .spaced members).flatMap fun t => ',' :: ' ' :: t.toList) =
      moreMembers members := by
  induction members with
  | nil => rfl
  | cons m rest ih =>
      obtain ⟨name, value⟩ := m
      rw [renderMembers, List.flatMap_cons, ih, toList_member, moreMembers]

@[simp] theorem chars_arr_nil : chars (.arr []) = ['[', ']'] := by
  rw [chars, render, renderItems]
  decide

@[simp] theorem chars_obj_nil : chars (.obj []) = ['\x7b', '\x7d'] := by
  rw [chars, render, renderMembers]
  decide

/-- The characters of an array with items. -/
theorem chars_arr_cons (item : Json) (rest : List Json) :
    chars (.arr (item :: rest)) = '[' :: (chars item ++ moreItems rest ++ [']']) := by
  rw [chars, render, renderItems, String.toList_append, String.toList_append]
  rw [show JsonLayout.spaced.itemSeparator = ", " from rfl, toList_joinWith_cons, flatMap_renderItems]
  rfl

/-- The characters of an object with members. -/
theorem chars_obj_cons (name : String) (value : Json) (rest : List (String × Json)) :
    chars (.obj ((name, value) :: rest)) =
      '\x7b' :: (memberChars name value ++ moreMembers rest ++ ['\x7d']) := by
  rw [chars, render, renderMembers, String.toList_append, String.toList_append]
  rw [show JsonLayout.spaced.itemSeparator = ", " from rfl, toList_joinWith_cons,
    flatMap_renderMembers, toList_member]
  rw [show "\x7b".toList = ['\x7b'] from rfl, show "\x7d".toList = ['\x7d'] from rfl, List.cons_append,
    List.nil_append, List.cons_append]

/-! ## The kind of a value -/

/-- The kinds of values. -/
inductive Kind where
  | null
  | bool
  | int
  | float
  | str
  | arr
  | obj
deriving DecidableEq

/-- The kind of a value. -/
def kind : Json → Kind
  | .null => .null
  | .bool _ => .bool
  | .int _ => .int
  | .float _ => .float
  | .str _ => .str
  | .arr _ => .arr
  | .obj _ => .obj

/-- The characters that structure a text. -/
def isPunctuation (c : Char) : Bool := ",[]\x7b\x7d\"".toList.contains c

/-- Whether a text that goes on after a value does so with punctuation. -/
def Ends (rest : List Char) : Prop := ∀ c, rest.head? = some c → isPunctuation c = true

@[simp] theorem ends_nil : Ends [] := by simp [Ends]

@[simp] theorem ends_cons {c : Char} {rest : List Char} : Ends (c :: rest) ↔ isPunctuation c = true := by
  simp [Ends]

/-- A word is a non-empty text without punctuation. -/
structure IsWord (word : List Char) : Prop where
  ne_nil : word ≠ []
  plain : ∀ c ∈ word, isPunctuation c = false

/-- The word that a text starts with. -/
def leadingWord (text : List Char) : List Char := text.takeWhile fun c => !isPunctuation c

/-- A word ends at punctuation. -/
theorem leadingWord_append {word rest : List Char} (h : IsWord word) (hrest : Ends rest) :
    leadingWord (word ++ rest) = word := by
  rw [leadingWord, List.takeWhile_append_of_pos fun c hc => by rw [h.plain c hc]; rfl]
  cases rest with
  | nil => rw [List.takeWhile_nil, List.append_nil]
  | cons c rest =>
      rw [List.takeWhile_cons_of_neg, List.append_nil]
      simp [ends_cons.1 hrest]

/-- A word and what comes after it are told apart. -/
theorem IsWord.append_inj {word word' rest rest' : List Char} (hw : IsWord word) (hw' : IsWord word')
    (hrest : Ends rest) (hrest' : Ends rest') (h : word ++ rest = word' ++ rest') :
    word = word' ∧ rest = rest' := by
  have hword : word = word' := by
    rw [← leadingWord_append hw hrest, h, leadingWord_append hw' hrest']
  subst hword
  exact ⟨rfl, List.append_cancel_left h⟩

/-- The kind of value that a word is the text of. -/
def wordKind? (word : List Char) : Option Kind :=
  if word = [] then none
  else if word = "null".toList then some .null
  else if word = "true".toList ∨ word = "false".toList then some .bool
  else if word.all isWholeChar then some .int
  else some .float

/-- The kind of value that a text starts with. -/
def leadingKind? (text : List Char) : Option Kind :=
  match text.head? with
  | some '"' => some .str
  | some '[' => some .arr
  | some '\x7b' => some .obj
  | _ => wordKind? (leadingWord text)

/-- The kind of a word at the start of a text. -/
theorem leadingKind?_word {word rest : List Char} (h : IsWord word) (hrest : Ends rest) :
    leadingKind? (word ++ rest) = wordKind? word := by
  obtain ⟨c, cs, rfl⟩ := List.exists_cons_of_ne_nil h.ne_nil
  have hc := h.plain c (List.mem_cons_self ..)
  have hne : ∀ d, isPunctuation d = true → c ≠ d := fun d hd he => by simp [he, hd] at hc
  rw [leadingKind?, leadingWord_append h hrest, List.cons_append, List.head?_cons]
  split
  · exact absurd (Option.some.inj ‹_›) (hne _ (by decide))
  · exact absurd (Option.some.inj ‹_›) (hne _ (by decide))
  · exact absurd (Option.some.inj ‹_›) (hne _ (by decide))
  · rfl

/-- A character of numbers is no punctuation. -/
theorem isPunctuation_of_isNumberChar {c : Char} (h : isNumberChar c = true) :
    isPunctuation c = false := by
  rw [Bool.eq_false_iff]
  intro hp
  have hall : ",[]\x7b\x7d\"".toList.all (fun c => !isNumberChar c) = true := by decide
  have hnot := List.all_eq_true.1 hall c (List.contains_iff_mem.1 hp)
  simp [h] at hnot

/-- The text of a whole number is a word. -/
theorem isWord_int (n : Int) : IsWord (toString n).toList :=
  ⟨toList_toString_int_ne_nil n, fun _ hc =>
    isPunctuation_of_isNumberChar (isNumberChar_of_isWholeChar (isWholeChar_of_mem hc))⟩

/-- The text of a double is a word. -/
theorem isWord_float (x : Float) : IsWord (numberLayout.render x).toList := by
  obtain ⟨c, hc, -⟩ := exists_mem_render x
  exact ⟨List.ne_nil_of_mem hc, fun _ hc => isPunctuation_of_isNumberChar (isNumberChar_of_mem_render hc)⟩

/-- A word of characters of numbers is no name of a value. -/
theorem wordKind?_number {word : List Char} (hne : word ≠ [])
    (h : ∀ c ∈ word, isNumberChar c = true) :
    wordKind? word = if word.all isWholeChar then some .int else some .float := by
  have hname : ∀ name : List Char, name.any (fun c => !isNumberChar c) = true → word ≠ name := by
    rintro name hany rfl
    obtain ⟨c, hc, hnot⟩ := List.any_eq_true.1 hany
    simp [h c hc] at hnot
  rw [wordKind?, if_neg hne, if_neg (hname _ (by decide)),
    if_neg (not_or.2 ⟨hname _ (by decide), hname _ (by decide)⟩)]

/-- The kind of the text of a whole number. -/
theorem wordKind?_int (n : Int) : wordKind? (toString n).toList = some .int := by
  rw [wordKind?_number (toList_toString_int_ne_nil n) fun _ hc =>
    isNumberChar_of_isWholeChar (isWholeChar_of_mem hc), if_pos]
  exact List.all_eq_true.2 fun _ hc => isWholeChar_of_mem hc

/-- The kind of the text of a double. -/
theorem wordKind?_float (x : Float) : wordKind? (numberLayout.render x).toList = some .float := by
  obtain ⟨c, hc, hwhole⟩ := exists_mem_render x
  rw [wordKind?_number (List.ne_nil_of_mem hc) fun _ hc => isNumberChar_of_mem_render hc, if_neg]
  intro hall
  simp [List.all_eq_true.1 hall c hc] at hwhole

/-- **The text of a value tells its kind**, whatever comes after it. -/
theorem leadingKind?_chars (j : Json) {rest : List Char} (hrest : Ends rest) :
    leadingKind? (chars j ++ rest) = some j.kind := by
  cases j with
  | null => exact leadingKind?_word ⟨by decide, by simp [chars, render, isPunctuation]⟩ hrest
  | bool b => cases b <;> exact leadingKind?_word ⟨by decide, by simp [chars, render, isPunctuation]⟩ hrest
  | int n => exact (leadingKind?_word (isWord_int n) hrest).trans (wordKind?_int n)
  | float x => exact (leadingKind?_word (isWord_float x) hrest).trans (wordKind?_float x)
  | str s =>
      rw [chars, render, show JsonLayout.spaced.ascii = true from rfl, toList_quote]
      rfl
  | arr items =>
      cases items with
      | nil => rw [chars_arr_nil]; rfl
      | cons item items => rw [chars_arr_cons]; rfl
  | obj members =>
      cases members with
      | nil => rw [chars_obj_nil]; rfl
      | cons m members =>
          obtain ⟨name, value⟩ := m
          rw [chars_obj_cons]
          rfl

/-! ## Unique readability -/

/-- Values with one text have one kind. -/
theorem kind_eq_of_append_eq {j j' : Json} {rest rest' : List Char} (hrest : Ends rest)
    (hrest' : Ends rest') (h : chars j ++ rest = chars j' ++ rest') : j.kind = j'.kind := by
  have hkind := leadingKind?_chars j hrest
  rw [h, leadingKind?_chars j' hrest'] at hkind
  exact (Option.some.inj hkind).symm

/-- The text of a value does not start with the end of an array. -/
theorem chars_append_ne {j : Json} {rest more : List Char} (hrest : Ends rest) :
    chars j ++ rest ≠ ']' :: more := by
  intro h
  have hkind := leadingKind?_chars j hrest
  rw [h] at hkind
  have hnone : leadingKind? (']' :: more) = none := by
    rw [leadingKind?, leadingWord, List.takeWhile_cons_of_neg (by decide)]
    rfl
  exact Option.some_ne_none _ (hkind.symm.trans hnone)

/-- What comes after an item ends it. -/
theorem ends_moreItems (items : List Json) (rest : List Char) :
    Ends (moreItems items ++ ']' :: rest) := by
  cases items with
  | nil => exact ends_cons.2 (by decide)
  | cons item items => exact ends_cons.2 (by decide)

/-- What comes after a member ends it. -/
theorem ends_moreMembers (members : List (String × Json)) (rest : List Char) :
    Ends (moreMembers members ++ '\x7d' :: rest) := by
  cases members with
  | nil => exact ends_cons.2 (by decide)
  | cons m members => exact ends_cons.2 (by decide)

/-- Whether the text of a value tells its form and where it ends. -/
def Readable (j : Json) : Prop :=
  ∀ {j' : Json} {rest rest' : List Char}, Ends rest → Ends rest' →
    chars j ++ rest = chars j' ++ rest' → form j = form j' ∧ rest = rest'

/-- The text of further items tells their forms. -/
theorem moreItems_append_inj {items items' : List Json} (hread : ∀ item ∈ items, Readable item)
    {rest rest' : List Char} (h : moreItems items ++ ']' :: rest = moreItems items' ++ ']' :: rest') :
    formItems items = formItems items' ∧ rest = rest' := by
  induction items generalizing items' with
  | nil =>
      cases items' with
      | nil => exact ⟨rfl, (List.cons.inj h).2⟩
      | cons item' items' => exact absurd (List.cons.inj h).1 (by decide)
  | cons item items ih =>
      rw [List.forall_mem_cons] at hread
      cases items' with
      | nil => exact absurd (List.cons.inj h).1 (by decide)
      | cons item' items' =>
          simp only [moreItems, List.cons_append, List.append_assoc, List.cons.injEq, true_and] at h
          obtain ⟨hitem, hmore⟩ := hread.1 (ends_moreItems items rest) (ends_moreItems items' rest') h
          obtain ⟨hitems, hend⟩ := ih hread.2 hmore
          exact ⟨by rw [formItems, formItems, hitem, hitems], hend⟩

/-- The text of a member tells its name and the form of its value. -/
theorem memberChars_append_inj {name name' : String} {value value' : Json} (hread : Readable value)
    {rest rest' : List Char} (hrest : Ends rest) (hrest' : Ends rest')
    (h : memberChars name value ++ rest = memberChars name' value' ++ rest') :
    Text.units name = Text.units name' ∧ form value = form value' ∧ rest = rest' := by
  simp only [memberChars, List.append_assoc, List.cons_append] at h
  obtain ⟨hname, hvalue⟩ := quote_append_inj h
  exact ⟨hname, hread hrest hrest' (List.cons.inj (List.cons.inj hvalue).2).2⟩

/-- The text of further members tells their names and their forms. -/
theorem moreMembers_append_inj {members members' : List (String × Json)}
    (hread : ∀ m ∈ members, Readable m.2) {rest rest' : List Char}
    (h : moreMembers members ++ '\x7d' :: rest = moreMembers members' ++ '\x7d' :: rest') :
    formMembers members = formMembers members' ∧ rest = rest' := by
  induction members generalizing members' with
  | nil =>
      cases members' with
      | nil => exact ⟨rfl, (List.cons.inj h).2⟩
      | cons m' members' => exact absurd (List.cons.inj h).1 (by decide)
  | cons m members ih =>
      rw [List.forall_mem_cons] at hread
      cases members' with
      | nil => exact absurd (List.cons.inj h).1 (by decide)
      | cons m' members' =>
          simp only [moreMembers, List.cons_append, List.append_assoc, List.cons.injEq, true_and] at h
          obtain ⟨hname, hform, hmore⟩ := memberChars_append_inj hread.1
            (ends_moreMembers members rest) (ends_moreMembers members' rest') h
          obtain ⟨hmembers, hend⟩ := ih hread.2 hmore
          exact ⟨by rw [formMembers, formMembers, hname, hform, hmembers], hend⟩

/-- An array is readable when its items are. -/
theorem readable_arr {items : List Json} (hread : ∀ item ∈ items, Readable item) :
    Readable (.arr items) := by
  intro j' rest rest' hrest hrest' h
  have hkind := kind_eq_of_append_eq hrest hrest' h
  cases j' with
  | arr items' =>
      match items, items' with
      | [], [] => exact ⟨rfl, List.append_cancel_left h⟩
      | [], item' :: items' =>
          -- no item starts with the closing bracket
          simp only [chars_arr_nil, chars_arr_cons, List.cons_append, List.nil_append,
            List.append_assoc, List.cons.injEq, true_and] at h
          exact absurd h.symm (chars_append_ne (ends_moreItems items' rest'))
      | item :: items, [] =>
          simp only [chars_arr_nil, chars_arr_cons, List.cons_append, List.nil_append,
            List.append_assoc, List.cons.injEq, true_and] at h
          exact absurd h (chars_append_ne (ends_moreItems items rest))
      | item :: items, item' :: items' =>
          rw [List.forall_mem_cons] at hread
          simp only [chars_arr_cons, List.cons_append, List.nil_append, List.append_assoc,
            List.cons.injEq, true_and] at h
          obtain ⟨hitem, hmore⟩ := hread.1 (ends_moreItems items rest) (ends_moreItems items' rest') h
          obtain ⟨hitems, hend⟩ := moreItems_append_inj hread.2 hmore
          exact ⟨by rw [form, form, formItems, formItems, hitem, hitems], hend⟩
  | _ => exact absurd hkind (by simp [kind])

/-- An object is readable when its members are. -/
theorem readable_obj {members : List (String × Json)} (hread : ∀ m ∈ members, Readable m.2) :
    Readable (.obj members) := by
  intro j' rest rest' hrest hrest' h
  have hkind := kind_eq_of_append_eq hrest hrest' h
  cases j' with
  | obj members' =>
      match members, members' with
      | [], [] => exact ⟨rfl, List.append_cancel_left h⟩
      | [], (name', value') :: members' =>
          rw [chars_obj_nil, chars_obj_cons, memberChars, toList_quote] at h
          exact absurd (List.cons.inj (List.cons.inj h).2).1 (by decide)
      | (name, value) :: members, [] =>
          rw [chars_obj_nil, chars_obj_cons, memberChars, toList_quote] at h
          exact absurd (List.cons.inj (List.cons.inj h).2).1 (by decide)
      | (name, value) :: members, (name', value') :: members' =>
          rw [List.forall_mem_cons] at hread
          simp only [chars_obj_cons, List.cons_append, List.nil_append, List.append_assoc,
            List.cons.injEq, true_and] at h
          obtain ⟨hname, hform, hmore⟩ := memberChars_append_inj hread.1
            (ends_moreMembers members rest) (ends_moreMembers members' rest') h
          obtain ⟨hmembers, hend⟩ := moreMembers_append_inj hread.2 hmore
          exact ⟨by rw [form, form, formMembers, formMembers, hname, hform, hmembers], hend⟩
  | _ => exact absurd hkind (by simp [kind])

/-- Induction over values, down to the items of arrays and the values of members. -/
@[elab_as_elim]
theorem inductOn {motive : Json → Prop} (j : Json) (null : motive .null)
    (bool : ∀ b, motive (.bool b)) (int : ∀ n, motive (.int n)) (float : ∀ x, motive (.float x))
    (str : ∀ s, motive (.str s)) (arr : ∀ items, (∀ item ∈ items, motive item) → motive (.arr items))
    (obj : ∀ members, (∀ m ∈ members, motive m.2) → motive (.obj members)) : motive j :=
  @Json.rec motive (fun items => ∀ item ∈ items, motive item)
    (fun members => ∀ m ∈ members, motive m.2) (fun m => motive m.2) null bool int float str arr obj
    (List.forall_mem_nil _) (fun _ _ hitem hrest => List.forall_mem_cons.2 ⟨hitem, hrest⟩)
    (List.forall_mem_nil _) (fun _ _ hm hrest => List.forall_mem_cons.2 ⟨hm, hrest⟩)
    (fun _ _ hvalue => hvalue) j

/-- **The text of every value tells its form** and where it ends. -/
theorem readable (j : Json) : Readable j := by
  induction j using inductOn with
  | null =>
      intro j' rest rest' hrest hrest' h
      have hkind := kind_eq_of_append_eq hrest hrest' h
      cases j' with
      | null => exact ⟨rfl, List.append_cancel_left h⟩
      | _ => exact absurd hkind (by simp [kind])
  | bool b =>
      intro j' rest rest' hrest hrest' h
      have hkind := kind_eq_of_append_eq hrest hrest' h
      cases j' with
      | bool b' =>
          cases b <;> cases b'
          · exact ⟨rfl, List.append_cancel_left h⟩
          · exact absurd (List.cons.inj h).1 (by decide)
          · exact absurd (List.cons.inj h).1 (by decide)
          · exact ⟨rfl, List.append_cancel_left h⟩
      | _ => exact absurd hkind (by simp [kind])
  | int m =>
      intro j' rest rest' hrest hrest' h
      have hkind := kind_eq_of_append_eq hrest hrest' h
      cases j' with
      | int n =>
          -- a numeral goes as far as its characters do, so both end at the same place
          obtain ⟨htext, hend⟩ := (isWord_int m).append_inj (isWord_int n) hrest hrest' h
          exact ⟨congrArg Form.int (toString_int_inj (String.toList_inj.1 htext)), hend⟩
      | _ => exact absurd hkind (by simp [kind])
  | float x =>
      intro j' rest rest' hrest hrest' h
      have hkind := kind_eq_of_append_eq hrest hrest' h
      cases j' with
      | float y =>
          obtain ⟨htext, hend⟩ := (isWord_float x).append_inj (isWord_float y) hrest hrest' h
          exact ⟨congrArg Form.float (String.toList_inj.1 htext), hend⟩
      | _ => exact absurd hkind (by simp [kind])
  | str s =>
      intro j' rest rest' hrest hrest' h
      have hkind := kind_eq_of_append_eq hrest hrest' h
      cases j' with
      | str t =>
          obtain ⟨hunits, hend⟩ := quote_append_inj h
          exact ⟨congrArg Form.str hunits, hend⟩
      | _ => exact absurd hkind (by simp [kind])
  | arr items ih => exact readable_arr ih
  | obj members ih => exact readable_obj ih

/-! ## One text for one form -/

/-- Items of the same forms have the same texts, when each item has. -/
theorem renderItems_eq_of_formItems_eq {items items' : List Json}
    (htext : ∀ item ∈ items, ∀ {j'}, form item = form j' → render .spaced item = render .spaced j')
    (h : formItems items = formItems items') :
    renderItems .spaced items = renderItems .spaced items' := by
  induction items generalizing items' with
  | nil =>
      cases items' with
      | nil => rfl
      | cons item' items' => exact absurd h (by simp [formItems])
  | cons item items ih =>
      rw [List.forall_mem_cons] at htext
      cases items' with
      | nil => exact absurd h (by simp [formItems])
      | cons item' items' =>
          obtain ⟨hitem, hitems⟩ := List.cons.inj h
          rw [renderItems, renderItems, htext.1 hitem, ih htext.2 hitems]

/-- Members of the same names and forms have the same texts, when each value has. -/
theorem renderMembers_eq_of_formMembers_eq {members members' : List (String × Json)}
    (htext : ∀ m ∈ members, ∀ {j'}, form m.2 = form j' → render .spaced m.2 = render .spaced j')
    (h : formMembers members = formMembers members') :
    renderMembers .spaced members = renderMembers .spaced members' := by
  induction members generalizing members' with
  | nil =>
      cases members' with
      | nil => rfl
      | cons m' members' => exact absurd h (by simp [formMembers])
  | cons m members ih =>
      rw [List.forall_mem_cons] at htext
      cases members' with
      | nil => exact absurd h (by simp [formMembers])
      | cons m' members' =>
          obtain ⟨hm, hmembers⟩ := List.cons.inj h
          obtain ⟨hname, hvalue⟩ := Prod.mk.inj hm
          have hquote : quote JsonLayout.spaced.ascii m.1 = quote JsonLayout.spaced.ascii m'.1 :=
            quote_eq_of_units_eq hname
          rw [renderMembers, renderMembers, hquote, htext.1 hvalue, ih htext.2 hmembers]

/-- Values of one form have one text. -/
theorem render_eq_of_form_eq {j j' : Json} (h : form j = form j') :
    render .spaced j = render .spaced j' := by
  induction j using inductOn generalizing j' with
  | null =>
      cases j' with
      | null => rfl
      | _ => simp [form] at h
  | bool b =>
      cases j' with
      | bool b' => rw [Form.bool.inj h]
      | _ => simp [form] at h
  | int m =>
      cases j' with
      | int n => rw [Form.int.inj h]
      | _ => simp [form] at h
  | float x =>
      cases j' with
      | float y => exact Form.float.inj h
      | _ => simp [form] at h
  | str s =>
      cases j' with
      | str t => exact quote_eq_of_units_eq (Form.str.inj h)
      | _ => simp [form] at h
  | arr items ih =>
      cases j' with
      | arr items' => rw [render, render, renderItems_eq_of_formItems_eq ih (Form.arr.inj h)]
      | _ => simp [form] at h
  | obj members ih =>
      cases j' with
      | obj members' => rw [render, render, renderMembers_eq_of_formMembers_eq ih (Form.obj.inj h)]
      | _ => simp [form] at h

/-- **Two values have one text just when they have one form.** -/
theorem render_eq_iff {j j' : Json} : render .spaced j = render .spaced j' ↔ form j = form j' := by
  constructor
  · intro h
    have happend : chars j ++ [] = chars j' ++ [] := by rw [chars, chars, h]
    exact (readable j ends_nil ends_nil happend).1
  · exact render_eq_of_form_eq

/-! ## What no text has -/

/-- A word of numbers has no null character. -/
theorem null_not_mem_of_isNumberChar {word : List Char} (h : ∀ c ∈ word, isNumberChar c = true) :
    '\x00' ∉ word := fun hmem => absurd (h _ hmem) (by decide)

/-- Further items have no null character in their text when none of them has. -/
theorem null_not_mem_moreItems {items : List Json} (h : ∀ item ∈ items, '\x00' ∉ chars item) :
    '\x00' ∉ moreItems items := by
  induction items with
  | nil => exact List.not_mem_nil
  | cons item items ih =>
      rw [List.forall_mem_cons] at h
      simp [moreItems, h.1, ih h.2]

/-- Further members have no null character in their text when none of their values has. -/
theorem null_not_mem_moreMembers {members : List (String × Json)}
    (h : ∀ m ∈ members, '\x00' ∉ chars m.2) : '\x00' ∉ moreMembers members := by
  induction members with
  | nil => exact List.not_mem_nil
  | cons m members ih =>
      rw [List.forall_mem_cons] at h
      simp [moreMembers, memberChars, null_not_mem_quote, h.1, ih h.2]

/-- The text of a value has no null character. -/
theorem null_not_mem_chars (j : Json) : '\x00' ∉ chars j := by
  induction j using inductOn with
  | null => decide
  | bool b => cases b <;> decide
  | int n =>
      exact null_not_mem_of_isNumberChar fun _ hc => isNumberChar_of_isWholeChar (isWholeChar_of_mem hc)
  | float x => exact null_not_mem_of_isNumberChar fun _ hc => isNumberChar_of_mem_render hc
  | str s => exact null_not_mem_quote s
  | arr items ih =>
      cases items with
      | nil => rw [chars_arr_nil]; decide
      | cons item items =>
          rw [List.forall_mem_cons] at ih
          simp [chars_arr_cons, ih.1, null_not_mem_moreItems ih.2]
  | obj members ih =>
      cases members with
      | nil => rw [chars_obj_nil]; decide
      | cons m members =>
          obtain ⟨name, value⟩ := m
          rw [List.forall_mem_cons] at ih
          simp [chars_obj_cons, memberChars, null_not_mem_quote, ih.1, null_not_mem_moreMembers ih.2]

end Json
end SearchTables
