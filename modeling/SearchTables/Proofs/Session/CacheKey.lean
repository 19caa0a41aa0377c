import SearchTables.Cache
import SearchTables.Proofs.Json.KeyOrder

/-! # Cache keys — what they tell apart

The key of a schema joins nine texts by null characters. Whole numbers, flags and base queries have no
null character in their texts, so wherever the free-form texts have none either the key tells all of its
parts (`cacheKey_eq_iff`). What it does not tell is whether empty credentials are sent or none at all
(`cacheKey_empty_credentials`), and with null characters in them two users can have one key
(`cacheKey_shifted_credentials`). -/

namespace SearchTables

/-! ## Parts -/

/-- The text of a flag in a key. -/
def flagText (flag : Bool) : String := if flag then "1" else "0"

/-- The text of a base query in a key. -/
def queryText (baseQuery : Option Json) : String :=
  match baseQuery.filter Json.isGiven with
  | some q => q.sortNames.render .spaced
  | none => ""

/-- Two base queries ask for the same: both for nothing, or for what is alike. -/
def SameQuery (q q' : Option Json) : Prop :=
  match q.filter Json.isGiven, q'.filter Json.isGiven with
  | some j, some j' => j.Alike j'
  | none, none => True
  | _, _ => False

/-- The text of a flag tells the flag. -/
theorem flagText_inj {b b' : Bool} (h : flagText b = flagText b') : b = b' := by
  revert h
  cases b <;> cases b' <;> decide

/-- **The text of a base query tells what it asks for.** -/
theorem queryText_eq_iff {q q' : Option Json} : queryText q = queryText q' ↔ SameQuery q q' := by
  -- no value is written as nothing, so a query that is given is told from none
  have hne : ∀ j : Json, j.render .spaced ≠ "" := by
    intro j h
    have hkind := Json.leadingKind?_chars j Json.ends_nil
    rw [Json.chars, h] at hkind
    exact absurd hkind (by simp [Json.leadingKind?, Json.leadingWord, Json.wordKind?])
  rw [queryText, queryText, SameQuery]
  cases q.filter Json.isGiven with
  | none =>
      cases q'.filter Json.isGiven with
      | none => simp
      | some j' => simpa using (hne _).symm
  | some j =>
      cases q'.filter Json.isGiven with
      | none => simpa using hne _
      | some j' => exact Json.render_sortNames_eq_iff

/-- The texts in a key after the index that have no null character. -/
theorem null_not_mem_queryText (q : Option Json) : '\x00' ∉ (queryText q).toList := by
  rw [queryText]
  split
  · exact Json.null_not_mem_chars _
  · exact List.not_mem_nil

/-- The text of a flag has no null character. -/
theorem null_not_mem_flagText (b : Bool) : '\x00' ∉ (flagText b).toList := by
  cases b <;> decide

/-- The text of a whole number has no null character. -/
theorem null_not_mem_toString (n : Int) : '\x00' ∉ (toString n).toList :=
  Json.null_not_mem_chars (.int n)

/-! ## Joined texts -/

/-- Up to the first mark two texts agree. -/
theorem append_mark_inj {mark : Char} {front front' rest rest' : List Char} (h : mark ∉ front)
    (h' : mark ∉ front') (heq : front ++ mark :: rest = front' ++ mark :: rest') :
    front = front' ∧ rest = rest' := by
  induction front generalizing front' with
  | nil =>
      cases front' with
      | nil => exact ⟨rfl, (List.cons.inj heq).2⟩
      | cons c front' => exact absurd ((List.cons.inj heq).1 ▸ List.mem_cons_self ..) h'
  | cons c front ih =>
      cases front' with
      | nil => exact absurd ((List.cons.inj heq).1 ▸ List.mem_cons_self ..) h
      | cons c' front' =>
          obtain ⟨rfl, htail⟩ := List.cons.inj heq
          obtain ⟨rfl, hrest⟩ := ih (fun hm => h (List.mem_cons_of_mem _ hm))
            (fun hm => h' (List.mem_cons_of_mem _ hm)) htail
          exact ⟨rfl, hrest⟩

/-- After the last mark two texts agree. -/
theorem mark_append_inj {mark : Char} {back back' rest rest' : List Char} (h : mark ∉ back)
    (h' : mark ∉ back') (heq : rest ++ mark :: back = rest' ++ mark :: back') :
    rest = rest' ∧ back = back' := by
  have hreverse := congrArg List.reverse heq
  simp only [List.reverse_append, List.reverse_cons, List.append_assoc, List.cons_append,
    List.nil_append] at hreverse
  obtain ⟨hback, hrest⟩ := append_mark_inj (by rwa [List.mem_reverse]) (by rwa [List.mem_reverse])
    hreverse
  exact ⟨List.reverse_injective hrest, List.reverse_injective hback⟩

/-- The characters of the parts of a key from the port to the base query, which vary between sessions
of one user. -/
def aimChars (c : Connection) (index : String) (baseQuery : Option Json) : List Char :=
  (toString c.port).toList ++ '\x00' :: (index.toList ++ '\x00' :: (queryText baseQuery).toList)

/-- The characters of user and password in a key. -/
def userChars (c : Connection) : List Char :=
  (c.username.getD "").toList ++ '\x00' :: (c.password.getD "").toList

/-- The characters of a key. -/
theorem toList_cacheKey (c : Connection) (index : String) (baseQuery : Option Json) (size : Int) :
    (cacheKey c index baseQuery size).toList =
      ((((c.host.toList ++ '\x00' :: (aimChars c index baseQuery ++ '\x00' :: userChars c)) ++
        '\x00' :: (flagText c.useSsl).toList) ++ '\x00' :: (flagText c.verifySsl).toList) ++
          '\x00' :: (toString size).toList) := by
  have hparts : cacheKey c index baseQuery size = "\x00".intercalate [c.host, toString c.port, index,
      queryText baseQuery, c.username.getD "", c.password.getD "", flagText c.useSsl,
      flagText c.verifySsl, toString size] := rfl
  rw [hparts, String.toList_intercalate]
  simp [aimChars, userChars, List.intercalate_cons_cons, List.intercalate_singleton]

/-! ## What a key tells -/

section

variable {c c' : Connection} {index index' : String} {q q' : Option Json} {size size' : Int}

/-- Every key tells the flags and the sample size, and the texts in front of them as a whole. -/
theorem flags_of_cacheKey_eq (h : cacheKey c index q size = cacheKey c' index' q' size') :
    c.useSsl = c'.useSsl ∧ c.verifySsl = c'.verifySsl ∧ size = size' ∧
      c.host.toList ++ '\x00' :: (aimChars c index q ++ '\x00' :: userChars c) =
        c'.host.toList ++ '\x00' :: (aimChars c' index' q' ++ '\x00' :: userChars c') := by
  -- the marks are found from the end, where no part can hold one
  have hchars := congrArg String.toList h
  rw [toList_cacheKey, toList_cacheKey] at hchars
  obtain ⟨hverified, hsize⟩ :=
    mark_append_inj (null_not_mem_toString size) (null_not_mem_toString size') hchars
  obtain ⟨hused, hverify⟩ := mark_append_inj (null_not_mem_flagText _) (null_not_mem_flagText _) hverified
  obtain ⟨hfront, huse⟩ := mark_append_inj (null_not_mem_flagText _) (null_not_mem_flagText _) hused
  exact ⟨flagText_inj (String.toList_inj.1 huse), flagText_inj (String.toList_inj.1 hverify),
    toString_int_inj (String.toList_inj.1 hsize), hfront⟩

/-- The port, the index and the base query are told by their part of a key, whatever the index is. -/
theorem aimChars_inj (h : aimChars c index q = aimChars c' index' q') :
    c.port = c'.port ∧ index = index' ∧ SameQuery q q' := by
  obtain ⟨hport, hrest⟩ := append_mark_inj (null_not_mem_toString _) (null_not_mem_toString _) h
  obtain ⟨hindex, hquery⟩ :=
    mark_append_inj (null_not_mem_queryText _) (null_not_mem_queryText _) hrest
  exact ⟨toString_int_inj (String.toList_inj.1 hport), String.toList_inj.1 hindex,
    queryText_eq_iff.1 (String.toList_inj.1 hquery)⟩

/-- Equal parts make one key. -/
theorem cacheKey_congr (hhost : c.host = c'.host) (hport : c.port = c'.port) (hindex : index = index')
    (hquery : SameQuery q q') (huser : c.username.getD "" = c'.username.getD "")
    (hpassword : c.password.getD "" = c'.password.getD "") (huse : c.useSsl = c'.useSsl)
    (hverify : c.verifySsl = c'.verifySsl) (hsize : size = size') :
    cacheKey c index q size = cacheKey c' index' q' size' := by
  rw [← String.toList_inj, toList_cacheKey, toList_cacheKey, aimChars, aimChars, userChars, userChars,
    hhost, hport, hindex, queryText_eq_iff.2 hquery, huser, hpassword, huse, hverify, hsize]

/-- Whether the free-form texts of a key have no null character. -/
structure Separable (c : Connection) (index : String) : Prop where
  host : '\x00' ∉ c.host.toList
  index : '\x00' ∉ index.toList
  username : '\x00' ∉ (c.username.getD "").toList
  password : '\x00' ∉ (c.password.getD "").toList

/-- In a connection that can be used user and password go together. -/
theorem credentials_of_check (h : c.check = .ok ()) :
    c.credentials?.getD ("", "") = (c.username.getD "", c.password.getD "") := by
  have hpaired : c.username.isSome = c.password.isSome := by
    unfold Connection.check at h
    split at h
    · exact absurd h (by simp)
    · split at h
      · assumption
      · exact absurd h (by simp)
  rw [Connection.credentials?]
  cases huser : c.username <;> cases hpassword : c.password <;> simp [huser, hpassword] at hpaired ⊢

/-- **A key tells all of its parts** when no free-form text has a null character: for connections that
can be used, the keys are equal just when everything that goes into them is, where no credentials count
as empty ones. -/
theorem cacheKey_eq_iff (hc : c.check = .ok ()) (hc' : c'.check = .ok ()) (hsep : Separable c index)
    (hsep' : Separable c' index') :
    cacheKey c index q size = cacheKey c' index' q' size' ↔
      c.host = c'.host ∧ c.port = c'.port ∧ index = index' ∧ SameQuery q q' ∧
        c.credentials?.getD ("", "") = c'.credentials?.getD ("", "") ∧
        c.useSsl = c'.useSsl ∧ c.verifySsl = c'.verifySsl ∧ size = size' := by
  rw [credentials_of_check hc, credentials_of_check hc', Prod.mk.injEq]
  constructor
  · intro h
    obtain ⟨huse, hverify, hsize, hfront⟩ := flags_of_cacheKey_eq h
    obtain ⟨hhost, hrest⟩ := append_mark_inj hsep.host hsep'.host hfront
    -- a user and a password hold no mark, so these two come off the end as well
    rw [userChars, userChars, ← List.cons_append, ← List.cons_append, ← List.append_assoc,
      ← List.append_assoc] at hrest
    obtain ⟨hrest, hpassword⟩ := mark_append_inj hsep.password hsep'.password hrest
    obtain ⟨haims, huser⟩ := mark_append_inj hsep.username hsep'.username hrest
    obtain ⟨hport, hindex, hquery⟩ := aimChars_inj haims
    exact ⟨String.toList_inj.1 hhost, hport, hindex, hquery,
      ⟨String.toList_inj.1 huser, String.toList_inj.1 hpassword⟩, huse, hverify, hsize⟩
  · rintro ⟨hhost, hport, hindex, hquery, ⟨huser, hpassword⟩, huse, hverify, hsize⟩
    exact cacheKey_congr hhost hport hindex hquery huser hpassword huse hverify hsize

/-- **One user's keys tell where the schema comes from**, whatever the texts are: between connections
with one host, user and password the keys are equal just when port, index, base query, flags and sample
size are. -/
theorem cacheKey_eq_iff_of_one_user (hhost : c.host = c'.host) (huser : c.username = c'.username)
    (hpassword : c.password = c'.password) :
    cacheKey c index q size = cacheKey c' index' q' size' ↔
      c.port = c'.port ∧ index = index' ∧ SameQuery q q' ∧ c.useSsl = c'.useSsl ∧
        c.verifySsl = c'.verifySsl ∧ size = size' := by
  constructor
  · intro h
    obtain ⟨huse, hverify, hsize, hfront⟩ := flags_of_cacheKey_eq h
    rw [userChars, userChars, hhost, huser, hpassword, List.append_cancel_left_eq, List.cons.injEq,
      List.append_cancel_right_eq] at hfront
    obtain ⟨hport, hindex, hquery⟩ := aimChars_inj hfront.2
    exact ⟨hport, hindex, hquery, huse, hverify, hsize⟩
  · rintro ⟨hport, hindex, hquery, huse, hverify, hsize⟩
    exact cacheKey_congr hhost hport hindex hquery (by rw [huser]) (by rw [hpassword]) huse hverify hsize

end

/-- Two users of one cluster never share a key. -/
theorem cacheKey_eq_iff_two_users :
    cacheKey { username := some "alice", password := some "a" } "docs" none 100 ≠
      cacheKey { username := some "bob", password := some "b" } "docs" none 100 := by
  have hcheck : ∀ user password : String,
      Connection.check { username := some user, password := some password } = .ok () := by
    intro user password
    have hblank : Text.isBlankText "localhost" = false := by decide
    simp [Connection.check, hblank]
  have hsep : ∀ user password : String, '\x00' ∉ user.toList → '\x00' ∉ password.toList →
      Separable { username := some user, password := some password } "docs" := by
    intro user password huser hpassword
    have hhost : '\x00' ∉ "localhost".toList := by decide
    exact ⟨hhost, by decide, huser, hpassword⟩
  intro h
  obtain ⟨-, -, -, -, hcredentials, -⟩ := (cacheKey_eq_iff (hcheck "alice" "a") (hcheck "bob" "b")
    (hsep _ _ (by decide) (by decide)) (hsep _ _ (by decide) (by decide))).1 h
  exact absurd hcredentials (by decide)

/-! ## What a key does not tell -/

/-- Empty credentials have the key of none. -/
theorem cacheKey_empty_credentials (c : Connection) (index : String) (q : Option Json) (size : Int) :
    cacheKey { c with username := some "", password := some "" } index q size =
      cacheKey { c with username := none, password := none } index q size := rfl

/-- A null character may belong to the user or to the password. -/
theorem cacheKey_shifted_credentials (c : Connection) (index : String) (q : Option Json) (size : Int)
    (front middle back : String) :
    cacheKey { c with username := some (front ++ "\x00" ++ middle), password := some back } index q size =
      cacheKey { c with username := some front, password := some (middle ++ "\x00" ++ back) } index q
        size := by
  rw [← String.toList_inj, toList_cacheKey, toList_cacheKey]
  simp [userChars, aimChars]

/-- Keys do not separate all users: two connections that can be used, one of them with credentials and
one without, have one key, and so have two with different credentials. -/
theorem not_separated_by_cacheKey :
    (∃ c c' : Connection, c.check = .ok () ∧ c'.check = .ok () ∧ c.credentials? = none ∧
      c'.credentials? = some ("", "") ∧ cacheKey c "docs" none 100 = cacheKey c' "docs" none 100) ∧
    ∃ c c' : Connection, c.check = .ok () ∧ c'.check = .ok () ∧
      c.credentials? = some ("a\x00b", "c") ∧ c'.credentials? = some ("a", "b\x00c") ∧
        cacheKey c "docs" none 100 = cacheKey c' "docs" none 100 := by
  have hblank : Text.isBlankText "localhost" = false := by decide
  have hcheck : ∀ c : Connection, c.host = "localhost" → c.username.isSome = c.password.isSome →
      c.check = .ok () := by
    intro c hhost hpaired
    simp [Connection.check, hhost, hblank, hpaired]
  refine ⟨⟨{}, { username := some "", password := some "" }, hcheck _ rfl rfl, hcheck _ rfl rfl, rfl,
    rfl, (cacheKey_empty_credentials {} "docs" none 100).symm⟩, ?_⟩
  exact ⟨_, _, hcheck { username := some "a\x00b", password := some "c" } rfl rfl,
    hcheck { username := some "a", password := some "b\x00c" } rfl rfl, rfl, rfl,
    cacheKey_shifted_credentials {} "docs" none 100 "a" "b" "c"⟩

end SearchTables
