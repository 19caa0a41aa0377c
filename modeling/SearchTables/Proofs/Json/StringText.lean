import SearchTables.Json.Printer
import SearchTables.Json.Reader
import SearchTables.Proofs.Text.LikeReadings

/-! # JSON strings — what their text says

A JSON string in ASCII writes a text unit by unit, where the **units** of a text are those of UTF-16: a
code point beyond the first plane has two of them. The text of each unit can be told from what comes
after it (`takeUnit?_unitText`), so the text of a string gives back its units and where it ends
(`quote_append_inj`). -/

namespace SearchTables

namespace Text

/-- The UTF-16 units of a code point. -/
def unitsOf (n : Nat) : List Nat :=
  if n < 0x10000 then [n] else [0xd800 + (n - 0x10000) / 0x400, 0xdc00 + (n - 0x10000) % 0x400]

/-- The UTF-16 **units** of a text. A pair of halves that stand alone has the units of the character
that they would make. -/
def units (s : String) : List Nat := (codePoints s).flatMap unitsOf

/-- The units of a code point have sixteen bits. -/
theorem lt_of_mem_unitsOf {n u : Nat} (bound : n < 0x110000) (h : u ∈ unitsOf n) : u < 0x10000 := by
  rw [unitsOf] at h
  split at h
  · obtain rfl := List.mem_singleton.1 h
    assumption
  · simp only [List.mem_cons, List.not_mem_nil, or_false] at h
    omega

/-- The units of a text have sixteen bits. -/
theorem lt_of_mem_units {s : String} {u : Nat} (h : u ∈ units s) : u < 0x10000 := by
  obtain ⟨n, hn, hu⟩ := List.mem_flatMap.1 h
  exact lt_of_mem_unitsOf (lt_of_mem_codesOf hn) hu

/-- A hexadecimal digit is read back. -/
theorem hexDigit?_hexDigit (n : Nat) : hexDigit? (hexDigit n) = some (n % 16) := by
  have hall : ∀ d < 16, hexDigit? (hexDigit d) = some d := by decide
  have hmod : hexDigit n = hexDigit (n % 16) := by simp [hexDigit]
  rw [hmod]
  exact hall _ (Nat.mod_lt _ (by decide))

/-- The digits of a number are hexadecimal digits. -/
theorem hexDigit?_ne_none_of_mem {width n : Nat} {c : Char} (h : c ∈ hexDigits width n) :
    hexDigit? c ≠ none := by
  obtain ⟨place, -, rfl⟩ := List.mem_map.1 h
  rw [hexDigit?_hexDigit]
  exact Option.some_ne_none _

end Text

namespace Json

/-! ## Units -/

/-- The text of a unit in a JSON string in ASCII. -/
def unitText (u : Nat) : List Char := stringCode true u

/-- Only a code point itself gives its character, the null character apart. -/
theorem eq_toNat_of_ofNat_eq {n : Nat} {c : Char} (h : Char.ofNat n = c) (hc : c ≠ '\x00') :
    n = c.toNat := by
  subst h
  by_cases hvalid : n.isValidChar
  · rw [Char.ofNat, dif_pos hvalid]
    rfl
  · rw [Char.ofNat, dif_neg hvalid] at hc
    exact absurd rfl hc

/-- **The text of a unit** is a backslash with a letter, a backslash with four digits, or the character
itself. -/
theorem unitText_cases {u : Nat} (bound : u < 0x10000) :
    (∃ c d, unitText u = ['\\', c] ∧ c ≠ 'u' ∧ simpleEscape? c = some d ∧ d.toNat = u) ∨
      unitText u = '\\' :: 'u' :: Text.hexDigits 4 u ∨
      ∃ c, unitText u = [c] ∧ c.toNat = u ∧ 0x20 ≤ u ∧ c ≠ '\\' ∧ c ≠ '"' := by
  have hself : ∀ {c : Char}, Char.ofNat u = c → c ≠ '\x00' → c.toNat = u := fun h hc =>
    (eq_toNat_of_ofNat_eq h hc).symm
  rw [unitText, stringCode]
  split
  · rename_i hspecial
    rcases hspecial with h | h
    · exact .inl ⟨'"', '"', by rw [h], by decide, rfl, hself h (by decide)⟩
    · exact .inl ⟨'\\', '\\', by rw [h], by decide, rfl, hself h (by decide)⟩
  rename_i hplain
  split
  · rename_i h
    exact .inl ⟨'n', '\n', rfl, by decide, rfl, hself h (by decide)⟩
  split
  · rename_i h
    exact .inl ⟨'r', '\r', rfl, by decide, rfl, hself h (by decide)⟩
  split
  · rename_i h
    exact .inl ⟨'t', '\t', rfl, by decide, rfl, hself h (by decide)⟩
  split
  · rename_i h
    exact .inl ⟨'b', '\x08', rfl, by decide, rfl, hself h (by decide)⟩
  split
  · rename_i h
    exact .inl ⟨'f', '\x0c', rfl, by decide, rfl, hself h (by decide)⟩
  split
  · rw [escapeCode, if_pos bound]
    exact .inr (.inl rfl)
  · -- what is left is printable ASCII
    rename_i hprintable
    have hbounds : 0x20 ≤ u ∧ u < 0x7f := by simpa [not_or] using hprintable
    have hhalf : Text.isHalf u = false := by
      simp only [Text.isHalf, decide_eq_false_iff_not]
      omega
    have hmark : Text.isMark u = false := by
      simp only [Text.isMark, decide_eq_false_iff_not]
      omega
    rw [not_or] at hplain
    refine .inr (.inr ⟨Char.ofNat u, ?_, Text.toNat_ofNat (by omega) (by omega), hbounds.1, hplain.2,
      hplain.1⟩)
    rw [Text.written, hhalf, hmark]
    rfl

/-- The unit at the start of a text, and what is left of the text. -/
def takeUnit? : List Char → Option (Nat × List Char)
  | [] => none
  | '\\' :: 'u' :: rest => takeHex4? rest
  | '\\' :: c :: rest => (simpleEscape? c).map fun c => (c.toNat, rest)
  | c :: rest => some (c.toNat, rest)

/-- Four digits are read back as the unit that they write. -/
theorem takeHex4?_hexDigits {u : Nat} (bound : u < 0x10000) (rest : List Char) :
    takeHex4? (Text.hexDigits 4 u ++ rest) = some (u, rest) := by
  have hdigits : Text.hexDigits 4 u = [Text.hexDigit (u / 4096), Text.hexDigit (u / 256),
      Text.hexDigit (u / 16), Text.hexDigit u] := by
    simp [Text.hexDigits, List.range, List.range.loop]
  rw [hdigits]
  simp only [List.cons_append, List.nil_append, takeHex4?, Text.hexDigit?_hexDigit, Option.some.injEq,
    Prod.mk.injEq, and_true]
  omega

/-- **A unit is read back from its text**, whatever comes after it. -/
theorem takeUnit?_unitText {u : Nat} (bound : u < 0x10000) (rest : List Char) :
    takeUnit? (unitText u ++ rest) = some (u, rest) := by
  rcases unitText_cases bound with ⟨c, d, htext, hc, hescape, hd⟩ | htext | ⟨c, htext, hc, -, hslash, -⟩
  · rw [htext]
    simp only [List.cons_append, List.nil_append]
    rw [takeUnit?.eq_3 _ _ hc, hescape, Option.map_some, hd]
  · rw [htext]
    exact takeHex4?_hexDigits bound rest
  · rw [htext]
    simp [takeUnit?, hslash, hc]

/-- No unit is written with a quote at its start. -/
theorem unitText_append_ne {u : Nat} (bound : u < 0x10000) {rest more : List Char} :
    unitText u ++ rest ≠ '"' :: more := by
  intro h
  rcases unitText_cases bound with ⟨c, d, htext, -⟩ | htext | ⟨c, htext, -, -, -, hquote⟩
  · rw [htext] at h
    exact absurd (List.cons.inj h).1 (by decide)
  · rw [htext] at h
    exact absurd (List.cons.inj h).1 (by decide)
  · rw [htext] at h
    exact hquote (List.cons.inj h).1

/-- **The texts of units up to a quote give back the units** and what comes after the quote. -/
theorem flatMap_unitText_inj {us vs : List Nat} (hus : ∀ u ∈ us, u < 0x10000)
    (hvs : ∀ v ∈ vs, v < 0x10000) {rest rest' : List Char}
    (h : us.flatMap unitText ++ '"' :: rest = vs.flatMap unitText ++ '"' :: rest') :
    us = vs ∧ rest = rest' := by
  induction us generalizing vs with
  | nil =>
      cases vs with
      | nil => exact ⟨rfl, (List.cons.inj h).2⟩
      | cons v vs =>
          rw [List.flatMap_cons, List.append_assoc] at h
          exact absurd h.symm (unitText_append_ne (hvs v (List.mem_cons_self ..)))
  | cons u us ih =>
      rw [List.forall_mem_cons] at hus
      rw [List.flatMap_cons, List.append_assoc] at h
      cases vs with
      | nil => exact absurd h (unitText_append_ne hus.1)
      | cons v vs =>
          rw [List.forall_mem_cons] at hvs
          rw [List.flatMap_cons, List.append_assoc] at h
          -- both texts start with the same unit
          have hread := takeUnit?_unitText hus.1 (us.flatMap unitText ++ '"' :: rest)
          rw [h, takeUnit?_unitText hvs.1] at hread
          obtain ⟨rfl, hrest⟩ := Prod.mk.inj (Option.some.inj hread)
          obtain ⟨rfl, hend⟩ := ih hus.2 hvs.2 hrest.symm
          exact ⟨rfl, hend⟩

/-! ## Strings -/

/-- Beyond the first code points everything is written with digits. -/
theorem stringCode_of_le {n : Nat} (bound : 0x7f ≤ n) : stringCode true n = escapeCode n := by
  have hne : ∀ c : Char, c ≠ '\x00' → c.toNat < 0x7f → Char.ofNat n ≠ c := by
    intro c hnull hc h
    have hn := eq_toNat_of_ofNat_eq h hnull
    omega
  rw [stringCode]
  rw [if_neg (not_or.2 ⟨hne _ (by decide) (by decide), hne _ (by decide) (by decide)⟩),
    if_neg (hne _ (by decide) (by decide)), if_neg (hne _ (by decide) (by decide)),
    if_neg (hne _ (by decide) (by decide)), if_neg (hne _ (by decide) (by decide)),
    if_neg (hne _ (by decide) (by decide)), if_pos (.inr ⟨rfl, bound⟩)]

/-- A code point is written as its units. -/
theorem stringCode_eq {n : Nat} (bound : n < 0x110000) :
    stringCode true n = (Text.unitsOf n).flatMap unitText := by
  rw [Text.unitsOf]
  split
  · simp [unitText]
  · rename_i hlarge
    have hunit : ∀ u, 0x7f ≤ u → u < 0x10000 → unitText u = escapeUnit u := by
      intro u hleast hmost
      rw [unitText, stringCode_of_le hleast, escapeCode, if_pos hmost]
    rw [stringCode_of_le (by omega), escapeCode, if_neg hlarge, List.flatMap_cons,
      List.flatMap_singleton, hunit _ (by omega) (by omega), hunit _ (by omega) (by omega)]

/-- The text of a string in ASCII: its units between quotes. -/
theorem toList_quote (s : String) :
    (quote true s).toList = '"' :: (Text.units s).flatMap unitText ++ ['"'] := by
  have hcodes : (Text.codePoints s).flatMap (stringCode true) =
      (Text.units s).flatMap unitText := by
    rw [Text.units, List.flatMap_assoc]
    exact List.flatMap_congr fun n hn => stringCode_eq (Text.lt_of_mem_codesOf hn)
  rw [quote, String.toList_ofList, hcodes]

/-- **The text of a string gives back its units**, and where it ends. -/
theorem quote_append_inj {s t : String} {rest rest' : List Char}
    (h : (quote true s).toList ++ rest = (quote true t).toList ++ rest') :
    Text.units s = Text.units t ∧ rest = rest' := by
  simp only [toList_quote, List.cons_append, List.append_assoc, List.nil_append, List.cons.injEq,
    true_and] at h
  exact flatMap_unitText_inj (fun _ => Text.lt_of_mem_units) (fun _ => Text.lt_of_mem_units) h

/-- Strings with the same units have one text. -/
theorem quote_eq_of_units_eq {s t : String} (h : Text.units s = Text.units t) :
    quote true s = quote true t := by
  rw [← String.toList_inj, toList_quote, toList_quote, h]

/-- A unit has no null character in its text. -/
theorem null_not_mem_unitText {u : Nat} (bound : u < 0x10000) : '\x00' ∉ unitText u := by
  intro h
  rcases unitText_cases bound with
    ⟨c, d, htext, -, hescape, -⟩ | htext | ⟨c, htext, hc, hleast, -, -⟩
  · obtain h | rfl : '\x00' = '\\' ∨ '\x00' = c := by simpa [htext] using h
    · exact absurd h (by decide)
    · have hnone : simpleEscape? '\x00' = none := by decide
      exact Option.some_ne_none _ (hescape.symm.trans hnone)
  · have hdigits : '\x00' ∈ Text.hexDigits 4 u := by simpa [htext] using h
    exact Text.hexDigit?_ne_none_of_mem hdigits (by decide)
  · obtain rfl : '\x00' = c := by simpa [htext] using h
    have hzero : ('\x00' : Char).toNat = 0 := rfl
    omega

/-- A string has no null character in its text. -/
theorem null_not_mem_quote (s : String) : '\x00' ∉ (quote true s).toList := by
  intro h
  rw [toList_quote, List.cons_append, List.mem_cons, List.mem_append, List.mem_flatMap] at h
  rcases h with h | ⟨u, hu, h⟩ | h
  · exact absurd h (by decide)
  · exact null_not_mem_unitText (Text.lt_of_mem_units hu) h
  · exact absurd h (by decide)

end Json
end SearchTables
