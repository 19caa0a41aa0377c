import SearchTables.Calendar.Reader
import SearchTables.Proofs.Calendar.Instants
import SearchTables.Proofs.Decimal.NumberText
import SearchTables.Proofs.Json.PlainText
import SearchTables.Proofs.Text.Parts

/-! # Timestamp texts — what is written is read back

A part of a date or of a clock reading is written as a numeral of fixed width, and reading as many digits
gives the number and leaves what follows (`takeNat?_padded`). Put together, the date, the clock reading and
the distance from universal time are read back one after the other, and a timestamp whose distance is one
of whole seconds and less than a day is what its text says (`readDateTime?_text`). -/

namespace SearchTables

namespace Calendar

/-! ## Numerals of fixed width -/

/-- A digit of the library is an ASCII digit. -/
theorem asciiDigit?_of_isDigit {c : Char} (h : c.isDigit = true) :
    Text.asciiDigit? c = some (c.toNat - '0'.toNat) := by
  rw [Char.isDigit, Bool.and_eq_true, decide_eq_true_eq, decide_eq_true_eq] at h
  exact if_pos h

/-- Digits are read as their number, and what follows them is left. -/
theorem takeNat?_append {digits : List Char} (h : ∀ c ∈ digits, c.isDigit = true) (rest : List Char) :
    takeNat? digits.length (digits ++ rest) = some (Nat.ofDigitChars 10 digits 0, rest) := by
  induction digits with
  | nil => rfl
  | cons c digits ih =>
      rw [List.forall_mem_cons] at h
      have hvalue : Nat.ofDigitChars 10 (c :: digits) 0 =
          (c.toNat - '0'.toNat) * 10 ^ digits.length + Nat.ofDigitChars 10 digits 0 := by
        rw [Nat.ofDigitChars_cons, Nat.ofDigitChars_eq_ofDigitChars_zero, Nat.mul_zero, Nat.zero_add,
          Nat.mul_comm]
      rw [List.length_cons, List.cons_append, takeNat?, asciiDigit?_of_isDigit h.1, ih h.2, hvalue]
      rfl

section

variable {width n : Nat}

/-- A number that is not too large is padded to the width. -/
theorem length_padded (hwidth : 0 < width) (h : n < 10 ^ width) :
    (paddedNat width n).toList.length = width := by
  have hlength := (Nat.length_toDigits_le_iff (by decide) hwidth).2 h
  rw [paddedNat, String.toList_ofList, padZeros, List.length_append, List.length_replicate]
  omega

/-- A numeral of fixed width has digits only. -/
theorem isDigit_of_mem_padded {c : Char} (h : c ∈ (paddedNat width n).toList) : c.isDigit = true := by
  rw [paddedNat, String.toList_ofList] at h
  exact isDigit_of_mem_padZeros h

/-- **A numeral of fixed width is read back**, and what follows it is left. -/
theorem takeNat?_padded (hwidth : 0 < width) (h : n < 10 ^ width) (rest : List Char) :
    takeNat? width ((paddedNat width n).toList ++ rest) = some (n, rest) := by
  have hdigits : ∀ c ∈ (paddedNat width n).toList, c.isDigit = true := fun _ => isDigit_of_mem_padded
  have hread := takeNat?_append hdigits rest
  have hvalue : Nat.ofDigitChars 10 (paddedNat width n).toList 0 = n := by
    rw [paddedNat, String.toList_ofList, padZeros, Nat.ofDigitChars_append, Nat.ofDigitChars_replicate_zero,
      Nat.mul_zero, Nat.ofDigitChars_ten_toDigits]
  rwa [length_padded hwidth h, hvalue] at hread

/-- A numeral of fixed width starts with a digit. -/
theorem exists_padded_eq_cons (hwidth : 0 < width) (h : n < 10 ^ width) :
    ∃ c digits, (paddedNat width n).toList = c :: digits ∧ c.isDigit = true := by
  have hlength := length_padded hwidth h
  obtain ⟨c, digits, hcons⟩ := List.exists_cons_of_length_pos (by omega : 0 < (paddedNat width n).toList.length)
  exact ⟨c, digits, hcons, isDigit_of_mem_padded (hcons ▸ List.mem_cons_self ..)⟩

end

/-! ## Dates -/

/-- No month has more than 31 days. -/
theorem daysInMonth_le (year month : Nat) : daysInMonth year month ≤ 31 := by
  have hall : ∀ length ∈ monthLengths year, length ≤ 31 := by
    unfold monthLengths
    split <;> decide
  unfold daysInMonth
  cases hlength : (monthLengths year)[month - 1]? with
  | none => exact Nat.zero_le _
  | some length => exact hall length (List.mem_of_getElem? hlength)

/-- The characters of a date. -/
theorem toList_dateText (d : Date) :
    d.text.toList =
      (paddedNat 4 d.year).toList ++ '-' :: ((two d.month).toList ++ '-' :: (two d.day).toList) := by
  simp [Date.text]

/-- The parts of a date have no more digits than they are written with. -/
theorem lt_of_valid {d : Date} (h : d.Valid) : d.year < 10 ^ 4 ∧ d.month < 10 ^ 2 ∧ d.day < 10 ^ 2 := by
  obtain ⟨-, hyear, -, hmonth, -, hday⟩ := h
  have hlast := daysInMonth_le d.year d.month
  unfold lastYear at hyear
  omega

/-- **A date is read back.** -/
theorem readDate?_text {d : Date} (h : d.Valid) : readDate? d.text.toList = some d := by
  obtain ⟨hyear, hmonth, hday⟩ := lt_of_valid h
  have hmonthRead : readMonth? d.year true ((two d.month).toList ++ '-' :: (two d.day).toList) = some d := by
    have hlast := takeNat?_padded (by decide) hday []
    rw [List.append_nil] at hlast
    unfold readMonth? two
    rw [takeNat?_padded (by decide) hmonth]
    simp only [dropChar?, if_true, hlast]
    exact if_pos h
  rw [toList_dateText, readDate?, takeNat?_padded (by decide) hyear]
  simp only [List.head?_cons, List.drop_one, List.tail_cons, if_true, decide_true]
  -- the month starts with a digit, so no week follows
  obtain ⟨c, digits, hcons, hdigit⟩ := exists_padded_eq_cons (by decide) hmonth
  rw [two, hcons] at hmonthRead ⊢
  split
  · rename_i heq
    obtain rfl := (List.cons.inj heq).1
    cases hdigit
  · simpa using hmonthRead

/-- A date is written with ten characters. -/
theorem length_dateText {d : Date} (h : d.Valid) : d.text.toList.length = 10 := by
  obtain ⟨hyear, hmonth, hday⟩ := lt_of_valid h
  rw [toList_dateText]
  simp only [List.length_append, List.length_cons, two, length_padded (by decide) hyear,
    length_padded (by decide) hmonth, length_padded (by decide) hday]

/-- A date ends where it was written to end, when something follows. -/
theorem dateLength?_text {d : Date} (h : d.Valid) (rest : List Char) :
    dateLength? (d.text.toList ++ rest) = some 10 := by
  obtain ⟨hyear, hmonth, -⟩ := lt_of_valid h
  -- neither a week date nor a date of seven characters is written
  have hsize : (d.text.toList ++ rest).length ≠ 7 := by
    rw [List.length_append, length_dateText h]
    omega
  obtain ⟨c, digits, hcons, hdigit⟩ := exists_padded_eq_cons (by decide) hmonth
  have hnot : c ≠ 'W' := by
    rintro rfl
    cases hdigit
  have hfour := length_padded (by decide) hyear
  have htext : d.text.toList ++ rest = (paddedNat 4 d.year).toList ++
      '-' :: c :: (digits ++ '-' :: ((two d.day).toList ++ rest)) := by
    rw [toList_dateText, two, hcons]
    simp
  have hhyphen : (d.text.toList ++ rest)[4]? = some '-' := by
    rw [htext, List.getElem?_append_right (Nat.le_of_eq hfour), hfour]
    rfl
  have hmonthStart : (d.text.toList ++ rest)[5]? = some c := by
    rw [htext, List.getElem?_append_right (by omega), hfour]
    rfl
  unfold dateLength?
  dsimp only
  rw [if_neg hsize, if_pos hhyphen, hmonthStart, if_neg (by simpa using hnot)]

/-! ## Clock readings -/

/-- What a time of day says. -/
def clockReading (t : TimeOfDay) : ClockReading := ⟨t.hour, t.minute, t.second, t.microsecond, false⟩

/-- The characters of a time of day. -/
theorem toList_timeText (t : TimeOfDay) :
    t.text.toList = (two t.hour).toList ++
      ':' :: ((two t.minute).toList ++ ':' :: ((two t.second).toList ++ (fractionText t.microsecond).toList)) := by
  simp [TimeOfDay.text]

/-- After a colon, and after nothing else, the next two digits follow. -/
theorem clockStep?_colon {n : Nat} (h : n < 10 ^ 2) (rest : List Char) :
    clockStep? true (':' :: ((two n).toList ++ rest)) = some (.pair ((two n).toList ++ rest)) := by
  obtain ⟨c, digits, hcons, -⟩ := exists_padded_eq_cons (by decide) h
  rw [two, hcons]
  rfl

/-- The six places of a fraction are read back. -/
theorem readFraction?_text (hour minute second : Nat) {n : Nat} (h : n < 10 ^ 6) :
    readFraction? hour minute second (paddedNat 6 n).toList = some ⟨hour, minute, second, n, false⟩ := by
  have hread := takeNat?_padded (by decide) h []
  rw [List.append_nil] at hread
  unfold readFraction?
  simp only [length_padded (by decide) h, Nat.min_self, hread, Nat.sub_self]
  show some (ClockReading.mk hour minute second (n * 1) false) = _
  rw [Nat.mul_one]

/-- After a point the fraction follows. -/
theorem clockStep?_point {n : Nat} (h : n < 10 ^ 6) :
    clockStep? true ('.' :: (paddedNat 6 n).toList) = some (.fraction (paddedNat 6 n).toList) := by
  obtain ⟨c, digits, hcons, -⟩ := exists_padded_eq_cons (by decide) h
  rw [hcons]
  rfl

/-- **A time of day is read back.** -/
theorem readClock?_text {t : TimeOfDay} (h : t.Valid) : readClock? t.text.toList = some (clockReading t) := by
  obtain ⟨hhour, hminute, hsecond, hmicrosecond⟩ := h
  have hhour : t.hour < 10 ^ 2 := by omega
  have hminute : t.minute < 10 ^ 2 := by omega
  have hsecond : t.second < 10 ^ 2 := by omega
  unfold readClock?
  rw [toList_timeText, two, takeNat?_padded (by decide) hhour]
  simp only [List.head?_cons, decide_true, clockStep?_colon hminute]
  rw [two, takeNat?_padded (by decide) hminute]
  simp only [clockStep?_colon hsecond]
  rw [two, takeNat?_padded (by decide) hsecond]
  dsimp only
  unfold clockReading
  -- the fraction is written only when there is one
  by_cases hzero : t.microsecond = 0
  · have hfraction : (fractionText t.microsecond).toList = [] := by
      rw [fractionText, if_pos hzero]
      rfl
    rw [hfraction, hzero]
    rfl
  · have hfraction : (fractionText t.microsecond).toList = '.' :: (paddedNat 6 t.microsecond).toList := by
      rw [fractionText, if_neg hzero, String.toList_append]
      rfl
    rw [hfraction, clockStep?_point hmicrosecond]
    exact readFraction?_text _ _ _ hmicrosecond

/-- **Hours and minutes are read back.** -/
theorem readClock?_minutes {hour minute : Nat} (hhour : hour < 10 ^ 2) (hminute : minute < 10 ^ 2) :
    readClock? ((two hour).toList ++ ':' :: (two minute).toList) = some ⟨hour, minute, 0, 0, false⟩ := by
  have hlast := takeNat?_padded (by decide) hminute []
  have hcolon := clockStep?_colon hminute []
  rw [List.append_nil] at hlast hcolon
  unfold readClock?
  rw [two, takeNat?_padded (by decide) hhour]
  simp only [List.head?_cons, decide_true, hcolon]
  rw [two, hlast]
  rfl

/-- A fraction is written with digits and a point. -/
theorem mem_fractionText {n : Nat} {c : Char} (h : c ∈ (fractionText n).toList) :
    c.isDigit = true ∨ c = '.' := by
  unfold fractionText at h
  split at h
  · cases h
  · rw [String.toList_append, List.mem_append] at h
    rcases h with h | h
    · exact .inr (List.mem_singleton.1 h)
    · exact .inl (isDigit_of_mem_padded h)

/-- A time of day is written with digits, colons and a point. -/
theorem mem_timeText {t : TimeOfDay} {c : Char} (h : c ∈ t.text.toList) :
    c.isDigit = true ∨ c = ':' ∨ c = '.' := by
  rw [toList_timeText] at h
  simp only [List.mem_append, List.mem_cons] at h
  rcases h with h | h | h | h | h | h
  · exact .inl (isDigit_of_mem_padded h)
  · exact .inr (.inl h)
  · exact .inl (isDigit_of_mem_padded h)
  · exact .inr (.inl h)
  · exact .inl (isDigit_of_mem_padded h)
  · exact (mem_fractionText h).imp_right .inr

/-- The characters of a time of day start no distance from universal time. -/
theorem not_startsOffset_of_mem {t : TimeOfDay} {c : Char} (h : c ∈ t.text.toList) :
    startsOffset c = false := by
  have hclock := mem_timeText h
  unfold startsOffset
  by_contra hne
  simp only [Bool.not_eq_false, Bool.or_eq_true, decide_eq_true_eq] at hne
  rcases hne with (rfl | rfl) | rfl <;> revert hclock <;> decide

/-! ## Distances from universal time -/

/-- Whether a distance from universal time is one of a zone: of whole seconds, and less than a day. -/
def IsZone (offset : Int) : Prop := offset % 1000000 = 0 ∧ offset.natAbs < dayMicros

instance (offset : Int) : Decidable (IsZone offset) := inferInstanceAs (Decidable (_ ∧ _))

/-- The characters of a distance after its sign: hours and minutes, and the seconds when there are any. -/
def zoneChars (t : TimeOfDay) : List Char :=
  if t.second = 0 ∧ t.microsecond = 0 then (two t.hour).toList ++ ':' :: (two t.minute).toList else t.text.toList

/-- The characters of a distance. -/
theorem toList_offsetText (offset : Int) :
    (offsetText offset).toList =
      (if offset < 0 then '-' else '+') :: zoneChars (TimeOfDay.ofMicros offset.natAbs) := by
  have hsign : (if offset < 0 then "-" else "+").toList = [if offset < 0 then '-' else '+'] := by
    split <;> rfl
  unfold offsetText zoneChars
  generalize TimeOfDay.ofMicros offset.natAbs = t
  dsimp only
  rw [String.toList_append, String.toList_append, String.toList_append, String.toList_append, hsign]
  by_cases hwhole : t.second = 0 ∧ t.microsecond = 0
  · rw [if_pos hwhole, if_pos hwhole]
    simp
  · rw [if_neg hwhole, if_neg hwhole, toList_timeText]
    simp

/-- What follows the sign of a distance is read back. -/
theorem readClock?_zoneChars {t : TimeOfDay} (h : t.Valid) : readClock? (zoneChars t) = some (clockReading t) := by
  unfold zoneChars
  split
  · rename_i hwhole
    obtain ⟨hhour, hminute, -⟩ := h
    rw [readClock?_minutes (by omega) (by omega), clockReading, hwhole.1, hwhole.2]
  · exact readClock?_text h

/-- **A distance of a zone is read back.** -/
theorem readOffset?_zoneChars {offset : Int} (h : IsZone offset) :
    readOffset? (decide (offset < 0)) (zoneChars (TimeOfDay.ofMicros offset.natAbs)) = some offset := by
  obtain ⟨hwhole, hday⟩ := h
  have hmicros := TimeOfDay.micros_ofMicros offset.natAbs
  have hseconds : (TimeOfDay.ofMicros offset.natAbs).microsecond = 0 := by
    simp only [TimeOfDay.ofMicros]
    omega
  unfold readOffset?
  rw [readClock?_zoneChars (TimeOfDay.valid_ofMicros hday)]
  generalize TimeOfDay.ofMicros offset.natAbs = t at *
  unfold TimeOfDay.micros at hmicros
  simp only [clockReading, hseconds, Nat.add_zero, Bool.false_eq_true, if_false] at hmicros ⊢
  -- the sign is lost on a distance of nothing
  by_cases hzero : (t.hour * 60 + t.minute) * 60 + t.second = 0
  · rw [if_pos hzero]
    congr
    omega
  · rw [if_neg hzero, hmicros, if_pos (by omega)]
    congr
    by_cases hnegative : offset < 0
    · simp only [hnegative, decide_true, if_true]
      omega
    · simp only [hnegative, decide_false, Bool.false_eq_true, if_false]
      omega

/-- **A time of day with a zone is read back.** -/
theorem readTime?_text {t : TimeOfDay} {zone : Option Int} (h : t.Valid) (hzone : ∀ offset ∈ zone, IsZone offset) :
    readTime? (t.text.toList ++ (zoneText zone).toList) = some (t, zone) := by
  have hclock : ∀ c ∈ t.text.toList, (!startsOffset c) = true := fun c hc => by
    rw [not_startsOffset_of_mem hc, Bool.not_false]
  -- the time of day goes on until a zone starts
  have hstart : (zoneText zone).toList.takeWhile (!startsOffset ·) = [] ∧
      (zoneText zone).toList.dropWhile (!startsOffset ·) = (zoneText zone).toList := by
    cases zone with
    | none => exact ⟨rfl, rfl⟩
    | some offset =>
        rw [zoneText, toList_offsetText]
        split <;> exact ⟨rfl, rfl⟩
  have htime : (clockReading t).time? = some t := if_pos h
  unfold readTime?
  rw [List.takeWhile_append_of_pos hclock, List.dropWhile_append_of_pos hclock, hstart.1, hstart.2,
    List.append_nil, readClock?_text h]
  simp only [htime]
  cases zone with
  | none => rfl
  | some offset =>
      have hoffset := readOffset?_zoneChars (hzone offset rfl)
      rw [zoneText, toList_offsetText]
      by_cases hnegative : offset < 0
      · simp only [hnegative, decide_true] at hoffset
        simp [hnegative, hoffset]
      · simp only [hnegative, decide_false] at hoffset
        simp [hnegative, hoffset]

/-! ## Timestamps -/

/-- A digit is a character between those of zero and of nine. -/
theorem toNat_of_isDigit {c : Char} (h : c.isDigit = true) : 0x30 ≤ c.toNat ∧ c.toNat ≤ 0x39 := by
  rw [Char.isDigit, Bool.and_eq_true, decide_eq_true_eq, decide_eq_true_eq] at h
  exact ⟨UInt32.le_iff_toNat_le.1 h.1, UInt32.le_iff_toNat_le.1 h.2⟩

/-- The characters of a numeral stand between the plus sign and the letter T. -/
theorem toNat_of_mem_padded {width n : Nat} {c : Char} (h : c ∈ (paddedNat width n).toList) :
    0x2b ≤ c.toNat ∧ c.toNat ≤ 0x54 := by
  have hrange := toNat_of_isDigit (isDigit_of_mem_padded h)
  omega

/-- The characters of a date stand between the plus sign and the letter T. -/
theorem toNat_of_mem_dateText {d : Date} {c : Char} (h : c ∈ d.text.toList) :
    0x2b ≤ c.toNat ∧ c.toNat ≤ 0x54 := by
  rw [toList_dateText] at h
  simp only [List.mem_append, List.mem_cons] at h
  rcases h with h | rfl | h | rfl | h
  · exact toNat_of_mem_padded h
  · decide
  · exact toNat_of_mem_padded h
  · decide
  · exact toNat_of_mem_padded h

/-- The characters of a time of day stand between the plus sign and the letter T. -/
theorem toNat_of_mem_timeText {t : TimeOfDay} {c : Char} (h : c ∈ t.text.toList) :
    0x2b ≤ c.toNat ∧ c.toNat ≤ 0x54 := by
  rcases mem_timeText h with hdigit | rfl | rfl
  · have hrange := toNat_of_isDigit hdigit
    omega
  · decide
  · decide

/-- The characters of a zone stand between the plus sign and the letter T. -/
theorem toNat_of_mem_zoneText {zone : Option Int} {c : Char} (h : c ∈ (zoneText zone).toList) :
    0x2b ≤ c.toNat ∧ c.toNat ≤ 0x54 := by
  cases zone with
  | none => cases h
  | some offset =>
      rw [zoneText, toList_offsetText, List.mem_cons, zoneChars] at h
      rcases h with rfl | h
      · split <;> decide
      · split at h
        · simp only [List.mem_append, List.mem_cons] at h
          rcases h with h | rfl | h
          · exact toNat_of_mem_padded h
          · decide
          · exact toNat_of_mem_padded h
        · exact toNat_of_mem_timeText h

end Calendar

open Calendar

namespace DateTime

/-- Whether a timestamp can be written down: it exists, and its zone, if it has one, is a zone. -/
structure Writable (t : DateTime) : Prop where
  valid : t.Valid
  zone : ∀ offset ∈ t.offset, IsZone offset

/-- The characters of a timestamp. -/
theorem toList_text (t : DateTime) :
    t.text.toList = t.date.text.toList ++ 'T' :: (t.time.text.toList ++ (zoneText t.offset).toList) := by
  simp [text]

/-- **The characters of a timestamp** stand between the plus sign and the letter T. -/
theorem toNat_of_mem_text {t : DateTime} {c : Char} (h : c ∈ t.text.toList) :
    0x2b ≤ c.toNat ∧ c.toNat ≤ 0x54 := by
  rw [toList_text, List.mem_append, List.mem_cons, List.mem_append] at h
  rcases h with hdate | rfl | htime | hzone
  · exact toNat_of_mem_dateText hdate
  · decide
  · exact toNat_of_mem_timeText htime
  · exact toNat_of_mem_zoneText hzone

/-- ASCII characters are their own bytes. -/
theorem readDateTime?_of_ascii {s : String} (h : ∀ c ∈ s.toList, c.toNat < 0x80) (hlength : 7 ≤ s.toList.length) :
    readDateTime? s = readBytes? s.toList := by
  have hcodes : Text.codePoints s = s.toList.map Char.toNat := Text.codesOf_of_ascii h
  have hhalf : ∀ n ∈ s.toList.map Char.toNat, Text.isHalf n = false := by
    intro n hn
    obtain ⟨c, hc, rfl⟩ := List.mem_map.1 hn
    have hlt := h c hc
    rw [Text.isHalf, decide_eq_false_iff_not]
    omega
  -- only half of a pair is replaced where the date may end
  have hplain : plainCodes (s.toList.map Char.toNat) = s.toList.map Char.toNat := by
    have hnone : (separatorPlaces.find? fun place =>
        ((s.toList.map Char.toNat)[place]?.map Text.isHalf).getD false) = none := by
      rw [List.find?_eq_none]
      intro place _
      cases hcode : (s.toList.map Char.toNat)[place]? with
      | none => simp
      | some n => simp [hhalf n (List.mem_of_getElem? hcode)]
    rw [plainCodes, hnone]
  have hany : (s.toList.map Char.toNat).any Text.isHalf = false := by
    rw [List.any_eq_false]
    intro n hn
    rw [hhalf n hn]
    exact Bool.false_ne_true
  have hbytes : ((s.toList.map Char.toNat).flatMap Text.utf8Code).map Char.ofNat = s.toList := by
    rw [List.flatMap_map, List.map_flatMap]
    refine (List.flatMap_congr fun c hc => ?_).trans (List.flatMap_singleton' s.toList)
    rw [Text.utf8Code, if_pos (h c hc), List.map_singleton, Char.ofNat_toNat]
  unfold readDateTime?
  dsimp only
  rw [hcodes, hplain, hany, hbytes, List.length_map]
  exact if_neg (by simpa using hlength)

/-- **What is written of a timestamp is read back.** -/
theorem readDateTime?_text {t : DateTime} (h : t.Writable) : readDateTime? t.text = some t := by
  have hlength := length_dateText h.valid.1
  have hsize : 7 ≤ t.text.toList.length := by
    rw [toList_text, List.length_append, hlength]
    omega
  have hascii : ∀ c ∈ t.text.toList, c.toNat < 0x80 := fun c hc => by
    have hrange := toNat_of_mem_text hc
    omega
  rw [readDateTime?_of_ascii hascii hsize, toList_text]
  unfold readBytes?
  rw [dateLength?_text h.valid.1]
  dsimp only
  rw [List.take_left' hlength, List.drop_left' hlength, readDate?_text h.valid.1]
  have hone : bytesFrom 'T' - 1 = 0 := rfl
  dsimp only
  rw [hone, List.drop_zero, readTime?_text h.valid.2 h.zone]
  rfl

/-- The characters of a timestamp are not blank. -/
theorem not_isBlank_of_mem_text {t : DateTime} {c : Char} (h : c ∈ t.text.toList) : Text.isBlank c = false := by
  have hrange := toNat_of_mem_text h
  rw [Text.isBlank, List.any_eq_false]
  intro range hmem
  simp only [Text.blankRanges, List.mem_cons, List.not_mem_nil, or_false] at hmem
  rcases hmem with rfl | rfl | rfl | rfl | rfl | rfl | rfl | rfl | rfl | rfl <;> simp <;> omega

/-- A timestamp is written with some characters. -/
theorem text_ne_nil (t : DateTime) : t.text.toList ≠ [] := by
  rw [toList_text]
  simp

/-- Nothing is trimmed off a timestamp. -/
theorem trim_text (t : DateTime) : Text.trim t.text = t.text := by
  have htrim := Text.trim_of_tight (Text.Tight.of_forall t.text_ne_nil fun _ => not_isBlank_of_mem_text)
  rwa [String.ofList_toList] at htrim

end DateTime

/-! ## What is read exists -/

namespace Calendar

/-- A week date exists. -/
theorem valid_of_ofWeek? {year week day : Nat} {d : Date} (h : Date.ofWeek? year week day = some d) : d.Valid := by
  unfold Date.ofWeek? at h
  split at h
  · dsimp only at h
    split at h
    · rename_i hnumber
      obtain rfl := Option.some.inj h
      exact Date.valid_ofDayNumber hnumber.1 hnumber.2
    · cases h
  · cases h

/-- The date of a week that is read exists. -/
theorem valid_of_readWeek? {year : Nat} {hyphens : Bool} {cs : List Char} {d : Date}
    (h : readWeek? year hyphens cs = some d) : d.Valid := by
  unfold readWeek? at h
  split at h
  · cases h
  · exact valid_of_ofWeek? h
  · split at h
    · cases h
    · split at h
      · exact valid_of_ofWeek? h
      · cases h

/-- The date of a month that is read exists. -/
theorem valid_of_readMonth? {year : Nat} {hyphens : Bool} {cs : List Char} {d : Date}
    (h : readMonth? year hyphens cs = some d) : d.Valid := by
  unfold readMonth? at h
  split at h
  · cases h
  · split at h
    · cases h
    · split at h
      · dsimp only at h
        split at h
        · rename_i hvalid
          obtain rfl := Option.some.inj h
          exact hvalid
        · cases h
      · cases h

/-- A date that is read exists. -/
theorem valid_of_readDate? {cs : List Char} {d : Date} (h : readDate? cs = some d) : d.Valid := by
  unfold readDate? at h
  split at h
  · cases h
  · dsimp only at h
    split at h
    · exact valid_of_readWeek? h
    · exact valid_of_readMonth? h

/-- A time of day that is read exists. -/
theorem valid_of_readTime? {cs : List Char} {t : TimeOfDay} {zone : Option Int}
    (h : readTime? cs = some (t, zone)) : t.Valid := by
  have htime : ∀ {r : ClockReading} {found : TimeOfDay}, r.time? = some found → found.Valid := by
    intro r found hfound
    unfold ClockReading.time? at hfound
    dsimp only at hfound
    split at hfound
    · rename_i hvalid
      obtain rfl := Option.some.inj hfound
      exact hvalid
    · cases hfound
  unfold readTime? at h
  split at h
  · cases h
  · rename_i r _
    cases hfound : r.time? with
    | none =>
        rw [hfound] at h
        cases h
    | some found =>
        have hvalid : ∀ u, some found = some u → u.Valid := fun u heq => htime (hfound.trans heq)
        -- whatever follows the time, it is the time that was found
        rw [hfound] at h
        split at h
        · cases h
        · split at h <;> cases h
          exact hvalid t ‹_›
        · split at h <;> cases h
          exact hvalid t ‹_›
        · obtain ⟨offset, -, heq⟩ := Option.map_eq_some_iff.1 h
          cases heq
          exact hvalid t ‹_›

/-- **A timestamp that is read exists.** -/
theorem valid_of_readDateTime? {s : String} {t : DateTime} (h : readDateTime? s = some t) : t.Valid := by
  unfold readDateTime? at h
  dsimp only at h
  split at h
  · cases h
  · unfold readBytes? at h
    split at h
    · cases h
    · split at h
      · cases h
      · rename_i hdate _
        cases h
        exact ⟨valid_of_readDate? hdate, (by decide : TimeOfDay.midnight.Valid)⟩
      · rename_i hdate _
        obtain ⟨⟨time, offset⟩, htime, heq⟩ := Option.map_eq_some_iff.1 h
        cases heq
        exact ⟨valid_of_readDate? hdate, valid_of_readTime? htime⟩

end Calendar

end SearchTables
