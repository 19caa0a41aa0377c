import Mathlib.Data.String.Basic
import SearchTables.Text.Blank
import SearchTables.Text.Cut

/-! # Parts of a text — where it is trimmed and where it is cut

Trimming takes the blanks around a **tight** text, one without blanks at its ends, and no more
(`trim_around`). The library's `splitOn`, which walks over byte positions, cuts at a separator of one
character as `cutAt` does over characters (`splitOn_eq_cutAt`). -/

namespace SearchTables.Text

/-! ## Trimming -/

/-- A text that is not empty and has no blank at either end. -/
structure Tight (cs : List Char) : Prop where
  first : ∃ c rest, cs = c :: rest ∧ isBlank c = false
  last : ∃ front c, cs = front ++ [c] ∧ isBlank c = false

/-- A text without blanks is tight. -/
theorem Tight.of_forall {cs : List Char} (hne : cs ≠ []) (h : ∀ c ∈ cs, isBlank c = false) : Tight cs where
  first := by
    obtain ⟨c, rest, rfl⟩ := List.exists_cons_of_ne_nil hne
    exact ⟨c, rest, rfl, h c (List.mem_cons_self ..)⟩
  last := ⟨cs.dropLast, cs.getLast hne, (List.dropLast_append_getLast hne).symm, h _ (List.getLast_mem hne)⟩

/-- What stands between two tight texts is of no concern. -/
theorem Tight.append {cs ds : List Char} (hcs : Tight cs) (middle : List Char) (hds : Tight ds) :
    Tight (cs ++ middle ++ ds) where
  first := by
    obtain ⟨c, rest, rfl, hc⟩ := hcs.first
    exact ⟨c, rest ++ middle ++ ds, by simp, hc⟩
  last := by
    obtain ⟨front, c, rfl, hc⟩ := hds.last
    exact ⟨cs ++ middle ++ front, c, by simp, hc⟩

section

variable {cs front back : List Char}

/-- The blanks before a text are dropped, and nothing else. -/
theorem trimStartChars_append {c : Char} {rest : List Char} (hfront : ∀ c ∈ front, isBlank c = true)
    (hc : isBlank c = false) : trimStartChars (front ++ c :: rest) = c :: rest := by
  rw [trimStartChars, List.dropWhile_append_of_pos hfront]
  simp [hc]

/-- Nothing is dropped before the last character that is no blank. -/
theorem trimEndChars_append_of_last {c : Char} (hc : isBlank c = false) (rest : List Char) :
    trimEndChars (front ++ [c] ++ rest) = front ++ [c] ++ trimEndChars rest := by
  unfold trimEndChars
  rw [List.reverse_append, List.dropWhile_append]
  by_cases hnone : (rest.reverse.dropWhile isBlank).isEmpty
  · rw [if_pos hnone, List.isEmpty_iff.1 hnone]
    simp [hc]
  · rw [if_neg hnone]
    simp

/-- Blanks are dropped at the end of a text. -/
theorem trimEndChars_of_forall (hback : ∀ c ∈ back, isBlank c = true) : trimEndChars back = [] := by
  have hreverse : ∀ c ∈ back.reverse, isBlank c = true := fun c hc => hback c (List.mem_reverse.1 hc)
  have hdrop : (back.reverse ++ []).dropWhile isBlank = [].dropWhile isBlank :=
    List.dropWhile_append_of_pos hreverse
  rw [List.append_nil] at hdrop
  rw [trimEndChars, hdrop]
  rfl

/-- **Trimming drops the blanks around a tight text, and nothing else.** -/
theorem trim_around (h : Tight cs) (hfront : ∀ c ∈ front, isBlank c = true)
    (hback : ∀ c ∈ back, isBlank c = true) : trim (String.ofList (front ++ cs ++ back)) = String.ofList cs := by
  have hstart : trimStartChars (front ++ cs ++ back) = cs ++ back := by
    obtain ⟨c, rest, rfl, hc⟩ := h.first
    rw [List.append_assoc]
    exact trimStartChars_append hfront hc
  obtain ⟨before, c, hcs, hc⟩ := h.last
  rw [trim, String.toList_ofList, hstart]
  rw [hcs, trimEndChars_append_of_last hc, trimEndChars_of_forall hback, List.append_nil]

/-- A tight text is left as it is. -/
theorem trim_of_tight (h : Tight cs) : trim (String.ofList cs) = String.ofList cs := by
  have htrim := trim_around h (List.forall_mem_nil _) (List.forall_mem_nil _)
  rwa [List.nil_append, List.append_nil] at htrim

/-- White characters are blank, so around a tight text none are dropped. -/
theorem trimWhite_of_tight (h : Tight cs) : trimWhite cs = cs := by
  have hwhite : ∀ c, isBlank c = false → isWhite c = false := by
    intro c hc
    rw [isWhite, hc, Bool.false_and]
  have hstart : cs.dropWhile isWhite = cs := by
    obtain ⟨c, rest, rfl, hc⟩ := h.first
    simp [hwhite c hc]
  obtain ⟨before, c, hcs, hc⟩ := h.last
  rw [trimWhite, hstart]
  simp [hcs, hwhite c hc]

end

/-! ## Cutting -/

section

variable {separator : Char} {cs : List Char}

/-- A text without separators is one part. -/
theorem cutAt_of_not_mem (h : separator ∉ cs) : cutAt separator cs = [cs] := by
  induction cs with
  | nil => rfl
  | cons c cs ih =>
      rw [List.mem_cons, not_or] at h
      rw [cutAt, if_neg (Ne.symm h.1), ih h.2]

/-- The first separator ends the first part. -/
theorem cutAt_append {front : List Char} (h : separator ∉ front) (cs : List Char) :
    cutAt separator (front ++ separator :: cs) = front :: cutAt separator cs := by
  induction front with
  | nil => simp [cutAt]
  | cons c front ih =>
      rw [List.mem_cons, not_or] at h
      rw [List.cons_append, cutAt, if_neg (Ne.symm h.1), ih h.2]

end

open String (utf8Len)

/-- A position is at the end when no characters are left after it. -/
theorem atEnd_iff (cs rest : List Char) :
    String.Pos.Raw.atEnd (String.ofList (cs ++ rest)) ⟨utf8Len cs⟩ = true ↔ rest = [] := by
  rw [String.atEnd_iff, String.rawEndPos_ofList, String.Pos.Raw.mk_le_mk, String.utf8Len_append,
    ← String.utf8Len_eq_zero]
  omega

/-- The walk over a text. The characters before the current part are `past`, those of it so far are
`part`, and those that are still to come are `cs`. -/
theorem splitOnAux_eq {separator : Char} {text : String} {start now : String.Pos.Raw}
    (past part cs : List Char) (found : List String) (htext : text = String.ofList (past ++ part ++ cs))
    (hstart : start = ⟨utf8Len past⟩) (hnow : now = ⟨utf8Len (past ++ part)⟩) :
    String.splitOnAux text (String.ofList [separator]) start now 0 found =
      found.reverse ++ ((cutAt separator cs).modifyHead (part ++ ·)).map String.ofList := by
  induction cs generalizing past part start now found with
  | nil =>
      unfold String.splitOnAux
      subst htext hstart hnow
      rw [if_pos ((atEnd_iff (past ++ part) []).2 rfl), String.utf8Len_append,
        String.extract_of_valid past part []]
      simp [cutAt]
  | cons c cs ih =>
      unfold String.splitOnAux
      have hget : String.Pos.Raw.get text now = c := by
        subst htext hnow
        exact String.get_of_valid (past ++ part) (c :: cs)
      have hnext : String.Pos.Raw.next text now = ⟨utf8Len (past ++ part) + c.utf8Size⟩ := by
        subst htext hnow
        exact String.next_of_valid (past ++ part) c cs
      have hextract : String.Pos.Raw.extract text start ⟨utf8Len (past ++ part)⟩ = String.ofList part := by
        subst htext hstart
        rw [String.utf8Len_append]
        exact String.extract_of_valid past part (c :: cs)
      have hmore : ¬String.Pos.Raw.atEnd text now = true := by
        subst htext hnow
        rw [atEnd_iff]
        exact List.cons_ne_nil c cs
      have hseparator : String.Pos.Raw.get (String.ofList [separator]) 0 = separator := by
        simpa using String.get_of_valid [] [separator]
      obtain ⟨first, more, hparts⟩ := List.exists_cons_of_ne_nil (cutAt_ne_nil separator cs)
      rw [if_neg hmore, hget, hseparator]
      by_cases hc : c = separator
      · subst hc
        -- the separator is one character, so it is found as soon as it starts
        have hlast : String.Pos.Raw.next (String.ofList [c]) 0 = ⟨c.utf8Size⟩ := by
          simpa using String.next_of_valid [] c []
        have hwhole : String.Pos.Raw.atEnd (String.ofList [c]) ⟨c.utf8Size⟩ = true := by
          simpa using (atEnd_iff [c] []).2 rfl
        have hback : (⟨utf8Len (past ++ part) + c.utf8Size⟩ : String.Pos.Raw).unoffsetBy ⟨c.utf8Size⟩ =
            ⟨utf8Len (past ++ part)⟩ := by
          simp [String.Pos.Raw.unoffsetBy]
        simp only [beq_self_eq_true, if_true, hlast, hwhole, hnext, hback, hextract]
        rw [ih (past ++ part ++ [c]) [] (String.ofList part :: found) (by simp [htext])
          (by simp [Nat.add_assoc]) (by simp [Nat.add_assoc])]
        simp [cutAt, hparts]
      · have hstay : now.unoffsetBy 0 = now := by simp [String.Pos.Raw.unoffsetBy]
        rw [if_neg (by simpa using hc), hstay, hnext,
          ih past (part ++ [c]) found (by simp [htext]) hstart (by simp [Nat.add_assoc])]
        simp [cutAt, hc, hparts]

/-- **The library cuts at a separator of one character where `cutAt` does.** -/
theorem splitOn_eq_cutAt (s : String) (separator : Char) :
    s.splitOn (String.ofList [separator]) = (cutAt separator s.toList).map String.ofList := by
  have hne : (String.ofList [separator] == "") = false := by
    rw [beq_eq_false_iff_ne]
    intro h
    simpa using congrArg String.toList h
  have hwalk : String.splitOnAux s (String.ofList [separator]) 0 0 0 [] =
      [].reverse ++ ((cutAt separator s.toList).modifyHead ([] ++ ·)).map String.ofList :=
    splitOnAux_eq [] [] s.toList [] (by simp) rfl rfl
  obtain ⟨first, more, hparts⟩ := List.exists_cons_of_ne_nil (cutAt_ne_nil separator s.toList)
  rw [String.splitOn, hne, if_neg Bool.false_ne_true, hwalk]
  simp [hparts]

end SearchTables.Text
