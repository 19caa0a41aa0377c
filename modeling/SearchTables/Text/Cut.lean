/-! # Cutting texts and replacing parts of them

A text is cut at every separator, and joined again by it. Every occurrence of a part is replaced, from the
left and without overlap; the empty part occurs before every character and at the end. -/

namespace SearchTables.Text

/-- The parts of a text between separators. -/
def cutAt (separator : Char) : List Char → List (List Char)
  | [] => [[]]
  | c :: rest =>
      if c = separator then [] :: cutAt separator rest
      else
        match cutAt separator rest with
        | [] => [[c]]
        | part :: parts => (c :: part) :: parts

/-- Parts with a separator between any two of them. -/
def joinBy (separator : Char) (parts : List (List Char)) : List Char := [separator].intercalate parts

/-- What stands before the first separator, and what after it, if there is one. -/
def cutOnce (separator : Char) (cs : List Char) : List Char × Option (List Char) :=
  let before := cs.takeWhile (· ≠ separator)
  match cs.drop before.length with
  | [] => (before, none)
  | _ :: after => (before, some after)

/-- A text is cut into one part at least. -/
theorem cutAt_ne_nil (separator : Char) (cs : List Char) : cutAt separator cs ≠ [] := by
  cases cs with
  | nil => simp [cutAt]
  | cons c rest =>
      unfold cutAt
      split
      · simp
      · split <;> simp

/-- The parts of a text make up the text again. -/
theorem joinBy_cutAt (separator : Char) (cs : List Char) : joinBy separator (cutAt separator cs) = cs := by
  induction cs with
  | nil => rfl
  | cons c rest ih =>
      have some_part := cutAt_ne_nil separator rest
      unfold cutAt
      cases parts : cutAt separator rest with
      | nil => exact absurd parts some_part
      | cons part more =>
          rw [parts] at ih
          split
          · next same => cases more <;> simp_all [joinBy, List.intercalate]
          · cases more <;> simp_all [joinBy, List.intercalate]

/-! ## Replacing a part -/

/-- Replace a non-empty part, after skipping characters that an occurrence has used up. -/
def replaceFrom (part replacement : List Char) : Nat → List Char → List Char
  | _, [] => []
  | skip + 1, _ :: rest => replaceFrom part replacement skip rest
  | 0, c :: rest =>
      if part.isPrefixOf (c :: rest) then
        replacement ++ replaceFrom part replacement (part.length - 1) rest
      else c :: replaceFrom part replacement 0 rest

/-- Replace every occurrence of a part. -/
def replaceChars (part replacement cs : List Char) : List Char :=
  if part.isEmpty then replacement ++ cs.flatMap fun c => c :: replacement
  else replaceFrom part replacement 0 cs

/-- Replacing a single character acts on every character alone. -/
theorem replaceChars_singleton (p : Char) (replacement cs : List Char) :
    replaceChars [p] replacement cs =
      cs.flatMap fun c => if c = p then replacement else [c] := by
  have h : ∀ cs, replaceFrom [p] replacement 0 cs =
      cs.flatMap fun c => if c = p then replacement else [c] := by
    intro cs
    induction cs with
    | nil => rfl
    | cons c rest ih =>
        by_cases hc : c = p
        · simp [replaceFrom, hc, ih]
        · have hp : ¬p = c := fun e => hc e.symm
          simp [replaceFrom, hc, hp, ih]
  simpa [replaceChars] using h cs

end SearchTables.Text
