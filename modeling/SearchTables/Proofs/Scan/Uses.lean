import SearchTables.Proofs.Scan.Step

/-! # Uses — calls of a scan none of which fails

A scan takes the hits off its pages one at a time. As long as no call fails, what it comes to goes with
the hits that it took and the rows that it returned (`Scan.Uses`), and what every step carries on in them
holds of whatever the calls come to (`Scan.Carries`). -/

namespace SearchTables

variable {τ : Type}

namespace Scan

/-! ## Hits that are taken -/

/-- The hit that the next step takes off the page: one or none. -/
def atHand (t : Scan) : List Json :=
  match t.state, t.cursor with
  | .draining, some c => c.page.take 1
  | _, _ => []

section Hit

variable {s : Scan} {c : Cursor}

/-- While hits are taken off a page the first one is at hand. -/
theorem atHand_of_draining (hstate : s.state = .draining) (hcursor : s.cursor = some c) :
    s.atHand = c.page.take 1 := by
  rw [atHand, hstate, hcursor]

/-- Otherwise none is, so none is taken. -/
theorem append_atHand_of_ne (hstate : s.state ≠ .draining) (taken : List Json) :
    taken ++ s.atHand = taken := by
  rw [atHand]
  split
  · exact absurd ‹_› hstate
  · exact List.append_nil taken

end Hit

/-- The hits that a call takes off its pages. -/
def takenBy (service : ScrollService τ) : Nat → Scan → τ → List Json
  | 0, _, _ => []
  | steps + 1, s, state =>
      match s.advance service state with
      | (.again, t, later) => s.atHand ++ takenBy service steps t later
      | _ => s.atHand

/-- What a scan comes to by calls none of which fails, with the hits that they took off its pages and the
rows that they returned. -/
inductive Uses (service : ScrollService τ) (s : Scan) (state : τ) :
    List Json → List Row → Scan → τ → Prop where
  /-- Nothing was called. -/
  | start : Uses service s state [] [] s state
  /-- A row is asked for. -/
  | next {taken : List Json} {rows : List Row} {t t' : Scan} {now later : τ} {steps : Nat} {turn : Turn}
      (h : Uses service s state taken rows t now)
      (hnext : t.next service steps now = some (turn, t', later)) (hturn : ∀ e, turn ≠ .failed e) :
      Uses service s state (taken ++ t.takenBy service steps now) (rows ++ turn.rows) t' later
  /-- The scan is closed. -/
  | close {taken : List Json} {rows : List Row} {t t' : Scan} {now later : τ}
      (h : Uses service s state taken rows t now) (hclose : t.close service now = (.ok (), t', later)) :
      Uses service s state taken rows t' later

/-! ## How a call ends -/

section Calls

variable {service : ScrollService τ} {s t : Scan} {state later : τ} {steps : Nat} {turn : Turn}

/-- A call never comes to a step with more to do. The induction is on the steps. -/
theorem turn_ne_again (hrun : s.run service steps state = some (turn, t, later)) : turn ≠ .again := by
  induction steps generalizing s state with
  | zero => simp [Scan.run] at hrun
  | succ steps ih =>
      rw [Scan.run] at hrun
      rcases hadvance : s.advance service state with ⟨turn', s', state'⟩
      rw [hadvance] at hrun
      cases turn' with
      | again => exact ih hrun
      | row | finished | failed =>
          obtain ⟨rfl, -⟩ : _ ∧ _ := by simpa using hrun
          simp

/-- A call that does not fail comes to its last step. -/
theorem run_of_next (hnext : s.next service steps state = some (turn, t, later))
    (hturn : ∀ e, turn ≠ .failed e) : s.run service steps state = some (turn, t, later) := by
  rw [Scan.next, Option.map_eq_some_iff] at hnext
  obtain ⟨⟨turn', s', state'⟩, hrun, hsettle⟩ := hnext
  cases turn' with
  | failed e =>
      -- a step that failed makes the call fail
      obtain ⟨turn'', heq, hfailed⟩ := exhaustThen_eq service (.failed e) s' state'
      rw [settle, heq] at hsettle
      obtain ⟨rfl, -⟩ := Prod.mk.inj hsettle
      obtain rfl | ⟨e', rfl⟩ := hfailed
      · exact absurd rfl (hturn e)
      · exact absurd rfl (hturn e')
  | again | row | finished => exact hrun.trans (congrArg some hsettle)

/-- A call that finds no more rows leaves a scan that has ended. -/
theorem exhausted_of_finished (hrun : s.run service steps state = some (.finished, t, later)) :
    t.state = .exhausted := by
  -- nothing needs to be kept here: the last step is what counts
  have hall : Keeps service fun rows _ _ => rows = rows := Keeps.of_steps (fun _ _ _ _ _ => rfl)
    fun _ _ _ _ _ => rfl
  obtain ⟨s', state', -, hadvance⟩ := hall.exists_last (Eq.refl []) hrun
  have hcase := step_advance service s' state'
  rw [hadvance] at hcase
  generalize houtcome : (Turn.finished, t, later) = outcome at hcase
  have hend : ∀ {u : Scan} {now : τ} {turn : Turn}, turn ≠ .finished →
      (Turn.finished, t, later) ≠ u.exhaustThen service turn now := by
    intro u now turn hturn heq
    obtain ⟨turn', hthen, hsame⟩ := exhaustThen_eq service turn u now
    rw [hthen] at heq
    obtain ⟨rfl, -⟩ := Prod.mk.inj heq
    obtain rfl | ⟨e, he⟩ := hsame
    · exact hturn rfl
    · cases he
  cases hcase with
  | finished hstate =>
      obtain ⟨rfl, -⟩ : t = s' ∧ _ := by simpa using houtcome
      exact hstate
  | nothing | ends => exact absurd houtcome (hend (by simp))
  | begins | lost | unfetched | fetched | drained => cases houtcome
  | takes _ _ _ htakes =>
      cases htakes with
      | lastRow => exact absurd houtcome (hend (by simp))
      | unanswered | rejected | skipped | undecoded | row => cases houtcome

end Calls

/-! ## What calls carry on -/

/-- What every step that does not fail **carries on**, with the hit that it takes and the row that it
brings. -/
structure Carries (service : ScrollService τ) (P : List Json → List Row → Scan → τ → Prop) : Prop where
  advance : ∀ {taken : List Json} {rows : List Row} {s : Scan} {state : τ}, P taken rows s state →
    ∀ {turn : Turn} {t : Scan} {later : τ}, s.advance service state = (turn, t, later) →
      (∀ e, turn ≠ .failed e) → P (taken ++ s.atHand) (rows ++ turn.rows) t later

namespace Carries

variable {service : ScrollService τ} {P : List Json → List Row → Scan → τ → Prop} {taken : List Json}
  {rows : List Row} {s t : Scan} {state later : τ}

/-- The steps of a call carry on what every step does. The induction is on the steps. -/
theorem run (hP : Carries service P) (h : P taken rows s state) {steps : Nat} {turn : Turn}
    (hrun : s.run service steps state = some (turn, t, later)) (hturn : ∀ e, turn ≠ .failed e) :
    P (taken ++ s.takenBy service steps state) (rows ++ turn.rows) t later := by
  induction steps generalizing s state taken with
  | zero => simp [Scan.run] at hrun
  | succ steps ih =>
      rw [Scan.run] at hrun
      rw [takenBy]
      rcases hadvance : s.advance service state with ⟨turn', s', state'⟩
      rw [hadvance] at hrun
      cases turn' with
      | again =>
          have hstep := hP.advance h hadvance (fun _ h => by cases h)
          rw [Turn.rows_again, List.append_nil] at hstep
          rw [← List.append_assoc]
          exact ih hstep hrun
      | row | finished | failed =>
          obtain ⟨rfl, rfl, rfl⟩ : _ ∧ _ ∧ _ := by simpa using hrun
          exact hP.advance h hadvance hturn

/-- **What every step carries on holds of all that calls come to none of which fails**, if it holds at the
start and every end keeps it. The induction is on the calls. -/
theorem of_uses (hP : Carries service P)
    (hexhaust : ∀ {taken : List Json} {rows : List Row} {s : Scan} {state : τ}, P taken rows s state →
      ∀ {t : Scan} {later : τ}, s.exhaust service state = (.ok (), t, later) → P taken rows t later)
    (hstart : P [] [] s state) (h : s.Uses service state taken rows t later) :
    P taken rows t later := by
  induction h with
  | start => exact hstart
  | next _ hnext hturn ih => exact hP.run ih (run_of_next hnext hturn) hturn
  | close _ hclose ih => exact hexhaust ih hclose

/-- **Asking for all rows carries on what every step does**, and leaves a scan that has ended. The
induction is on the rows. -/
theorem allRows (hP : Carries service P) {before found : List Row} (h : P taken before s state)
    {steps count : Nat} (hrows : s.rows service steps count state = some (.ok found, t, later)) :
    t.state = .exhausted ∧ ∃ taken', P taken' (before ++ found) t later := by
  induction count generalizing s state taken before found with
  | zero => simp [Scan.rows] at hrows
  | succ count ih =>
      rw [Scan.rows] at hrows
      rcases hnext : s.next service steps state with - | ⟨turn, s', state'⟩
      · simp [hnext] at hrows
      rw [hnext] at hrows
      -- after a row the others are asked for; a failure is not the end of the rows
      cases turn with
      | row row =>
          obtain ⟨⟨rest, u, final⟩, hrest, heq⟩ := Option.map_eq_some_iff.1 hrows
          obtain ⟨hfound, rfl, rfl⟩ : rest.map (row :: ·) = .ok found ∧ u = t ∧ final = later := by
            simpa using heq
          cases rest with
          | error e => cases hfound
          | ok rest =>
              obtain rfl := Except.ok.inj hfound
              have hturn : ∀ e, Turn.row row ≠ .failed e := by simp
              have hstep := hP.run h (run_of_next hnext hturn) hturn
              obtain ⟨hended, taken', hall⟩ := ih hstep hrest
              rw [List.append_assoc] at hall
              exact ⟨hended, taken', hall⟩
      | failed e => simp at hrows
      | again =>
          have hrun := run_of_next hnext (by simp)
          exact absurd rfl (turn_ne_again hrun)
      | finished =>
          obtain ⟨rfl, rfl, rfl⟩ : [] = found ∧ s' = t ∧ state' = later := by simpa using hrows
          have hturn : ∀ e, Turn.finished ≠ .failed e := by simp
          have hrun := run_of_next hnext hturn
          exact ⟨exhausted_of_finished hrun, _, hP.run h hrun hturn⟩

end Carries

end Scan

end SearchTables
