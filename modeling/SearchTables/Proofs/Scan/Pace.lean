import SearchTables.Proofs.Scan.Economy
import SearchTables.Proofs.Scan.Faults

/-! # Pace — how many steps a call takes

A call of a scan takes one step after the other: it starts, fetches a page, takes a hit off it, or turns
from an empty page to the next one. None of these leaves the scan as it was, and when what the service
serves has an end, a call comes to something after one step for each hit that it takes, two for each page
that it asks for, and four more (`Scan.exists_run`). Looking at documents for a sample takes one step for
each hit and each page and two more, whatever the service serves (`Sampler.exists_walk`).
`ScrollService.loops_end` states both. -/

namespace SearchTables

variable {τ : Type}

/-! ## Fetches -/

namespace Cursor

/-- What a fetch can be for a cursor when what is to come to it has an end. -/
inductive Pulls (service : ScrollService τ) (asked : Nat) (c : Cursor) (now : τ × List Exchange) :
    Except Error Nat × Cursor × τ × List Exchange → Prop where
  /-- Nothing is left to ask for. -/
  | nothing (hdone : c.finished = true ∨ c.opened = true ∧ c.scrollId = none) :
      Pulls service asked c now (.ok 0, { c with finished := true }, now)
  /-- A page is asked for in vain. -/
  | failed {e : Error} {c' : Cursor} {later : τ × List Exchange}
      (hpages : pagesAsked later.2 = pagesAsked now.2 + 1) :
      Pulls service asked c now (.error e, c', later)
  /-- A page is asked for, and its hits are no longer to come. -/
  | page {count left : Nat} {c' : Cursor} {later : τ × List Exchange} (hasked : asked = left + 1)
      (hpages : pagesAsked later.2 = pagesAsked now.2 + 1)
      (hhits : c'.page.length + (c'.coming service.recorded left later).hits.length =
        c.page.length + (c.coming service.recorded asked now).hits.length)
      (hending : (c'.coming service.recorded left later).ending =
        (c.coming service.recorded asked now).ending) :
      Pulls service asked c now (.ok count, c', later)

/-- What a cursor pulls with an answer to its request. -/
theorem pulls_received {service : ScrollService τ} {asked : Nat} {c : Cursor} (opened : Cursor)
    {now later : τ × List Exchange} {answer : Except Error ScrollPage}
    (hopened : opened.opened = true) (hfinished : opened.finished = false)
    (hpage : opened.page = c.page) (hpages : pagesAsked later.2 = pagesAsked now.2 + 1)
    (hcoming : c.coming service.recorded asked now =
      service.recorded.feed opened.search.scroll asked (answer, later))
    (hends : (c.coming service.recorded asked now).ending ≠ .more) :
    Pulls service asked c now ((opened.received answer).1, (opened.received answer).2, later) := by
  cases asked with
  | zero => exact absurd (congrArg Feed.ending hcoming) hends
  | succ left =>
      cases answer with
      | error e => exact .failed hpages
      | ok p =>
          rw [feed_of_page service.recorded hopened hfinished] at hcoming
          refine .page rfl hpages ?_ ?_
          · have hlength : (opened.receive p).page.length = c.page.length + p.hits.length := by
              rw [receive, List.length_append, hpage]
            rw [hcoming, List.length_append]
            simp only [received]
            omega
          · rw [hcoming]
            rfl

/-- **A fetch is one of the cases of `Pulls`**, when what is to come has an end. -/
theorem pulls_fetch {service : ScrollService τ} {asked : Nat} {c : Cursor} {now : τ × List Exchange}
    (hends : (c.coming service.recorded asked now).ending ≠ .more) :
    Pulls service asked c now (c.fetch service.recorded now) := by
  have hcase := fetch_fetch service.recorded c now
  generalize c.fetch service.recorded now = outcome at hcase
  cases hcase with
  | idle hdone => exact .nothing hdone
  | @opens answer later hfinished hopened hstart =>
      have hlog := ScrollService.log_of_start hstart
      refine pulls_received { c with opened := true } rfl hfinished rfl ?_ ?_ hends
      · rw [hlog, pagesAsked_concat]
        rfl
      · simp [coming, hfinished, hopened, hstart]
  | @continues id answer later hfinished hopened hid hnext =>
      have hlog := ScrollService.log_of_next hnext
      refine pulls_received c hopened hfinished rfl ?_ ?_ hends
      · rw [hlog, pagesAsked_concat]
        rfl
      · simp [coming, hfinished, hopened, hid, hnext]

end Cursor

namespace Scan

/-! ## What is ahead of a scan -/

/-- How a scan goes on: the cursor that it takes hits from, and the state of its service. Nothing when it
does not go on. -/
def onward (service : ScrollService τ) (s : Scan) (now : τ) : Option (Cursor × τ) :=
  match s.state with
  | .init =>
      if s.request.limit = some 0 then none
      else some ({ search := s.search },
        service.log (record ("starting scan of " ++ s.request.index)) now)
  | .fetching | .draining => s.cursor.map fun c => (c, now)
  | .exhausted => none

/-- The feed that is still to come to a scan, when at most a number of pages are asked for. -/
def coming (service : ScrollService τ) (s : Scan) (asked : Nat) (now : τ) : Feed :=
  match s.onward service now with
  | some (c, now) => c.coming service asked now
  | none => ⟨[], .last⟩

/-- How many hits a scan has ahead of it, on its page and to come. -/
def ahead (service : ScrollService τ) (s : Scan) (asked : Nat) (now : τ) : Nat :=
  match s.onward service now with
  | some (c, now) => c.page.length + (c.coming service asked now).hits.length
  | none => 0

/-- How many steps a call takes besides those for hits and pages. -/
def slack (s : Scan) : Nat :=
  match s.state with
  | .init | .draining => 3
  | .fetching => if s.cursor.any (·.page.isEmpty) then 2 else 4
  | .exhausted => 1

section Ahead

variable {service : ScrollService τ} {s : Scan} {c : Cursor}

/-- There is always one step, and never more than four. -/
theorem slack_bounds (s : Scan) : 1 ≤ s.slack ∧ s.slack ≤ 4 := by
  rw [slack]
  split
  · omega
  · omega
  · split <;> omega
  · omega

/-- A scan that was not started has three steps of slack. -/
theorem slack_of_init (hstate : s.state = .init) : s.slack = 3 := by rw [slack, hstate]

/-- So does one that drains a page. -/
theorem slack_of_draining (hstate : s.state = .draining) : s.slack = 3 := by rw [slack, hstate]

/-- One that asks for a page has two at least. -/
theorem two_le_slack (hstate : s.state = .fetching) : 2 ≤ s.slack := by
  rw [slack, hstate]
  dsimp only
  split <;> omega

/-- A scan under way goes on with its cursor. -/
theorem onward_of_going (hstate : s.state = .fetching ∨ s.state = .draining)
    (hcursor : s.cursor = some c) (service : ScrollService τ) (now : τ) :
    s.onward service now = some (c, now) := by
  rcases hstate with hstate | hstate <;> simp [onward, hstate, hcursor]

/-- A scan that has ended does not go on. -/
theorem onward_of_exhausted (hstate : s.state = .exhausted) (service : ScrollService τ) (now : τ) :
    s.onward service now = none := by
  simp [onward, hstate]

/-- What is to come to a scan under way is to come to its cursor. -/
theorem coming_of_going (hstate : s.state = .fetching ∨ s.state = .draining)
    (hcursor : s.cursor = some c) (service : ScrollService τ) (asked : Nat) (now : τ) :
    s.coming service asked now = c.coming service asked now := by
  rw [coming, onward_of_going hstate hcursor]

/-- A scan under way has the hits of its cursor ahead. -/
theorem ahead_of_going (hstate : s.state = .fetching ∨ s.state = .draining)
    (hcursor : s.cursor = some c) (service : ScrollService τ) (asked : Nat) (now : τ) :
    s.ahead service asked now = c.page.length + (c.coming service asked now).hits.length := by
  rw [ahead, onward_of_going hstate hcursor]

/-- A service that keeps a record has the same to come. -/
theorem coming_recorded (service : ScrollService τ) (s : Scan) (asked : Nat) (now : τ)
    (log : List Exchange) :
    s.coming service.recorded asked (now, log) = s.coming service asked now := by
  -- the record is not looked at
  have hcursor : ∀ (c : Cursor) (now : τ),
      c.coming service.recorded asked (now, log) = c.coming service asked now := by
    intro c now
    rw [Cursor.coming, Cursor.coming]
    split
    · rfl
    · split
      · exact service.feed_recorded _ _ _ _ _
      · split
        · rfl
        · exact service.feed_recorded _ _ _ _ _
  rw [coming, coming, onward, onward]
  cases s.state with
  | init =>
      by_cases hlimit : s.request.limit = some 0
      · simp only [if_pos hlimit]
      · simp only [if_neg hlimit]
        exact hcursor ..
  | fetching | draining =>
      cases s.cursor with
      | none => rfl
      | some c => exact hcursor c now
  | exhausted => rfl

end Ahead

/-! ## Steps -/

/-- **No step with more to do leaves a scan as it was.** -/
theorem ne_of_again {service : ScrollService τ} {s t : Scan} {now later : τ}
    (hadvance : s.advance service now = (.again, t, later)) : t ≠ s := by
  have hcase := step_advance service s now
  rw [hadvance] at hcase
  generalize houtcome : (Turn.again, t, later) = outcome at hcase
  -- a scan that has just ended had not ended before
  have hend : ∀ {u : Scan} {mid : τ} {turn : Turn}, s.state ≠ .exhausted →
      (Turn.again, t, later) = u.exhaustThen service turn mid → t ≠ s := by
    intro u mid turn hgoing heq
    obtain ⟨turn', hthen, -⟩ := exhaustThen_eq service turn u mid
    rw [hthen] at heq
    obtain rfl : t = (u.exhaust service mid).2.1 := congrArg (·.2.1) heq
    rintro rfl
    exact hgoing (exhaust_exhaust service u mid).ended
  have hstate : ∀ {u : Scan}, t = u → u.state ≠ s.state → t ≠ s := by
    rintro u rfl hne rfl
    exact hne rfl
  cases hcase with
  | finished | lost | unfetched => cases houtcome
  | nothing hinit => exact hend (by simp [hinit]) houtcome
  | ends hfetching => exact hend (by simp [hfetching]) houtcome
  | begins hinit =>
      cases houtcome
      exact hstate rfl (by simp [hinit])
  | fetched hfetching =>
      cases houtcome
      exact hstate rfl (by simp [hfetching])
  | drained hdraining =>
      cases houtcome
      exact hstate rfl (by simp [hdraining])
  | takes hdraining hcursor hpage htakes =>
      cases htakes with
      | unanswered | undecoded | row => cases houtcome
      | lastRow => exact hend (by simp [hdraining]) houtcome
      | rejected =>
          cases houtcome
          intro heq
          exact absurd (congrArg Scan.rejected heq) (by simp)
      | skipped =>
          cases houtcome
          intro heq
          exact absurd (congrArg Scan.skipped heq) (by simp)

/-- What a step can be when what is to come has an end: the call is over, or less is ahead. Steps are paid
for by the hits that they take, two for each page, and what slack there is. -/
inductive Paced (service : ScrollService τ) (asked : Nat) (s : Scan) (now : τ × List Exchange) :
    Turn × Scan × τ × List Exchange → Prop where
  | again (left : Nat) {t : Scan} {later : τ × List Exchange}
      (hends : (t.coming service.recorded left later).ending ≠ .more)
      (hless : t.ahead service.recorded left later + 2 * left + t.slack <
        s.ahead service.recorded asked now + 2 * asked + s.slack)
      (hpaid : 1 + t.slack + 2 * pagesAsked now.2 ≤
        s.atHand.length + 2 * pagesAsked later.2 + s.slack) :
      Paced service asked s now (.again, t, later)
  | ended {turn : Turn} {t : Scan} {later : τ × List Exchange} (hturn : turn ≠ .again)
      (hpages : pagesAsked now.2 ≤ pagesAsked later.2) : Paced service asked s now (turn, t, later)

section Paced

variable {service : ScrollService τ} {asked : Nat} {s t : Scan} {now later : τ × List Exchange}

/-- The end of a scan that did not want to end the call leaves one step to take. -/
theorem paced_of_exhaustThen (hslack : 2 ≤ s.slack)
    (hpages : 2 + 2 * pagesAsked now.2 ≤ 2 * pagesAsked later.2 + s.slack) (turn : Turn)
    (hgrows : pagesAsked now.2 ≤ pagesAsked later.2) :
    Paced service asked s now (t.exhaustThen service.recorded turn later) := by
  obtain ⟨turn', heq, -⟩ := exhaustThen_eq service.recorded turn t later
  have hcase := exhaust_exhaust service.recorded t later
  have hasked := pagesAsked_of_exhaust hcase
  have hended := hcase.ended
  rw [heq]
  by_cases hturn : turn' = .again
  · subst hturn
    have hnone := onward_of_exhausted hended service.recorded (t.exhaust service.recorded later).2.2
    have hone : (t.exhaust service.recorded later).2.1.slack = 1 := by rw [slack, hended]
    refine .again 0 ?_ ?_ ?_
    · simp [coming, hnone]
    · rw [ahead, hnone, hone]
      dsimp only
      omega
    · rw [hone, hasked]
      omega
  · refine .ended hturn ?_
    rw [hasked]
    exact hgrows

/-- What becomes of a hit is paid for by the hit. -/
theorem paced_of_takes {c : Cursor} {hit : Json} {rest : List Json} (hstate : s.state = .draining)
    (hcursor : s.cursor = some c) (hpage : c.page = hit :: rest)
    (hends : (s.coming service.recorded asked now).ending ≠ .more)
    {outcome : Turn × Scan × τ × List Exchange}
    (htakes : Takes service.recorded { s with cursor := some { c with page := rest } } hit now outcome) :
    Paced service asked s now outcome := by
  have hslack := slack_of_draining hstate
  have hhand : s.atHand.length = 1 := by
    rw [atHand_of_draining hstate hcursor, hpage]
    rfl
  have hsame : ({ c with page := rest } : Cursor).coming service.recorded asked now =
      c.coming service.recorded asked now := rfl
  -- a hit that is left out is one less ahead
  have hagain : ∀ {t : Scan}, t.state = .draining → t.cursor = some { c with page := rest } →
      Paced service asked s now (.again, t, now) := by
    intro t htaking hrest
    have hslack' := slack_of_draining htaking
    refine .again asked ?_ ?_ ?_
    · rw [coming_of_going (.inr htaking) hrest, hsame, ← coming_of_going (.inr hstate) hcursor]
      exact hends
    · rw [ahead_of_going (.inr htaking) hrest, ahead_of_going (.inr hstate) hcursor, hsame, hpage,
        hslack, hslack']
      simp only [List.length_cons]
      omega
    · omega
  cases htakes with
  | unanswered | undecoded | row => exact .ended (by simp) (Nat.le_refl _)
  | rejected | skipped => exact hagain hstate rfl
  | lastRow => exact paced_of_exhaustThen (by omega) (by omega) _ (Nat.le_refl _)

/-- **A step is one of the cases of `Paced`**, when what is to come has an end. -/
theorem paced_advance (hends : (s.coming service.recorded asked now).ending ≠ .more) :
    Paced service asked s now (s.advance service.recorded now) := by
  have hcase := step_advance service.recorded s now
  generalize s.advance service.recorded now = outcome at hcase
  cases hcase with
  | finished | lost => exact .ended (by simp) (Nat.le_refl _)
  | nothing hstate =>
      have hslack := slack_of_init hstate
      exact paced_of_exhaustThen (by omega) (by omega) .again (Nat.le_refl _)
  | begins hstate hlimit =>
      have hslack := slack_of_init hstate
      have honward : s.onward service.recorded now = some ({ search := s.search },
          service.recorded.log (record ("starting scan of " ++ s.request.index)) now) := by
        simp [onward, hstate, hlimit]
      rw [coming, honward] at hends
      have hslack' : slack { s with cursor := some { search := s.search }, state := .fetching } = 2 :=
        rfl
      -- the same is ahead as before
      refine .again asked ?_ ?_ ?_
      · rw [coming_of_going (.inl rfl) rfl]
        exact hends
      · rw [ahead_of_going (.inl rfl) rfl, ahead, honward, hslack, hslack']
        dsimp only
        omega
      · rw [hslack, hslack']
        dsimp only [ScrollService.recorded]
        omega
  | @unfetched c _ _ _ hstate hcursor hfetch =>
      rw [coming_of_going (.inl hstate) hcursor] at hends
      have hpulls := Cursor.pulls_fetch hends
      rw [hfetch] at hpulls
      cases hpulls with
      | failed hpages => exact .ended (by simp) (by omega)
  | @ends c c' later count hstate hcursor hfetch hexhausted =>
      rw [coming_of_going (.inl hstate) hcursor] at hends
      have hslack := two_le_slack hstate
      have hpulls := Cursor.pulls_fetch hends
      rw [hfetch] at hpulls
      cases hpulls with
      | nothing => exact paced_of_exhaustThen hslack (by omega) .again (Nat.le_refl _)
      | page _ hpages => exact paced_of_exhaustThen hslack (by omega) .again (by omega)
  | @fetched c c' later count hstate hcursor hfetch hexhausted =>
      rw [coming_of_going (.inl hstate) hcursor] at hends
      have hahead := ahead_of_going (.inl hstate) hcursor service.recorded asked now
      have hdraining : slack { s with cursor := some c', state := .draining } = 3 := slack_of_draining rfl
      have hpulls := Cursor.pulls_fetch hends
      rw [hfetch] at hpulls
      cases hpulls with
      | nothing =>
          -- a cursor that asks for nothing has a page, or it would be exhausted
          have hfull : s.slack = 4 := by
            rw [slack, hstate]
            dsimp only
            rw [if_neg]
            simpa [Cursor.exhausted, hcursor] using hexhausted
          refine .again asked ?_ ?_ ?_
          · rw [coming_of_going (.inr rfl) rfl, Cursor.coming, if_pos rfl]
            simp
          · rw [ahead_of_going (.inr rfl) rfl, Cursor.coming, if_pos rfl, hahead, hfull, hdraining]
            dsimp only [List.length_nil]
            omega
          · rw [hfull, hdraining]
            omega
      | @page _ left _ _ hasked hpages hhits hending =>
          have hslack := two_le_slack hstate
          refine .again left ?_ ?_ ?_
          · rw [coming_of_going (.inr rfl) rfl, hending]
            exact hends
          · rw [ahead_of_going (.inr rfl) rfl, hhits, hahead, hasked, hdraining]
            omega
          · rw [hdraining]
            omega
  | @drained c hstate hcursor hpage =>
      rw [coming_of_going (.inr hstate) hcursor] at hends
      have hslack := slack_of_draining hstate
      have hslack' : Scan.slack { s with state := .fetching } = 2 := by
        simp [slack, hcursor, hpage]
      refine .again asked ?_ ?_ ?_
      · rw [coming_of_going (s := { s with state := .fetching }) (.inl rfl) hcursor]
        exact hends
      · rw [ahead_of_going (s := { s with state := .fetching }) (.inl rfl) hcursor,
          ahead_of_going (.inr hstate) hcursor, hslack, hslack']
        omega
      · rw [hslack, hslack']
        omega
  | takes hstate hcursor hpage htakes => exact paced_of_takes hstate hcursor hpage hends htakes

/-! ## Calls -/

/-- **A call comes to something** when what is to come has an end, and it takes no more steps than its hits,
its pages and the slack pay for. The induction is on what is ahead. -/
theorem exists_run (hends : (s.coming service.recorded asked now).ending ≠ .more) :
    ∃ steps turn t later, s.run service.recorded steps now = some (turn, t, later) ∧ turn ≠ .again ∧
      steps + 2 * pagesAsked now.2 ≤
        (s.takenBy service.recorded steps now).length + 2 * pagesAsked later.2 + s.slack := by
  induction hsize : s.ahead service.recorded asked now + 2 * asked + s.slack using Nat.strongRecOn
    generalizing s asked now with
  | ind size ih =>
      subst hsize
      have hpaced := paced_advance hends
      rcases hadvance : s.advance service.recorded now with ⟨turn, t, later⟩
      rw [hadvance] at hpaced
      cases hpaced with
      | again left hmore hless hpaid =>
          -- a step that goes on has paid for itself with a hit, a page or some of the slack
          obtain ⟨steps, turn, u, final, hrun, hturn, hsteps⟩ := ih _ hless hmore rfl
          refine ⟨steps + 1, turn, u, final, ?_, hturn, ?_⟩
          · rw [run, hadvance]
            exact hrun
          · rw [takenBy, hadvance]
            simp only [List.length_append]
            omega
      | ended hturn hpages =>
          have hslack := s.slack_bounds.1
          refine ⟨1, turn, t, later, ?_, hturn, by omega⟩
          rw [run, hadvance]
          cases turn with
          | again => exact absurd rfl hturn
          | row | finished | failed => rfl

end Paced

end Scan

/-! ## Samples -/

namespace Sampler

/-- One step of looking at documents: its outcome when that was the last one. -/
def advance (service : ScrollService τ) (s : Sampler) (now : τ) :
    Option (Except Error Unit) × Sampler × τ :=
  if !s.goesOn then (some (.ok ()), s, now)
  else
    match s.cursor.page with
    | [] =>
        if s.cursor.exhausted then (some (.ok ()), s, now)
        else
          match s.cursor.fetch service now with
          | (.ok _, cursor, later) => (none, { s with cursor }, later)
          | (.error e, cursor, later) => (some (.error e), { s with cursor }, later)
    | hit :: rest =>
        let s := { s with cursor := { s.cursor with page := rest } }
        match s.look hit with
        | .ok s => (none, s, now)
        | .error e => (some (.error e), s, now)

/-- Look at documents until a step is the last one. Nothing when the given number of steps is not
enough. -/
def walk (service : ScrollService τ) : Nat → Sampler → τ → Option (Except Error Unit × Sampler × τ)
  | 0, _, _ => none
  | steps + 1, s, now =>
      match s.advance service now with
      | (none, t, later) => walk service steps t later
      | (some outcome, t, later) => some (outcome, t, later)

section Walk

variable {service : ScrollService τ} {s t : Sampler} {now later : τ}

/-- A run takes one step after the other. -/
theorem run_succ (service : ScrollService τ) (steps : Nat) (s : Sampler) (now : τ) :
    s.run service (steps + 1) now =
      match s.advance service now with
      | (none, t, later) => t.run service steps later
      | (some outcome, t, later) => (outcome, t, later) := by
  rw [run, advance]
  split
  · rfl
  · cases s.cursor.page with
    | nil =>
        dsimp only
        split
        · rfl
        · rcases s.cursor.fetch service now with ⟨e | count, c', later⟩ <;> rfl
    | cons hit rest =>
        dsimp only
        cases ({ s with cursor := { s.cursor with page := rest } } : Sampler).look hit <;> rfl

/-- A run with steps enough is all there is to look at. The induction is on the steps that are taken. -/
theorem run_of_walk {steps : Nat} {outcome : Except Error Unit × Sampler × τ}
    (hwalk : s.walk service steps now = some outcome) {enough : Nat} (henough : steps ≤ enough) :
    s.run service enough now = outcome := by
  induction steps generalizing s now enough with
  | zero => cases hwalk
  | succ steps ih =>
      obtain ⟨enough, rfl⟩ := Nat.exists_eq_add_of_le' henough
      rw [walk] at hwalk
      rw [← Nat.add_assoc, run_succ]
      rcases hadvance : s.advance service now with ⟨last, t, later⟩
      rw [hadvance] at hwalk
      cases last with
      | none => exact ih hwalk (Nat.le_add_left ..)
      | some last => exact Option.some.inj hwalk

/-- What one step can be: the last one, a page that is fetched, or a hit that is looked at. -/
inductive Advances (service : ScrollService τ) (s : Sampler) (now : τ) :
    Option (Except Error Unit) × Sampler × τ → Prop where
  /-- There is nothing to look at, or nothing more to learn. -/
  | stops (hstop : s.goesOn = false ∨ s.cursor.exhausted = true) :
      Advances service s now (some (.ok ()), s, now)
  /-- No page could be fetched. -/
  | unfetched {e : Error} {c' : Cursor} {later : τ} (hgoes : s.goesOn = true)
      (hpage : s.cursor.page = []) (hfetch : s.cursor.fetch service now = (.error e, c', later)) :
      Advances service s now (some (.error e), { s with cursor := c' }, later)
  /-- A page is fetched. -/
  | fetched {count : Nat} {c' : Cursor} {later : τ} (hgoes : s.goesOn = true)
      (hpage : s.cursor.page = []) (hexhausted : ¬ s.cursor.exhausted = true)
      (hfetch : s.cursor.fetch service now = (.ok count, c', later)) :
      Advances service s now (none, { s with cursor := c' }, later)
  /-- A hit has no document. -/
  | refused {e : Error} {hit : Json} {rest : List Json} (hgoes : s.goesOn = true)
      (hpage : s.cursor.page = hit :: rest) :
      Advances service s now
        (some (.error e), { s with cursor := { s.cursor with page := rest } }, now)
  /-- A hit is looked at. -/
  | looked {hit : Json} {rest : List Json} {t : Sampler} (hgoes : s.goesOn = true)
      (hpage : s.cursor.page = hit :: rest)
      (hcursor : t.cursor = { s.cursor with page := rest }) (hsize : t.size = s.size)
      (hseen : t.sample.seen = s.sample.seen + 1) : Advances service s now (none, t, now)

/-- **A step is one of the cases of `Advances`.** -/
theorem advances_advance (service : ScrollService τ) (s : Sampler) (now : τ) :
    Advances service s now (s.advance service now) := by
  rw [advance]
  by_cases hgoes : s.goesOn = true
  · rw [hgoes, Bool.not_true, if_neg Bool.false_ne_true]
    cases hpage : s.cursor.page with
    | nil =>
        dsimp only
        by_cases hexhausted : s.cursor.exhausted = true
        · rw [if_pos hexhausted]
          exact .stops (.inr hexhausted)
        · rw [if_neg hexhausted]
          rcases hfetch : s.cursor.fetch service now with ⟨e | count, c', later⟩
          · exact .unfetched hgoes hpage hfetch
          · exact .fetched hgoes hpage hexhausted hfetch
    | cons hit rest =>
        dsimp only
        cases hit with
        | obj members => exact .looked hgoes hpage rfl rfl rfl
        | null | bool | int | float | str | arr => exact .refused hgoes hpage
  · have hstops : s.goesOn = false := by simpa using hgoes
    rw [hstops, Bool.not_false, if_pos rfl]
    exact .stops (.inl hstops)

/-- **No step but the last one leaves a sampler as it was.** -/
theorem ne_of_advance (hadvance : s.advance service now = (none, t, later)) : t ≠ s := by
  have hcase := advances_advance service s now
  rw [hadvance] at hcase
  cases hcase with
  | @fetched count c' _ _ hpage hexhausted hfetch =>
      -- a cursor that has fetched is opened and has a page, or it has finished
      have hunfinished : s.cursor.finished = false := by
        simpa [Cursor.exhausted, hpage] using hexhausted
      intro heq
      have hsame : c' = s.cursor := congrArg Sampler.cursor heq
      by_cases hended : c'.exhausted = true
      · exact hexhausted (hsame ▸ hended)
      · exact Cursor.page_ne_nil_of_fetch hfetch hended (hsame ▸ hpage)
  | looked _ hpage hcursor =>
      rintro rfl
      rw [hcursor] at hpage
      exact absurd (congrArg List.length hpage) (by simp)

/-- A sampler that goes on has room for one more document. -/
theorem seen_lt_of_goesOn (hgoes : s.goesOn = true) : s.sample.seen < s.size := by
  simp only [goesOn, Bool.and_eq_true, decide_eq_true_eq] at hgoes
  exact hgoes.1

/-- The last step of a sampler that does not go on, or whose cursor is exhausted. -/
theorem advance_of_stop (hstop : s.goesOn = false ∨ s.cursor.exhausted = true)
    (service : ScrollService τ) (now : τ) : s.advance service now = (some (.ok ()), s, now) := by
  rw [advance]
  by_cases hgoes : s.goesOn = true
  · have hexhausted := hstop.resolve_left (by simp [hgoes])
    have hpage : s.cursor.page = [] := by
      simp only [Cursor.exhausted, Bool.and_eq_true, List.isEmpty_iff] at hexhausted
      exact hexhausted.2
    simp [hgoes, hpage, hexhausted]
  · have hstops : s.goesOn = false := by simpa using hgoes
    simp [hstops]

end Walk

/-- A fetch asks for one page at most, and for none only if it finishes the cursor. -/
theorem pagesAsked_of_fetch {service : ScrollService τ} {c c' : Cursor} {now later : τ × List Exchange}
    {answer : Except Error Nat} (hfetch : c.fetch service.recorded now = (answer, c', later)) :
    pagesAsked later.2 = pagesAsked now.2 + 1 ∨
      pagesAsked later.2 = pagesAsked now.2 ∧ c' = { c with finished := true } := by
  have hcase := Cursor.fetch_fetch service.recorded c now
  rw [hfetch] at hcase
  cases hcase with
  | idle => exact .inr ⟨rfl, rfl⟩
  | opens _ _ hstart =>
      rw [ScrollService.log_of_start hstart, pagesAsked_concat]
      exact .inl rfl
  | continues _ _ _ hnext =>
      rw [ScrollService.log_of_next hnext, pagesAsked_concat]
      exact .inl rfl

/-- How many steps there may be left: two for each document that may be looked at, but for the last step. -/
def left (s : Sampler) : Nat :=
  max 1 (2 * (s.size - s.sample.seen) + if s.cursor.page = [] then 1 else 0)

section Left

variable {service : ScrollService τ} {s t : Sampler} {now later : τ × List Exchange}

/-- **Looking at documents comes to an end**, after one step for each document, one for each page that is
asked for and two more, and in any case after as many as are left. The induction is on these. -/
theorem exists_walk (service : ScrollService τ) (s : Sampler) (now : τ × List Exchange) :
    ∃ steps outcome t later, s.walk service.recorded steps now = some (outcome, t, later) ∧
      steps + s.sample.seen + pagesAsked now.2 ≤ t.sample.seen + pagesAsked later.2 + 2 ∧
      steps ≤ s.left := by
  have hlast : ∀ {s t : Sampler} {now later : τ × List Exchange} {outcome : Except Error Unit},
      s.advance service.recorded now = (some outcome, t, later) →
        s.walk service.recorded 1 now = some (outcome, t, later) := by
    intro s t now later outcome hadvance
    rw [walk, hadvance]
  induction hleft : s.left using Nat.strongRecOn generalizing s now with
  | ind left ih =>
      subst hleft
      have hone : 1 ≤ s.left := Nat.le_max_left ..
      have hcase := advances_advance service.recorded s now
      rcases hadvance : s.advance service.recorded now with ⟨last, t, later⟩
      rw [hadvance] at hcase
      cases hcase with
      | stops => exact ⟨1, _, s, now, hlast hadvance, by omega, hone⟩
      | unfetched _ _ hfetch =>
          refine ⟨1, _, _, later, hlast hadvance, ?_, hone⟩
          rcases pagesAsked_of_fetch hfetch with hpages | ⟨hpages, -⟩ <;> (dsimp only; omega)
      | refused => exact ⟨1, _, _, now, hlast hadvance, by dsimp only; omega, hone⟩
      | @looked hit rest _ hgoes hpage hcursor hsize hseen =>
          have hmore := seen_lt_of_goesOn hgoes
          have hless : t.left + 1 ≤ s.left := by
            rw [Sampler.left, Sampler.left, hsize, hseen, hpage, if_neg (by simp : ¬ hit :: rest = [])]
            split <;> omega
          obtain ⟨steps, outcome, u, final, hwalk, hsteps, hbound⟩ := ih _ (by omega) t now rfl
          refine ⟨steps + 1, outcome, u, final, ?_, by omega, by omega⟩
          rw [walk, hadvance]
          exact hwalk
      | @fetched count c' _ hgoes hpage hexhausted hfetch =>
          have hmore := seen_lt_of_goesOn hgoes
          by_cases hended : c'.exhausted = true
          · -- the next step is the last one
            have hstop := advance_of_stop (s := { s with cursor := c' }) (.inr hended)
              service.recorded later
            refine ⟨2, .ok (), { s with cursor := c' }, later, ?_, ?_, ?_⟩
            · rw [walk, hadvance]
              exact hlast hstop
            · rcases pagesAsked_of_fetch hfetch with hpages | ⟨hpages, -⟩ <;> (dsimp only; omega)
            · rw [Sampler.left]
              omega
          · have hnonempty := Cursor.page_ne_nil_of_fetch hfetch hended
            have hpages : pagesAsked later.2 = pagesAsked now.2 + 1 := by
              rcases pagesAsked_of_fetch hfetch with hpages | ⟨-, rfl⟩
              · exact hpages
              · exact absurd hpage hnonempty
            have hless : Sampler.left { s with cursor := c' } + 1 ≤ s.left := by
              rw [Sampler.left, Sampler.left, if_pos hpage, if_neg hnonempty]
              dsimp only
              omega
            obtain ⟨steps, outcome, u, final, hwalk, hsteps, hbound⟩ :=
              ih _ (by omega) { s with cursor := c' } later rfl
            refine ⟨steps + 1, outcome, u, final, ?_, ?_, by omega⟩
            · rw [walk, hadvance]
              exact hwalk
            · dsimp only at hsteps
              omega

end Left

end Sampler

/-! ## Both loops -/

/-- **No loop spins.** For every service and every scan, wherever it stands: no step with more to do leaves
the scan as it was; and when what the service serves has an end, a page that is empty or comes without an
id or a request that fails, a call comes to a row, to the end or to a failure, after at most one step for
each hit that it takes, two for each page that it asks for, and four more. The same goes for looking at
documents for a sample, with one step for each hit and page and two more, whatever the service serves; with
two steps for each document and one more at most, so that a run of as many as the step bound allows is never
cut short. -/
theorem ScrollService.loops_end (service : ScrollService τ) :
    (∀ (s : Scan) (now : τ),
      (∀ (t : Scan) (later : τ), s.advance service now = (.again, t, later) → t ≠ s) ∧
      ((∃ asked, (s.coming service asked now).ending ≠ .more) →
        ∃ steps turn t later log,
          s.next service.recorded steps (now, []) = some (turn, t, later, log) ∧ turn ≠ .again ∧
          steps ≤ (s.takenBy service.recorded steps (now, [])).length + 2 * pagesAsked log + 4)) ∧
    (∀ (s : Sampler) (now : τ),
      (∀ (t : Sampler) (later : τ), s.advance service now = (none, t, later) → t ≠ s) ∧
      ∃ steps outcome t later log,
        s.walk service.recorded steps (now, []) = some (outcome, t, later, log) ∧
        steps + s.sample.seen ≤ t.sample.seen + pagesAsked log + 2 ∧
        steps ≤ 2 * (s.size - s.sample.seen) + 1 ∧
        s.run service.recorded s.stepBound (now, []) = (outcome, t, later, log)) := by
  refine ⟨fun s now => ⟨fun t later => Scan.ne_of_again, ?_⟩,
    fun s now => ⟨fun t later => Sampler.ne_of_advance, ?_⟩⟩
  · rintro ⟨asked, hends⟩
    rw [← s.coming_recorded service asked now []] at hends
    obtain ⟨steps, turn, t, later, hrun, hturn, hsteps⟩ := Scan.exists_run hends
    have hslack := s.slack_bounds.2
    have hnone : pagesAsked [] = 0 := rfl
    have hbound : steps ≤ (s.takenBy service.recorded steps (now, [])).length +
        2 * pagesAsked later.2 + 4 := by
      dsimp only at hsteps
      omega
    have hnext : s.next service.recorded steps (now, []) =
        some (Scan.settle service.recorded (turn, t, later)) := by
      rw [Scan.next, hrun]
      rfl
    cases turn with
    | again => exact absurd rfl hturn
    | row | finished => exact ⟨steps, _, t, later.1, later.2, hnext, hturn, hbound⟩
    | failed e =>
        -- the end of a failed call asks for no page
        obtain ⟨turn', heq, hfailed⟩ := Scan.exhaustThen_eq service.recorded (.failed e) t later
        have hpages := Scan.pagesAsked_of_exhaust (Scan.exhaust_exhaust service.recorded t later)
        refine ⟨steps, turn', _, _, _, hnext.trans (congrArg some heq), ?_, ?_⟩
        · rcases hfailed with rfl | ⟨e', rfl⟩ <;> simp
        · rw [hpages]
          exact hbound
  · obtain ⟨steps, outcome, t, ⟨later, log⟩, hwalk, hsteps, hbound⟩ :=
      Sampler.exists_walk service s (now, [])
    have hnone : pagesAsked [] = 0 := rfl
    have hleft : s.left ≤ 2 * (s.size - s.sample.seen) + 1 := by
      rw [Sampler.left]
      split <;> omega
    refine ⟨steps, outcome, t, later, log, hwalk, by dsimp only at hsteps; omega, by omega, ?_⟩
    refine Sampler.run_of_walk hwalk ?_
    rw [Sampler.stepBound]
    omega

/-- Three documents, all of them skipped, on a page with an id and on one without: no more pages are to
come after two, and the call comes to something. -/
theorem ScrollService.loops_end_without_row :
    let hit (id : String) : Json := .obj [("_id", .str id)]
    let pages : List ScrollPage := [⟨some "a", [hit "1", hit "2"]⟩, ⟨none, [hit "3"]⟩]
    let serve : Task (List ScrollPage) ScrollPage := fun
      | [] => (.ok ⟨none, []⟩, [])
      | page :: pages => (.ok page, pages)
    let service : ScrollService (List ScrollPage) :=
      ⟨fun _ => serve, fun _ _ => serve, fun _ pages => (.ok true, pages), fun _ pages => pages⟩
    let schema : Schema := { columns := [] }
    let order : ScanOrder := { columns := ["_id"], offset := .int 3 }
    ∃ r s, order.compile schema "documents" {} = .ok r ∧ Scan.create r schema = .ok s ∧
      (s.coming service 2 pages).ending ≠ .more ∧
      ∃ steps turn t later log,
        s.next service.recorded steps (pages, []) = some (turn, t, later, log) ∧ turn ≠ .again ∧
        steps ≤ (s.takenBy service.recorded steps (pages, [])).length + 2 * pagesAsked log + 4 := by
  intro hit pages serve service schema order
  obtain ⟨r, hr, hcreate⟩ : ∃ r, order.compile schema "documents" {} = .ok r ∧
      ∃ s, Scan.create r schema = .ok s ∧ (s.coming service 2 pages).ending = .last :=
    ⟨_, rfl, _, rfl, rfl⟩
  obtain ⟨s, hs, hlast⟩ := hcreate
  have hends : (s.coming service 2 pages).ending ≠ .more := by
    rw [hlast]
    simp
  exact ⟨r, s, hr, hs, hends, ((loops_end service).1 s pages).2 ⟨2, hends⟩⟩

end SearchTables
