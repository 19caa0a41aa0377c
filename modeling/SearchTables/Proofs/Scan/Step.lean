import SearchTables.Proofs.Outcome
import SearchTables.Scan.Engine

/-! # Steps — what a scan can do

A scan goes from step to step: it begins, fetches a page, takes a hit off it, or ends. `Step` says
what each of these changes, and every step of a scan is one of them (`step_advance`); `Fetch`,
`Close` and `Exhaust` say the same of its cursor and of its end. Whoever uses a scan asks for rows
and closes it, in any order (`Scan.Reaches`). What every step and every end keep, all of these calls
keep, whatever the requests come to and wherever a call is broken off (`Keeps.of_reaches`). -/

namespace SearchTables

variable {τ : Type}

/-- The rows that a step or a call comes to: one or none. -/
def Turn.rows : Turn → List Row
  | .row found => [found]
  | _ => []

/-- A step with more to do brings no row. -/
@[simp] theorem Turn.rows_again : Turn.again.rows = [] := rfl

/-- A failure brings no row. -/
@[simp] theorem Turn.rows_failed (e : Error) : (Turn.failed e).rows = [] := rfl

/-! ## Cursors -/

namespace Cursor

/-- What a fetch can be. -/
inductive Fetch (service : ScrollService τ) (c : Cursor) (state : τ) :
    Except Error Nat × Cursor × τ → Prop where
  /-- Nothing is left to ask for. -/
  | idle (hdone : c.finished = true ∨ c.opened = true ∧ c.scrollId = none) :
      Fetch service c state (.ok 0, { c with finished := true }, state)
  /-- The scroll is opened. -/
  | opens {answer : Except Error ScrollPage} {later : τ} (hfinished : c.finished = false)
      (hopened : c.opened = false) (hstart : service.start c.search state = (answer, later)) :
      Fetch service c state
        ((received { c with opened := true } answer).1,
          (received { c with opened := true } answer).2, later)
  /-- The next page is asked for. -/
  | continues {id : String} {answer : Except Error ScrollPage} {later : τ}
      (hfinished : c.finished = false) (hopened : c.opened = true) (hid : c.scrollId = some id)
      (hnext : service.next id c.search.scroll state = (answer, later)) :
      Fetch service c state ((c.received answer).1, (c.received answer).2, later)

/-- A cursor with nothing left to ask for asks for nothing. -/
theorem fetch_idle {c : Cursor} (hdone : c.finished = true ∨ c.opened = true ∧ c.scrollId = none)
    (service : ScrollService τ) (state : τ) :
    c.fetch service state = (.ok 0, { c with finished := true }, state) := by
  by_cases hfinished : c.finished = true
  · rw [fetch, if_pos hfinished, ← hfinished]
  · obtain ⟨hopened, hid⟩ := hdone.resolve_left hfinished
    simp [fetch, hfinished, hopened, hid]

/-- A cursor that was not opened opens its scroll. -/
theorem fetch_opens {service : ScrollService τ} {c : Cursor} {state later : τ}
    {answer : Except Error ScrollPage} (hfinished : c.finished = false) (hopened : c.opened = false)
    (hstart : service.start c.search state = (answer, later)) :
    c.fetch service state =
      ((received { c with opened := true } answer).1,
        (received { c with opened := true } answer).2, later) := by
  simp [fetch, hfinished, hopened, hstart]

/-- A cursor that was opened goes on with its scroll. -/
theorem fetch_continues {service : ScrollService τ} {c : Cursor} {state later : τ} {id : String}
    {answer : Except Error ScrollPage} (hfinished : c.finished = false) (hopened : c.opened = true)
    (hid : c.scrollId = some id) (hnext : service.next id c.search.scroll state = (answer, later)) :
    c.fetch service state = ((c.received answer).1, (c.received answer).2, later) := by
  simp [fetch, hfinished, hopened, hid, hnext]

/-- **A fetch of a cursor is one of the cases of `Fetch`.** -/
theorem fetch_fetch (service : ScrollService τ) (c : Cursor) (state : τ) :
    Fetch service c state (c.fetch service state) := by
  by_cases hfinished : c.finished = true
  · rw [fetch_idle (.inl hfinished)]
    exact .idle (.inl hfinished)
  have hgoing : c.finished = false := by simpa using hfinished
  by_cases hopened : c.opened = true
  · rcases hid : c.scrollId with - | id
    · rw [fetch_idle (.inr ⟨hopened, hid⟩)]
      exact .idle (.inr ⟨hopened, hid⟩)
    · rcases hnext : service.next id c.search.scroll state with ⟨answer, later⟩
      rw [fetch_continues hgoing hopened hid hnext]
      exact .continues hgoing hopened hid hnext
  · have hunopened : c.opened = false := by simpa using hopened
    rcases hstart : service.start c.search state with ⟨answer, later⟩
    rw [fetch_opens hgoing hunopened hstart]
    exact .opens hgoing hunopened hstart

/-- What closing a cursor can be. -/
inductive Close (service : ScrollService τ) (c : Cursor) (state : τ) :
    Except Error Unit × Cursor × τ → Prop where
  /-- It was closed before. -/
  | again (hclosed : c.closed = true) :
      Close service c state (.ok (), { c with finished := true, page := [] }, state)
  /-- There is no scroll to release. -/
  | bare (hclosed : c.closed = false) (hid : c.scrollId = none) :
      Close service c state (.ok (), { c with finished := true, page := [], closed := true }, state)
  /-- The scroll is released; whether that went well is of no concern. -/
  | released {id : String} {done : Bool} {later : τ} (hclosed : c.closed = false)
      (hid : c.scrollId = some id) (hrelease : service.release id state = (.ok done, later)) :
      Close service c state
        (.ok (), { c with finished := true, page := [], closed := true, scrollId := none }, later)
  /-- The release fails. -/
  | unreleased {id : String} {e : Error} {later : τ} (hclosed : c.closed = false)
      (hid : c.scrollId = some id) (hrelease : service.release id state = (.error e, later)) :
      Close service c state
        (.error e, { c with finished := true, page := [], closed := true }, later)

/-- A cursor is closed once. -/
theorem close_again {c : Cursor} (hclosed : c.closed = true) (service : ScrollService τ) (state : τ) :
    c.close service state = (.ok (), { c with finished := true, page := [] }, state) := by
  simp [close, hclosed]

/-- A cursor without a scroll releases none. -/
theorem close_bare {c : Cursor} (hclosed : c.closed = false) (hid : c.scrollId = none)
    (service : ScrollService τ) (state : τ) :
    c.close service state =
      (.ok (), { c with finished := true, page := [], closed := true }, state) := by
  simp [close, hclosed, hid]

section Release

variable {service : ScrollService τ} {c : Cursor} {state later : τ} {id : String}

/-- A cursor whose scroll is released forgets its id. -/
theorem close_released {done : Bool} (hclosed : c.closed = false) (hid : c.scrollId = some id)
    (hrelease : service.release id state = (.ok done, later)) :
    c.close service state =
      (.ok (), { c with finished := true, page := [], closed := true, scrollId := none },
        later) := by
  simp [close, hclosed, hid, hrelease]

/-- A cursor whose scroll cannot be released keeps its id. -/
theorem close_unreleased {e : Error} (hclosed : c.closed = false) (hid : c.scrollId = some id)
    (hrelease : service.release id state = (.error e, later)) :
    c.close service state =
      (.error e, { c with finished := true, page := [], closed := true }, later) := by
  simp [close, hclosed, hid, hrelease]

end Release

/-- Closing a cursor is one of the cases of `Close`. -/
theorem close_close (service : ScrollService τ) (c : Cursor) (state : τ) :
    Close service c state (c.close service state) := by
  by_cases hclosed : c.closed = true
  · rw [close_again hclosed]
    exact .again hclosed
  have hunclosed : c.closed = false := by simpa using hclosed
  rcases hid : c.scrollId with - | id
  · rw [close_bare hunclosed hid]
    exact .bare hunclosed hid
  rcases hrelease : service.release id state with ⟨e | done, later⟩
  · rw [close_unreleased hunclosed hid hrelease]
    exact .unreleased hunclosed hid hrelease
  · rw [close_released hunclosed hid hrelease]
    exact .released hunclosed hid hrelease

end Cursor

namespace Scan

/-! ## One step -/

/-- A scan that was just made was not started. -/
theorem fresh_of_create {r : ScanRequest} {schema : Schema} {s : Scan}
    (h : Scan.create r schema = .ok s) :
    s.request = r ∧ s.state = .init ∧ s.cursor = none := by
  rw [Scan.create, bind_eq_ok] at h
  obtain ⟨decoder, -, h⟩ := h
  split at h
  · obtain rfl : _ = s := by simpa using h
    exact ⟨rfl, rfl, rfl⟩
  · obtain ⟨filterDecoder, -, h⟩ := bind_eq_ok.1 h
    obtain rfl : _ = s := by simpa using h
    exact ⟨rfl, rfl, rfl⟩

/-- A scan that was just made has the decoders of its request, and has counted nothing. -/
theorem exists_of_create {r : ScanRequest} {schema : Schema} {s : Scan}
    (h : Scan.create r schema = .ok s) :
    ∃ decoder filterDecoder, RowDecoder.create r.columns schema = .ok decoder ∧
      (∀ filter, r.rowFilter = some filter → ∃ all,
        RowDecoder.create (idColumn :: schema.columns.map (·.name)) schema = .ok all ∧
          filterDecoder = some all) ∧
      s = { request := r, body := r.body, decoder, filterDecoder } := by
  rw [Scan.create, bind_eq_ok] at h
  obtain ⟨decoder, hdecoder, h⟩ := h
  split at h
  · rename_i hnone
    obtain rfl : _ = s := by simpa using h
    exact ⟨decoder, none, hdecoder, by simp [hnone], rfl⟩
  · obtain ⟨all, hall, h⟩ := bind_eq_ok.1 h
    obtain rfl : _ = s := by simpa using h
    exact ⟨decoder, some all, hdecoder, fun _ _ => ⟨all, hall, rfl⟩, rfl⟩

/-- What can come of a hit that was taken off the page. -/
inductive Takes (service : ScrollService τ) (s : Scan) (hit : Json) (state : τ) :
    Turn × Scan × τ → Prop where
  /-- The row filter has no answer. -/
  | unanswered {e : Error} (hrejects : s.rejects hit = .error e) :
      Takes service s hit state (.failed e, s, state)
  /-- The row filter rejects the hit. -/
  | rejected (hrejects : s.rejects hit = .ok true) :
      Takes service s hit state (.again, { s with rejected := s.rejected + 1 }, state)
  /-- The hit is left out because of the offset. -/
  | skipped (hrejects : s.rejects hit = .ok false) (hskip : s.skipped < s.request.offset) :
      Takes service s hit state (.again, { s with skipped := s.skipped + 1 }, state)
  /-- The hit has no row. -/
  | undecoded {e : Error} (hrejects : s.rejects hit = .ok false)
      (hskip : ¬ s.skipped < s.request.offset) (hdecode : s.decoder.decode hit = .error e) :
      Takes service s hit state (.failed e, s, state)
  /-- The row of the hit is returned. -/
  | row {row : Row} (hrejects : s.rejects hit = .ok false)
      (hskip : ¬ s.skipped < s.request.offset) (hdecode : s.decoder.decode hit = .ok row)
      (hlimit : ¬ { s with emitted := s.emitted + 1 }.atLimit = true) :
      Takes service s hit state (.row row, { s with emitted := s.emitted + 1 }, state)
  /-- The row of the hit is the last one. -/
  | lastRow {row : Row} (hrejects : s.rejects hit = .ok false)
      (hskip : ¬ s.skipped < s.request.offset) (hdecode : s.decoder.decode hit = .ok row)
      (hlimit : { s with emitted := s.emitted + 1 }.atLimit = true) :
      Takes service s hit state
        ({ s with emitted := s.emitted + 1 }.exhaustThen service (.row row) state)

/-- What a step can be. -/
inductive Step (service : ScrollService τ) (s : Scan) (state : τ) : Turn × Scan × τ → Prop where
  /-- The scan has ended. -/
  | finished (hstate : s.state = .exhausted) : Step service s state (.finished, s, state)
  /-- No rows are asked for. -/
  | nothing (hstate : s.state = .init) (hlimit : s.request.limit = some 0) :
      Step service s state (s.exhaustThen service .again state)
  /-- The scan begins. -/
  | begins (hstate : s.state = .init) (hlimit : s.request.limit ≠ some 0) :
      Step service s state
        (.again, { s with cursor := some { search := s.search }, state := .fetching },
          service.log (record ("starting scan of " ++ s.request.index)) state)
  /-- There is no cursor. -/
  | lost (hstate : s.state = .fetching ∨ s.state = .draining) (hcursor : s.cursor = none) :
      Step service s state (.failed .badState, s, state)
  /-- No page could be fetched. -/
  | unfetched {c c' : Cursor} {state' : τ} {e : Error} (hstate : s.state = .fetching)
      (hcursor : s.cursor = some c) (hfetch : c.fetch service state = (.error e, c', state')) :
      Step service s state (.failed e, { s with cursor := some c' }, state')
  /-- There are no more hits. -/
  | ends {c c' : Cursor} {state' : τ} {count : Nat} (hstate : s.state = .fetching)
      (hcursor : s.cursor = some c) (hfetch : c.fetch service state = (.ok count, c', state'))
      (hexhausted : c'.exhausted = true) :
      Step service s state ({ s with cursor := some c' }.exhaustThen service .again state')
  /-- There is a page of hits. -/
  | fetched {c c' : Cursor} {state' : τ} {count : Nat} (hstate : s.state = .fetching)
      (hcursor : s.cursor = some c) (hfetch : c.fetch service state = (.ok count, c', state'))
      (hexhausted : ¬ c'.exhausted = true) :
      Step service s state (.again, { s with cursor := some c', state := .draining }, state')
  /-- The page is used up. -/
  | drained {c : Cursor} (hstate : s.state = .draining) (hcursor : s.cursor = some c)
      (hpage : c.page = []) : Step service s state (.again, { s with state := .fetching }, state)
  /-- A hit is taken off the page. -/
  | takes {c : Cursor} {hit : Json} {rest : List Json} {outcome : Turn × Scan × τ}
      (hstate : s.state = .draining) (hcursor : s.cursor = some c) (hpage : c.page = hit :: rest)
      (htakes : Takes service { s with cursor := some { c with page := rest } } hit state outcome) :
      Step service s state outcome

/-- What comes of a hit is one of the cases of `Takes`. -/
theorem takes_take (service : ScrollService τ) (s : Scan) (hit : Json) (state : τ) :
    Takes service s hit state (s.take service hit state) := by
  rw [take]
  cases hrejects : s.rejects hit with
  | error e => exact .unanswered hrejects
  | ok rejected =>
      cases rejected with
      | true => exact .rejected hrejects
      | false =>
          by_cases hskip : s.skipped < s.request.offset
          · simp only [if_pos hskip]
            exact .skipped hrejects hskip
          · simp only [if_neg hskip]
            cases hdecode : s.decoder.decode hit with
            | error e => exact .undecoded hrejects hskip hdecode
            | ok row =>
                by_cases hlimit : { s with emitted := s.emitted + 1 }.atLimit = true
                · simp only [if_pos hlimit]
                  exact .lastRow hrejects hskip hdecode hlimit
                · simp only [if_neg hlimit]
                  exact .row hrejects hskip hdecode hlimit

section Advance

variable {s : Scan} {c : Cursor}

/-- A scan that has ended goes no further. -/
theorem advance_exhausted (hstate : s.state = .exhausted) (service : ScrollService τ) (state : τ) :
    s.advance service state = (.finished, s, state) := by
  rw [advance, hstate]

/-- A scan that was not started starts. -/
theorem advance_init (hstate : s.state = .init) (service : ScrollService τ) (state : τ) :
    s.advance service state = s.start service state := by
  rw [advance, hstate]

/-- A scan that was started goes no further without a cursor. -/
theorem advance_lost (hstate : s.state = .fetching ∨ s.state = .draining) (hcursor : s.cursor = none)
    (service : ScrollService τ) (state : τ) :
    s.advance service state = (.failed .badState, s, state) := by
  rcases hstate with hstate | hstate <;> rw [advance, hstate, hcursor]

/-- A scan without a page fetches one. -/
theorem advance_fetching (hstate : s.state = .fetching) (hcursor : s.cursor = some c)
    (service : ScrollService τ) (state : τ) :
    s.advance service state = s.fetchPage service c state := by
  rw [advance, hstate, hcursor]

/-- A page that is used up is followed by the next one. -/
theorem advance_drained (hstate : s.state = .draining) (hcursor : s.cursor = some c)
    (hpage : c.page = []) (service : ScrollService τ) (state : τ) :
    s.advance service state = (.again, { s with state := .fetching }, state) := by
  rw [advance, hstate, hcursor]
  simp only [hpage]

/-- A hit is taken off a page. -/
theorem advance_draining {hit : Json} {rest : List Json} (hstate : s.state = .draining)
    (hcursor : s.cursor = some c) (hpage : c.page = hit :: rest) (service : ScrollService τ)
    (state : τ) :
    s.advance service state =
      { s with cursor := some { c with page := rest } }.take service hit state := by
  rw [advance, hstate, hcursor]
  simp only [hpage]

end Advance

/-- **A step of a scan is one of the cases of `Step`.** -/
theorem step_advance (service : ScrollService τ) (s : Scan) (state : τ) :
    Step service s state (s.advance service state) := by
  -- the cases follow the state of the scan, then its cursor and what that has left of a page
  cases hstate : s.state with
  | exhausted =>
      rw [advance_exhausted hstate]
      exact .finished hstate
  | init =>
      rw [advance_init hstate, start]
      by_cases hlimit : s.request.limit = some 0
      · rw [if_pos hlimit]
        exact .nothing hstate hlimit
      · rw [if_neg hlimit]
        exact .begins hstate hlimit
  | fetching =>
      cases hcursor : s.cursor with
      | none =>
          rw [advance_lost (.inl hstate) hcursor]
          exact .lost (.inl hstate) hcursor
      | some c =>
          rw [advance_fetching hstate hcursor, fetchPage]
          rcases hfetch : c.fetch service state with ⟨answer, c', state'⟩
          cases answer with
          | error e => exact .unfetched hstate hcursor hfetch
          | ok count =>
              by_cases hexhausted : c'.exhausted = true
              · simp only [if_pos hexhausted]
                exact .ends hstate hcursor hfetch hexhausted
              · simp only [if_neg hexhausted]
                exact .fetched hstate hcursor hfetch hexhausted
  | draining =>
      cases hcursor : s.cursor with
      | none =>
          rw [advance_lost (.inr hstate) hcursor]
          exact .lost (.inr hstate) hcursor
      | some c =>
          cases hpage : c.page with
          | nil =>
              rw [advance_drained hstate hcursor hpage]
              exact .drained hstate hcursor hpage
          | cons hit rest =>
              rw [advance_draining hstate hcursor hpage]
              exact .takes hstate hcursor hpage (takes_take service _ hit state)

/-- The log record of the end of a scan. -/
def finish (service : ScrollService τ) (s : Scan) : τ → τ :=
  service.log (record ("scan of " ++ s.request.index ++ " finished"))

/-- What the end of a scan can be. -/
inductive Exhaust (service : ScrollService τ) (s : Scan) (state : τ) :
    Except Error Unit × Scan × τ → Prop where
  /-- It had ended before. -/
  | finished (hstate : s.state = .exhausted) : Exhaust service s state (.ok (), s, state)
  /-- It was not started. -/
  | bare (hstate : s.state ≠ .exhausted) (hcursor : s.cursor = none) :
      Exhaust service s state (.ok (), { s with state := .exhausted }, s.finish service state)
  /-- The cursor is closed. -/
  | closed {c c' : Cursor} {later : τ} (hstate : s.state ≠ .exhausted)
      (hcursor : s.cursor = some c) (hclose : c.close service state = (.ok (), c', later)) :
      Exhaust service s state
        (.ok (), { s with state := .exhausted, cursor := some c' }, s.finish service later)
  /-- Closing the cursor fails. -/
  | failed {c c' : Cursor} {later : τ} {e : Error} (hstate : s.state ≠ .exhausted)
      (hcursor : s.cursor = some c) (hclose : c.close service state = (.error e, c', later)) :
      Exhaust service s state (.error e, { s with state := .exhausted, cursor := some c' }, later)

section End

variable {service : ScrollService τ} {s : Scan} {c c' : Cursor} {state later : τ}

/-- A scan ends once. -/
theorem exhaust_finished (hstate : s.state = .exhausted) :
    s.exhaust service state = (.ok (), s, state) := by
  rw [exhaust, if_pos hstate]

/-- A scan without a cursor ends with a log record. -/
theorem exhaust_bare (hstate : s.state ≠ .exhausted) (hcursor : s.cursor = none) :
    s.exhaust service state =
      (.ok (), { s with state := .exhausted }, s.finish service state) := by
  simp [exhaust, hstate, hcursor, finish]

/-- A scan with a cursor closes it first. -/
theorem exhaust_closed (hstate : s.state ≠ .exhausted) (hcursor : s.cursor = some c)
    (hclose : c.close service state = (.ok (), c', later)) :
    s.exhaust service state =
      (.ok (), { s with state := .exhausted, cursor := some c' }, s.finish service later) := by
  simp [exhaust, hstate, hcursor, hclose, finish]

/-- A scan whose cursor cannot be closed ends all the same. -/
theorem exhaust_failed {e : Error} (hstate : s.state ≠ .exhausted) (hcursor : s.cursor = some c)
    (hclose : c.close service state = (.error e, c', later)) :
    s.exhaust service state =
      (.error e, { s with state := .exhausted, cursor := some c' }, later) := by
  simp [exhaust, hstate, hcursor, hclose]

end End

/-- The end of a scan is one of the cases of `Exhaust`. -/
theorem exhaust_exhaust (service : ScrollService τ) (s : Scan) (state : τ) :
    Exhaust service s state (s.exhaust service state) := by
  by_cases hstate : s.state = .exhausted
  · rw [exhaust_finished hstate]
    exact .finished hstate
  rcases hcursor : s.cursor with - | c
  · rw [exhaust_bare hstate hcursor]
    exact .bare hstate hcursor
  rcases hclose : c.close service state with ⟨e | ⟨⟩, c', later⟩
  · rw [exhaust_failed hstate hcursor hclose]
    exact .failed hstate hcursor hclose
  · rw [exhaust_closed hstate hcursor hclose]
    exact .closed hstate hcursor hclose

/-- However a scan ends, it has ended. -/
theorem Exhaust.ended {service : ScrollService τ} {s : Scan} {state : τ}
    {outcome : Except Error Unit × Scan × τ} (h : Exhaust service s state outcome) :
    outcome.2.1.state = .exhausted := by
  cases h with
  | finished hstate => exact hstate
  | bare | closed | failed => rfl

/-- Ending a scan and going on leaves the scan as ending it does. -/
theorem exhaustThen_eq (service : ScrollService τ) (turn : Turn) (s : Scan) (state : τ) :
    ∃ turn', s.exhaustThen service turn state = (turn', (s.exhaust service state).2) ∧
      (turn' = turn ∨ ∃ e, turn' = .failed e) := by
  rw [exhaustThen]
  rcases s.exhaust service state with ⟨answer, t, final⟩
  cases answer with
  | ok _ => exact ⟨turn, rfl, .inl rfl⟩
  | error e => exact ⟨.failed e, rfl, .inr ⟨e, rfl⟩⟩

/-! ## Calls -/

/-- What a scan can come to in use, with the rows that it has returned: rows are asked for and the
scan is closed, as often as one likes and in any order. -/
inductive Reaches (service : ScrollService τ) (s : Scan) (state : τ) :
    List Row → Scan → τ → Prop where
  /-- Nothing was called. -/
  | start : Reaches service s state [] s state
  /-- A row is asked for, and the call comes to something. -/
  | next {rows : List Row} {t t' : Scan} {now later : τ} {steps : Nat} {turn : Turn}
      (h : Reaches service s state rows t now)
      (hnext : t.next service steps now = some (turn, t', later)) :
      Reaches service s state (rows ++ turn.rows) t' later
  /-- A row is asked for, and the call has taken one more step. It need not come to anything, and a
  request in it may break it off with a failure that is none of the scan's own. -/
  | within {rows : List Row} {t t' : Scan} {now later : τ} {turn : Turn}
      (h : Reaches service s state rows t now)
      (hadvance : t.advance service now = (turn, t', later)) (hturn : turn.rows = [])
      (hbroken : turn = .again ∨ t'.state ≠ .draining) : Reaches service s state rows t' later
  /-- The scan is closed, or the block that it serves is left. -/
  | close {rows : List Row} {t t' : Scan} {now later : τ} {answer : Except Error Unit}
      (h : Reaches service s state rows t now)
      (hclose : t.close service now = (answer, t', later)) :
      Reaches service s state rows t' later

/-- **Asking for all rows** is asking for them one after the other. The induction is on the rows. -/
theorem Reaches.rows {service : ScrollService τ} {s : Scan} {state : τ} {before : List Row}
    {t u : Scan} {now later : τ} (h : s.Reaches service state before t now) {steps count : Nat}
    {answer : Except Error (List Row)}
    (hrows : t.rows service steps count now = some (answer, u, later)) :
    ∃ rows, s.Reaches service state (before ++ rows) u later ∧
      ∀ found, answer = .ok found → found = rows := by
  induction count generalizing before t now answer with
  | zero => simp [Scan.rows] at hrows
  | succ count ih =>
      rw [Scan.rows] at hrows
      rcases hnext : t.next service steps now with - | ⟨turn, t', now'⟩
      · simp [hnext] at hrows
      have hreached := h.next hnext
      rw [hnext] at hrows
      -- after a row the others are asked for; any other turn is the last one
      cases turn with
      | row found =>
          obtain ⟨⟨rest, u', later'⟩, hrest, heq⟩ := Option.map_eq_some_iff.1 hrows
          obtain ⟨rfl, rfl, rfl⟩ : rest.map (found :: ·) = answer ∧ u' = u ∧ later' = later := by
            simpa using heq
          obtain ⟨rows, hrest, hfound⟩ := ih hreached hrest
          refine ⟨found :: rows, ?_, ?_⟩
          · rwa [List.append_assoc] at hrest
          · intro all hall
            cases rest with
            | error e => cases hall
            | ok rest =>
                obtain rfl := hfound rest rfl
                exact (Except.ok.inj hall).symm
      | again | finished | failed =>
          obtain ⟨rfl, rfl, rfl⟩ : _ ∧ t' = u ∧ now' = later := by simpa using hrows
          exact ⟨[], hreached, by simp⟩

/-- What every step and every end keep. A step that fails on a hit has lost the hit; after that the
scan ends, so only what holds then matters. -/
structure Keeps (service : ScrollService τ) (P : List Row → Scan → τ → Prop) : Prop where
  advance : ∀ {rows : List Row} {s : Scan} {state : τ}, P rows s state →
    ∀ {turn : Turn} {t : Scan} {later : τ}, s.advance service state = (turn, t, later) →
      ((∀ e, turn ≠ .failed e) ∨ t.state ≠ .draining) → P (rows ++ turn.rows) t later
  failed : ∀ {rows : List Row} {s : Scan} {state : τ}, P rows s state →
    ∀ {e : Error} {t : Scan} {later : τ}, s.advance service state = (.failed e, t, later) →
      ∀ {answer : Except Error Unit} {u : Scan} {final : τ},
        t.exhaust service later = (answer, u, final) → P rows u final
  exhaust : ∀ {rows : List Row} {s : Scan} {state : τ}, P rows s state →
    ∀ {answer : Except Error Unit} {t : Scan} {later : τ},
      s.exhaust service state = (answer, t, later) → P rows t later

namespace Keeps

variable {service : ScrollService τ} {P : List Row → Scan → τ → Prop} {rows : List Row}
  {s t : Scan} {state later : τ}

/-- What every step keeps, those that fail included, and every end. -/
theorem of_steps
    (hadvance : ∀ {rows : List Row} {s : Scan} {state : τ}, P rows s state →
      ∀ {turn : Turn} {t : Scan} {later : τ}, s.advance service state = (turn, t, later) →
        P (rows ++ turn.rows) t later)
    (hexhaust : ∀ {rows : List Row} {s : Scan} {state : τ}, P rows s state →
      ∀ {answer : Except Error Unit} {t : Scan} {later : τ},
        s.exhaust service state = (answer, t, later) → P rows t later) : Keeps service P where
  advance h _ _ _ hstep _ := hadvance h hstep
  failed {rows} _ _ h _ _ _ hstep _ _ _ hend := by
    have hfailed := hadvance h hstep
    rw [Turn.rows_failed, List.append_nil] at hfailed
    exact hexhaust hfailed hend
  exhaust := hexhaust

/-- The steps of a call keep what every step keeps, up to the last one. The induction is on the
steps. -/
theorem exists_last (hP : Keeps service P) (h : P rows s state) {steps : Nat} {turn : Turn}
    (hrun : s.run service steps state = some (turn, t, later)) :
    ∃ s' state', P rows s' state' ∧ s'.advance service state' = (turn, t, later) := by
  induction steps generalizing s state with
  | zero => simp [Scan.run] at hrun
  | succ steps ih =>
      rw [Scan.run] at hrun
      rcases hadvance : s.advance service state with ⟨turn', s', state'⟩
      rw [hadvance] at hrun
      cases turn' with
      | again =>
          have hstep := hP.advance h hadvance (.inl fun _ h => by cases h)
          rw [Turn.rows_again, List.append_nil] at hstep
          exact ih hstep hrun
      | row | finished | failed =>
          obtain ⟨rfl, rfl, rfl⟩ : _ ∧ _ ∧ _ := by simpa using hrun
          exact ⟨s, state, h, hadvance⟩

/-- **What every step and every end keep, a call keeps.** -/
theorem next (hP : Keeps service P) (h : P rows s state) {steps : Nat} {turn : Turn}
    (hnext : s.next service steps state = some (turn, t, later)) :
    P (rows ++ turn.rows) t later := by
  rw [Scan.next, Option.map_eq_some_iff] at hnext
  obtain ⟨⟨turn', s', state'⟩, hrun, hsettle⟩ := hnext
  obtain ⟨_, _, hlast, hadvance⟩ := hP.exists_last h hrun
  cases turn' with
  | failed e =>
      -- a step that failed returned no row, and neither does its end
      obtain ⟨turn'', heq, hfailed⟩ := exhaustThen_eq service (.failed e) s' state'
      rw [settle, heq] at hsettle
      obtain ⟨rfl, hpair⟩ := Prod.mk.inj hsettle
      have hrows : turn''.rows = [] := by
        obtain rfl | ⟨e', rfl⟩ := hfailed <;> exact Turn.rows_failed _
      rw [hrows, List.append_nil]
      exact hP.failed hlast hadvance (Prod.ext rfl hpair)
  | again | row | finished =>
      obtain ⟨rfl, rfl, rfl⟩ : _ ∧ _ ∧ _ := by simpa [settle] using hsettle
      exact hP.advance hlast hadvance (.inl fun _ h => by cases h)

/-- **What every step and every end keep holds of all that a scan reaches**, if it holds at the
start. The induction is on the calls. -/
theorem of_reaches (hP : Keeps service P) (hstart : P [] s state)
    (h : s.Reaches service state rows t later) : P rows t later := by
  induction h with
  | start => exact hstart
  | next _ hnext ih => exact hP.next ih hnext
  | @within _ _ t' _ _ turn _ hadvance hturn hbroken ih =>
      have hfine : (∀ e, turn ≠ .failed e) ∨ t'.state ≠ .draining := by
        rcases hbroken with rfl | hstate
        · exact .inl fun _ h => by cases h
        · exact .inr hstate
      have hstep := hP.advance ih hadvance hfine
      rwa [hturn, List.append_nil] at hstep
  | close _ hclose ih => exact hP.exhaust ih hclose

end Keeps

/-! ## What no call changes -/

/-- Two scans of one request, wherever they stand. -/
structure Alike (s t : Scan) : Prop where
  request : t.request = s.request
  body : t.body = s.body
  decoder : t.decoder = s.decoder
  filterDecoder : t.filterDecoder = s.filterDecoder

namespace Alike

variable {service : ScrollService τ} {s t u : Scan} {state : τ}

/-- A scan is one of its own request. -/
theorem refl (s : Scan) : s.Alike s := ⟨rfl, rfl, rfl, rfl⟩

/-- Scans of one request are so from one to the next. -/
theorem trans (h : s.Alike t) (h' : t.Alike u) : s.Alike u :=
  ⟨h'.request.trans h.request, h'.body.trans h.body, h'.decoder.trans h.decoder,
    h'.filterDecoder.trans h.filterDecoder⟩

/-- Scans of one request send the same search. -/
theorem search (h : s.Alike t) : t.search = s.search := by
  rw [Scan.search, Scan.search, h.request, h.body]

/-- The end of a scan does not change its request. -/
theorem of_exhaust (h : s.Alike t) {outcome : Except Error Unit × Scan × τ}
    (hexhaust : Exhaust service t state outcome) : s.Alike outcome.2.1 := by
  cases hexhaust with
  | finished => exact h
  | bare | closed | failed => exact h.trans ⟨rfl, rfl, rfl, rfl⟩

/-- Neither does the end before it goes on. -/
theorem exhaustThen (h : s.Alike t) (turn : Turn) :
    s.Alike (t.exhaustThen service turn state).2.1 := by
  obtain ⟨_, heq, -⟩ := exhaustThen_eq service turn t state
  rw [heq]
  exact h.of_exhaust (exhaust_exhaust service t state)

/-- What becomes of a hit does not change the request. -/
theorem of_takes (h : s.Alike t) {hit : Json} {outcome : Turn × Scan × τ}
    (htakes : Takes service t hit state outcome) : s.Alike outcome.2.1 := by
  cases htakes with
  | unanswered | undecoded => exact h
  | rejected | skipped | row => exact h.trans ⟨rfl, rfl, rfl, rfl⟩
  | lastRow =>
      refine exhaustThen ?_ _
      exact h.trans ⟨rfl, rfl, rfl, rfl⟩

/-- A step does not change the request. -/
theorem of_step (h : s.Alike t) {outcome : Turn × Scan × τ}
    (hstep : Step service t state outcome) : s.Alike outcome.2.1 := by
  cases hstep with
  | finished | lost => exact h
  | begins | unfetched | fetched | drained => exact h.trans ⟨rfl, rfl, rfl, rfl⟩
  | nothing => exact h.exhaustThen _
  | ends =>
      refine exhaustThen ?_ _
      exact h.trans ⟨rfl, rfl, rfl, rfl⟩
  | takes _ _ _ htakes =>
      refine of_takes ?_ htakes
      exact h.trans ⟨rfl, rfl, rfl, rfl⟩

end Alike

/-- **No call changes the request of a scan.** -/
theorem keeps_alike (service : ScrollService τ) (s : Scan) :
    Keeps service fun _ t _ => s.Alike t := by
  refine Keeps.of_steps ?_ ?_
  · intro _ t state h turn u later hadvance
    have hstep := h.of_step (step_advance service t state)
    rwa [hadvance] at hstep
  · intro _ t state h answer u later hexhaust
    have hends := h.of_exhaust (exhaust_exhaust service t state)
    rwa [hexhaust] at hends

/-- **A scan that has ended sends nothing**: no call changes it, or the state of its service, and
none returns a row. -/
theorem keeps_exhausted (service : ScrollService τ) (rows : List Row) (s : Scan) (state : τ) :
    Keeps service fun rows' t now =>
      t.state = .exhausted ∧ rows' = rows ∧ t = s ∧ now = state := by
  refine Keeps.of_steps ?_ ?_
  · rintro rows' t now ⟨hstate, rfl, rfl, rfl⟩ turn u later hadvance
    rw [advance_exhausted hstate] at hadvance
    obtain ⟨rfl, rfl, rfl⟩ : .finished = turn ∧ t = u ∧ now = later := by simpa using hadvance
    exact ⟨hstate, List.append_nil rows', rfl, rfl⟩
  · rintro rows' t now ⟨hstate, rfl, rfl, rfl⟩ answer u later hexhaust
    rw [exhaust_finished hstate] at hexhaust
    obtain ⟨-, rfl, rfl⟩ : _ ∧ t = u ∧ now = later := by simpa using hexhaust
    exact ⟨hstate, rfl, rfl, rfl⟩

end Scan

/-! ## What every request does -/

/-- What every request and every log record does to the state of a service, and so do several of them,
one after the other. -/
structure ScrollService.Moves (service : ScrollService τ) (R : τ → τ → Prop) : Prop where
  refl : ∀ now, R now now
  trans : ∀ {now mid later}, R now mid → R mid later → R now later
  start : ∀ {q now answer later}, service.start q now = (answer, later) → R now later
  next : ∀ {id keep now answer later}, service.next id keep now = (answer, later) → R now later
  release : ∀ {id now answer later}, service.release id now = (answer, later) → R now later
  log : ∀ record now, R now (service.log record now)

namespace ScrollService.Moves

variable {service : ScrollService τ} {R : τ → τ → Prop}

/-- A fetch does what every request does. -/
theorem fetch (h : service.Moves R) {c : Cursor} {now : τ} {outcome : Except Error Nat × Cursor × τ}
    (hfetch : Cursor.Fetch service c now outcome) : R now outcome.2.2 := by
  cases hfetch with
  | idle => exact h.refl now
  | opens _ _ hstart => exact h.start hstart
  | continues _ _ _ hnext => exact h.next hnext

/-- Closing a cursor does what every request does. -/
theorem close (h : service.Moves R) {c : Cursor} {now : τ}
    {outcome : Except Error Unit × Cursor × τ} (hclose : Cursor.Close service c now outcome) :
    R now outcome.2.2 := by
  cases hclose with
  | again | bare => exact h.refl now
  | released _ _ hrelease | unreleased _ _ hrelease => exact h.release hrelease

/-- The end of a scan does what every request does. -/
theorem exhaust (h : service.Moves R) (s : Scan) (now : τ) :
    R now (s.exhaust service now).2.2 := by
  have hcase := Scan.exhaust_exhaust service s now
  generalize s.exhaust service now = outcome at hcase
  cases hcase with
  | finished => exact h.refl now
  | bare => exact h.log _ now
  | @closed c _ later _ _ hclose =>
      have hcursor := h.close (Cursor.close_close service c now)
      rw [hclose] at hcursor
      exact h.trans hcursor (h.log _ later)
  | @failed c _ _ _ _ _ hclose =>
      have hcursor := h.close (Cursor.close_close service c now)
      rwa [hclose] at hcursor

/-- So does the end before it goes on. -/
theorem exhaustThen (h : service.Moves R) (turn : Turn) (s : Scan) (now : τ) :
    R now (s.exhaustThen service turn now).2.2 := by
  obtain ⟨_, heq, -⟩ := Scan.exhaustThen_eq service turn s now
  rw [heq]
  exact h.exhaust s now

/-- **A step does what every request does.** -/
theorem advance (h : service.Moves R) (s : Scan) (now : τ) :
    R now (s.advance service now).2.2 := by
  have hcase := Scan.step_advance service s now
  generalize s.advance service now = outcome at hcase
  cases hcase with
  | finished | lost | drained => exact h.refl now
  | nothing => exact h.exhaustThen ..
  | begins => exact h.log _ now
  | @unfetched c _ _ _ _ _ hfetch | @fetched c _ _ _ _ _ hfetch =>
      have hfetched := h.fetch (Cursor.fetch_fetch service c now)
      rwa [hfetch] at hfetched
  | @ends c _ _ _ _ _ hfetch =>
      have hfetched := h.fetch (Cursor.fetch_fetch service c now)
      rw [hfetch] at hfetched
      exact h.trans hfetched (h.exhaustThen ..)
  | takes _ _ _ htakes =>
      cases htakes with
      | unanswered | rejected | skipped | undecoded | row => exact h.refl now
      | lastRow => exact h.exhaustThen ..

/-- **A run does what every request does.** -/
theorem reaches (h : service.Moves R) {s t : Scan} {now later : τ} {rows : List Row}
    (hreaches : s.Reaches service now rows t later) : R now later := by
  have hkeeps : Scan.Keeps service fun _ _ mid => R now mid := by
    refine Scan.Keeps.of_steps ?_ ?_
    · intro _ u mid hmid turn u' next hadvance
      have hstep := h.advance u mid
      rw [hadvance] at hstep
      exact h.trans hmid hstep
    · intro _ u mid hmid answer u' next hexhaust
      have hend := h.exhaust u mid
      rw [hexhaust] at hend
      exact h.trans hmid hend
  exact hkeeps.of_reaches (h.refl now) hreaches

end ScrollService.Moves

end SearchTables
