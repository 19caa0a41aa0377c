import SearchTables.Scan.Cursor
import SearchTables.Scan.Request

/-! # Scans

A scan hands out the rows of a request one at a time. It fetches a page when it needs one, leaves out hits
that the row filter rejects, skips as many as the offset says, and ends at the limit. When it ends, for
whatever reason, the scroll is released. -/

namespace SearchTables

/-- Where a scan stands. -/
inductive ScanState where
  /-- Nothing was sent. -/
  | init
  /-- The next thing is to fetch a page. -/
  | fetching
  /-- Hits are taken from a page. -/
  | draining
  /-- There are no more rows. -/
  | exhausted
deriving DecidableEq, Repr, Inhabited

/-- The name of a state. -/
def ScanState.name : ScanState → String
  | .init => "init"
  | .fetching => "fetching"
  | .draining => "draining"
  | .exhausted => "exhausted"

/-- A scan. -/
structure Scan where
  request : ScanRequest
  body : Value
  decoder : RowDecoder
  /-- The decoder for all columns, when there is a row filter to evaluate on them. -/
  filterDecoder : Option RowDecoder
  cursor : Option Cursor := none
  state : ScanState := .init
  /-- How many accepted hits were left out because of the offset. -/
  skipped : Nat := 0
  /-- How many hits the row filter rejected. -/
  rejected : Nat := 0
  /-- How many rows were returned. -/
  emitted : Nat := 0
deriving Inhabited

/-- What one step of a scan comes to. -/
inductive Turn where
  /-- There is more to do. -/
  | again
  | row (row : Row)
  /-- There are no more rows. -/
  | finished
  | failed (error : Error)
deriving Inhabited

namespace Scan

variable {τ : Type}

/-- A scan of a request that was worked out for a schema. -/
def create (request : ScanRequest) (schema : Schema) : Except Error Scan := do
  let decoder ← RowDecoder.create request.columns schema
  let filterDecoder ←
    match request.rowFilter with
    | none => pure none
    | some _ => do
        let d ← RowDecoder.create (idColumn :: schema.columns.map (·.name)) schema
        pure (some d)
  pure { request, body := request.body, decoder, filterDecoder }

/-- The search of a scan. -/
def search (s : Scan) : Search :=
  { index := s.request.index, body := s.body, scroll := s.request.scroll, size := s.request.pageSize }

/-- The log record of a scan. -/
def record (message : String) : LogRecord := ⟨.scan, .info, message⟩

/-- End the scan and release its scroll. -/
def exhaust (service : ScrollService τ) (s : Scan) (state : τ) : Except Error Unit × Scan × τ :=
  if s.state = .exhausted then (.ok (), s, state)
  else
    let s := { s with state := .exhausted }
    let finish := service.log (record ("scan of " ++ s.request.index ++ " finished"))
    match s.cursor with
    | none => (.ok (), s, finish state)
    | some cursor =>
        match cursor.close service state with
        | (.ok (), cursor, state) => (.ok (), { s with cursor := some cursor }, finish state)
        -- a release that fails leaves no record of the end
        | (.error e, cursor, state) => (.error e, { s with cursor := some cursor }, state)

/-- End the scan and go on. -/
def exhaustThen (service : ScrollService τ) (turn : Turn) (s : Scan) (state : τ) : Turn × Scan × τ :=
  match s.exhaust service state with
  | (.ok (), s, state) => (turn, s, state)
  | (.error e, s, state) => (.failed e, s, state)

/-- Whether the row filter rejects a hit. -/
def rejects (s : Scan) (hit : Json) : Except Error Bool :=
  match s.request.rowFilter, s.filterDecoder with
  | some filter, some decoder => do
      let row ← decoder.decode hit
      let kept ← filter.keeps row
      pure !kept
  | _, _ => .ok false

/-- Start the scan: a limit of zero needs no request. -/
def start (service : ScrollService τ) (s : Scan) (state : τ) : Turn × Scan × τ :=
  if s.request.limit = some 0 then s.exhaustThen service .again state
  else
    (.again, { s with cursor := some { search := s.search }, state := .fetching },
      service.log (record ("starting scan of " ++ s.request.index)) state)

/-- Fetch a page. -/
def fetchPage (service : ScrollService τ) (s : Scan) (cursor : Cursor) (state : τ) :
    Turn × Scan × τ :=
  match cursor.fetch service state with
  | (.error e, cursor, state) => (.failed e, { s with cursor := some cursor }, state)
  | (.ok _, cursor, state) =>
      let s := { s with cursor := some cursor }
      if cursor.exhausted then s.exhaustThen service .again state
      else (.again, { s with state := .draining }, state)

/-- Whether a scan has returned as many rows as it may. -/
def atLimit (s : Scan) : Bool :=
  match s.request.limit with
  | some limit => limit ≤ s.emitted
  | none => false

/-- Decide about a hit that was taken from the page. -/
def take (service : ScrollService τ) (s : Scan) (hit : Json) (state : τ) : Turn × Scan × τ :=
  match s.rejects hit with
  | .error e => (.failed e, s, state)
  -- a rejected hit does not count towards the offset
  | .ok true => (.again, { s with rejected := s.rejected + 1 }, state)
  | .ok false =>
      if s.skipped < s.request.offset then (.again, { s with skipped := s.skipped + 1 }, state)
      else
        match s.decoder.decode hit with
        | .error e => (.failed e, s, state)
        | .ok row =>
            let s := { s with emitted := s.emitted + 1 }
            -- the row counts as returned even when the release at the limit fails
            if s.atLimit then s.exhaustThen service (.row row) state else (.row row, s, state)

/-- Take one step. -/
def advance (service : ScrollService τ) (s : Scan) (state : τ) : Turn × Scan × τ :=
  match s.state, s.cursor with
  | .exhausted, _ => (.finished, s, state)
  | .init, _ => s.start service state
  | _, none => (.failed .badState, s, state)
  | .fetching, some cursor => s.fetchPage service cursor state
  | .draining, some cursor =>
      match cursor.page with
      | [] => (.again, { s with state := .fetching }, state)
      | hit :: rest =>
          { s with cursor := some { cursor with page := rest } }.take service hit state

/-- Take steps until one comes to something. Nothing when the given number of steps is not enough. -/
def run (service : ScrollService τ) : Nat → Scan → τ → Option (Turn × Scan × τ)
  | 0, _, _ => none
  | steps + 1, s, state =>
      match s.advance service state with
      | (.again, s, state) => run service steps s state
      | outcome => some outcome

/-- The end of a step that failed: the scan is over. A failure to release the scroll takes the place of the
first one. -/
def settle (service : ScrollService τ) : Turn × Scan × τ → Turn × Scan × τ
  | (.failed e, s, state) => s.exhaustThen service (.failed e) state
  | outcome => outcome

/-- The next row, within a number of steps. -/
def next (service : ScrollService τ) (steps : Nat) (s : Scan) (state : τ) : Option (Turn × Scan × τ) :=
  (s.run service steps state).map (settle service)

/-- End the scan early. -/
def close (service : ScrollService τ) (s : Scan) (state : τ) : Except Error Unit × Scan × τ :=
  s.exhaust service state

/-- The rows that are left, within a number of steps for each. -/
def rows (service : ScrollService τ) (steps : Nat) :
    Nat → Scan → τ → Option (Except Error (List Row) × Scan × τ)
  | 0, _, _ => none
  | count + 1, s, state =>
      match s.next service steps state with
      | none => none
      | some (.row row, s, state) =>
          (rows service steps count s state).map fun (found, s, state) =>
            (found.map (row :: ·), s, state)
      | some (.failed e, s, state) => some (.error e, s, state)
      | some (_, s, state) => some (.ok [], s, state)

end Scan

end SearchTables
