import SearchTables.Client.Basic

/-! # Cursors

A **scroll** hands out the hits of a search page by page: a first request opens it, later ones carry the
id that the last page came with, and a last one releases it. A **cursor** owns one scroll. An empty page, or a
page without an id, finishes it, and a cursor that is finished or closed is never opened again. -/

namespace SearchTables

/-- One page of a scroll. -/
structure ScrollPage where
  /-- The id under which the scroll goes on. -/
  scrollId : Option String
  hits : List Json
deriving Inhabited

/-- A search to scroll through. -/
structure Search where
  index : String
  body : Value
  /-- How long the cluster keeps the scroll between two pages. -/
  scroll : String
  /-- How many hits make a page. -/
  size : Int
deriving Inhabited

/-- The requests of scrolls, over a state of their own. -/
structure ScrollService (τ : Type) where
  /-- Open a scroll. -/
  start : Search → Task τ ScrollPage
  /-- The next page, given the id and how long to keep the scroll. -/
  next : String → String → Task τ ScrollPage
  /-- Release a scroll by its id; whether that went well. -/
  release : String → Task τ Bool
  /-- Write a log record. -/
  log : LogRecord → τ → τ

/-- The owner of one scroll. -/
structure Cursor where
  search : Search
  /-- The id of the last page that had one. -/
  scrollId : Option String := none
  opened : Bool := false
  finished : Bool := false
  closed : Bool := false
  /-- The hits that were fetched and not taken yet. -/
  page : List Json := []
deriving Inhabited

namespace Cursor

variable {τ : Type}

/-- Whether no hit is left and none will come. -/
def exhausted (c : Cursor) : Bool := c.finished && c.page.isEmpty

/-- The cursor after a page arrived. -/
def receive (c : Cursor) (p : ScrollPage) : Cursor :=
  { c with
    scrollId := p.scrollId.or c.scrollId
    finished := c.finished || p.hits.isEmpty || p.scrollId.isNone
    page := c.page ++ p.hits }

/-- The cursor after a request for a page, and how many hits that brought. -/
def received (c : Cursor) : Except Error ScrollPage → Except Error Nat × Cursor
  | .ok p => (.ok p.hits.length, c.receive p)
  | .error e => (.error e, c)

/-- Fetch the next page. -/
def fetch (service : ScrollService τ) (c : Cursor) (state : τ) : Except Error Nat × Cursor × τ :=
  if c.finished then (.ok 0, c, state)
  else if !c.opened then
    -- the search counts as made even when it fails
    let c := { c with opened := true }
    let (answer, state) := service.start c.search state
    let (count, c) := c.received answer
    (count, c, state)
  else
    match c.scrollId with
    -- without an id there is nothing to go on with
    | none => (.ok 0, { c with finished := true }, state)
    | some id =>
        let (answer, state) := service.next id c.search.scroll state
        let (count, c) := c.received answer
        (count, c, state)

/-- Finish the cursor and release its scroll, if one was opened and not released yet. -/
def close (service : ScrollService τ) (c : Cursor) (state : τ) : Except Error Unit × Cursor × τ :=
  let c := { c with finished := true, page := [] }
  if c.closed then (.ok (), c, state)
  else
    let c := { c with closed := true }
    match c.scrollId with
    | none => (.ok (), c, state)
    | some id =>
        match service.release id state with
        -- whether the cluster released it is of no concern: it is asked only once
        | (.ok _, state) => (.ok (), { c with scrollId := none }, state)
        | (.error e, state) => (.error e, c, state)

end Cursor

end SearchTables
