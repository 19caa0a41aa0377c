import SearchTables.Mapping.Merge
import SearchTables.Row.Decoder
import SearchTables.Scan.Cursor

/-! # Sampling documents

A mapping does not say which fields hold arrays, nor what documents hold besides the declared fields. Both are
found out by looking at some documents. Sampling ends when enough documents were seen or when nothing more can
be learned; a request that fails ends it early, and what was learned until then counts. -/

namespace SearchTables

/-- What a sample revealed. -/
structure Sample where
  /-- The paths at which some document holds an array. -/
  arrays : List String := []
  /-- Whether some document holds content that is not declared. -/
  hasUnmapped : Bool := false
  /-- How many documents were seen. -/
  seen : Nat := 0
deriving DecidableEq, Repr, Inhabited

/-- A sample in the making. -/
structure Sampler where
  paths : PathSet
  /-- How many documents are looked at. -/
  size : Nat
  /-- The paths at which no array was seen yet. -/
  pending : List String
  sample : Sample := {}
  cursor : Cursor
deriving Inhabited

namespace Sampler

variable {τ : Type}

/-- Whether another document may reveal something. -/
def goesOn (s : Sampler) : Bool :=
  s.sample.seen < s.size && (!s.pending.isEmpty || !s.sample.hasUnmapped)

/-- Whether a document holds an array at a path. -/
def holdsArray (document : Json) (path : String) : Bool :=
  ((Path.find? document path).map Json.isArray).getD false

/-- Learn from a document. -/
def learn (s : Sampler) (document : Json) : Sampler :=
  { s with
    pending := s.pending.filter fun path => !holdsArray document path
    sample :=
      { s.sample with
        arrays := s.sample.arrays ++ s.pending.filter (holdsArray document)
        hasUnmapped := s.sample.hasUnmapped || !(s.paths.residual "" document).isEmpty } }

/-- Look at a hit. A hit that is no object has no document. -/
def look (s : Sampler) (hit : Json) : Except Error Sampler :=
  let s := { s with sample := { s.sample with seen := s.sample.seen + 1 } }
  match hit with
  | .obj members => .ok (s.learn (RowDecoder.sourceOfHit members))
  | _ => .error .noMembers

/-- Look at documents, fetching pages as they are needed, within a number of steps. -/
def run (service : ScrollService τ) : Nat → Sampler → τ → Except Error Unit × Sampler × τ
  | 0, s, state => (.ok (), s, state)
  | steps + 1, s, state =>
      if !s.goesOn then (.ok (), s, state)
      else
        match s.cursor.page with
        | [] =>
            if s.cursor.exhausted then (.ok (), s, state)
            else
              match s.cursor.fetch service state with
              | (.ok _, cursor, state) => run service steps { s with cursor } state
              | (.error e, cursor, state) => (.error e, { s with cursor }, state)
        | hit :: rest =>
            let s := { s with cursor := { s.cursor with page := rest } }
            match s.look hit with
            | .ok s => run service steps s state
            | .error e => (.error e, s, state)

/-- A number of steps that suffices: every page but the last has a hit, and every hit is counted. -/
def stepBound (s : Sampler) : Nat := 2 * s.size + 3

/-- Whether a failure only ends the sampling. -/
def isTolerated (e : Error) : Bool :=
  match e.family with
  | .transport | .decode => true
  | _ => false

/-- The log record of a sample that was cut short. -/
def cutShort (index : String) (seen : Nat) : LogRecord :=
  ⟨.sampling, .warning, "sampling " ++ index ++ " failed after " ++ toString seen ++
    " documents; continuing with partial results"⟩

/-- The log record of a finished sample. -/
def completed (index : String) (seen : Nat) : LogRecord :=
  ⟨.sampling, .debug, "sampled " ++ toString seen ++ " documents from " ++ index⟩

/-- What the end of the sampling comes to: a failure of the cluster is only noted in the log. -/
def tolerate (service : ScrollService τ) (index : String) (seen : Nat) (state : τ) :
    Except Error Unit → Except Error Unit × τ
  | .ok () => (.ok (), state)
  | .error e =>
      if isTolerated e then (.ok (), service.log (cutShort index seen) state) else (.error e, state)

/-- The sample that a sampler comes to. The scroll is released whatever happens. -/
def finish (service : ScrollService τ) (s : Sampler) : Task τ Sample := fun state =>
  let index := s.cursor.search.index
  let (outcome, s, state) := s.run service s.stepBound state
  let (outcome, state) := tolerate service index s.sample.seen state outcome
  match s.cursor.close service state, outcome with
  -- a failure to close comes before a failure of the sampling
  | (.error e, _, state), _ => (Except.error e, state)
  | (.ok (), _, state), .error e => (Except.error e, state)
  | (.ok (), _, state), .ok () =>
      (Except.ok s.sample, service.log (completed index s.sample.seen) state)

end Sampler

/-- What to sample. -/
structure SampleOrder where
  index : String
  /-- The paths at which arrays are looked for. -/
  paths : List String
  mapped : List String
  baseQuery : Option Json
  size : Int
  pageSize : Int
  scroll : String
deriving Inhabited

/-- Sample documents. Without documents or paths to look at, nothing is sent. -/
def SampleOrder.take {τ : Type} (order : SampleOrder) (service : ScrollService τ) : Task τ Sample :=
  if order.size ≤ 0 ∨ order.paths.isEmpty then pure {}
  else
    let query := Clause.combine (order.baseQuery.map .native) none
    let search : Search :=
      { index := order.index
        body := .object [("query", query.toValue)]
        scroll := order.scroll
        size := min order.size order.pageSize }
    Sampler.finish service
      { paths := .ofMapped order.mapped
        size := order.size.toNat
        pending := order.paths.eraseDups
        cursor := { search } }

end SearchTables
