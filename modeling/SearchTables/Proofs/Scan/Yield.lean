import SearchTables.Proofs.Scan.Selection

/-! # Yields — what a scan returns

A scan takes hits off the feed of its service, one step after the other. Every step leaves the scan
where its counters say what was done with the hits so far, and the rest of the feed before it
(`Scan.Active`). So a scan returns the rows of the selection from the feed, however the feed is cut
into pages. -/

namespace SearchTables

variable {τ : Type}

namespace Scan

/-! ## Calls -/

/-- What a call of `next` comes to, given enough steps. -/
def Returns (service : ScrollService τ) (s : Scan) (state : τ) (outcome : Turn × Scan × τ) : Prop :=
  ∃ enough, ∀ steps, enough ≤ steps → s.next service steps state = some outcome

/-- What successive calls of `next` come to. -/
def Calls (service : ScrollService τ) : List Turn → Scan → τ → Prop
  | [], _, _ => True
  | turn :: turns, s, state =>
      ∃ s' state', s.Returns service state (turn, s', state') ∧ Calls service turns s' state'

section Steps

variable {service : ScrollService τ} {s s' : Scan} {state state' : τ}

/-- A step with more to do leaves a call to the next step. -/
theorem returns_of_again (h : s.advance service state = (.again, s', state'))
    {outcome : Turn × Scan × τ}
    (houtcome : s'.Returns service state' outcome) : s.Returns service state outcome := by
  obtain ⟨enough, henough⟩ := houtcome
  refine ⟨enough + 1, fun steps hsteps => ?_⟩
  obtain ⟨steps, rfl⟩ := Nat.exists_eq_add_of_le' hsteps
  rw [next, ← Nat.add_assoc, run, h]
  exact henough (steps + enough) (Nat.le_add_left ..)

/-- A step with more to do leaves all calls to the next step. -/
theorem calls_of_again (h : s.advance service state = (.again, s', state')) {turns : List Turn}
    (hturns : s'.Calls service turns state') : s.Calls service turns state := by
  cases turns with
  | nil => trivial
  | cons turn turns =>
      obtain ⟨t, final, hreturns, hrest⟩ := hturns
      exact ⟨t, final, returns_of_again h hreturns, hrest⟩

/-- A step that comes to something ends a call. -/
theorem returns_of_turn {turn : Turn} (h : s.advance service state = (turn, s', state'))
    (hturn : turn ≠ .again) :
    s.Returns service state (settle service (turn, s', state')) := by
  refine ⟨1, fun steps hsteps => ?_⟩
  obtain ⟨steps, rfl⟩ := Nat.exists_eq_add_of_le' hsteps
  rw [next, run, h]
  cases turn with
  | again => exact absurd rfl hturn
  | row | finished | failed => rfl

/-- **A scan that has ended has no more rows, ever.** -/
theorem calls_of_exhausted (h : s.state = .exhausted) (n : Nat) :
    s.Calls service (List.replicate n .finished) state := by
  induction n with
  | zero => trivial
  | succ n ih =>
      have hadvance : s.advance service state = (.finished, s, state) := by
        rw [advance, h]
      exact ⟨s, state, returns_of_turn hadvance (by simp), ih⟩

/-- Ending a scan ends it with what it came to, when the release is quiet. -/
theorem exhaustThen_of_quiet (hrelease : service.ReleasesQuietly) (turn : Turn) (s : Scan)
    (state : τ) :
    ∃ s' state', s.exhaustThen service turn state = (turn, s', state') ∧ s'.state = .exhausted := by
  rw [exhaustThen, exhaust]
  by_cases hstate : s.state = .exhausted
  · rw [if_pos hstate]
    exact ⟨s, state, rfl, hstate⟩
  · rw [if_neg hstate]
    cases s.cursor with
    | none => exact ⟨_, _, rfl, rfl⟩
    | some c =>
        obtain ⟨c', state', hclose⟩ := c.close_of_quiet hrelease state
        simp only [hclose]
        exact ⟨_, _, rfl, rfl⟩

/-- A step that fails ends the scan: the failure is reported once. -/
theorem calls_of_failed (hrelease : service.ReleasesQuietly) {e : Error}
    (h : s.advance service state = (.failed e, s', state')) (n : Nat) :
    s.Calls service (.failed e :: List.replicate n .finished) state := by
  obtain ⟨t, final, hfinal, ht⟩ := exhaustThen_of_quiet hrelease (.failed e) s' state'
  refine ⟨t, final, ?_, calls_of_exhausted ht n⟩
  have hreturns := returns_of_turn h (by simp)
  rwa [settle, hfinal] at hreturns

end Steps

/-! ## What the calls come to -/

/-- What the calls of a scan come to that has returned some rows before, on a feed. Its scan
consumes hits of the feed and returns the rows of the selection from them, all that come after those
returned before, and then one of three things happens. -/
inductive Yields (service : ScrollService τ) (r : ScanRequest) (schema : Schema) (feed : Feed)
    (before : List Row)
    (s : Scan) (state : τ) : Prop where
  /-- The feed is at its end, or there are as many rows as the limit says: the rows are those of the
  selection from the whole feed, and there are no more, ever. -/
  | complete {consumed left : List Json} {rows : List Row} (hhits : feed.hits = consumed ++ left)
      (htaken : r.Taken schema consumed (before ++ rows))
      (hwhole : r.selection schema feed.hits = r.selection schema consumed)
      (hdone : feed.ending = .last ∧ left = [] ∨ r.limit = some (before ++ rows).length)
      (hcalls : ∀ n, s.Calls service (rows.map .row ++ List.replicate n .finished) state)
  /-- Something fails after the hits consumed so far: the failure is reported once, and there are no
  rows after it. -/
  | failed {consumed left : List Json} {rows : List Row} {e : Error}
      (hhits : feed.hits = consumed ++ left)
      (htaken : r.Taken schema consumed (before ++ rows)) (hwants : r.Wants (before ++ rows).length)
      (hfails : r.FailsAt schema feed.ending consumed left e)
      (hcalls : ∀ n,
        s.Calls service (rows.map .row ++ .failed e :: List.replicate n .finished) state)
  /-- No more pages were asked for: these are the rows up to there. -/
  | unfinished {rows : List Row} (hending : feed.ending = .more)
      (htaken : r.Taken schema feed.hits (before ++ rows))
      (hwants : r.Wants (before ++ rows).length)
      (hcalls : s.Calls service (rows.map .row) state)

section Yields

variable {service : ScrollService τ} {r : ScanRequest} {schema : Schema} {feed : Feed}
  {before : List Row}
  {s s' : Scan} {state state' : τ}

/-- A step with more to do leaves everything to the next step. -/
theorem yields_of_again (h : s.advance service state = (.again, s', state'))
    (hrest : s'.Yields service r schema feed before state') :
    s.Yields service r schema feed before state := by
  cases hrest with
  | complete hhits htaken hwhole hdone hcalls =>
      exact .complete hhits htaken hwhole hdone fun n => calls_of_again h (hcalls n)
  | failed hhits htaken hwants hfails hcalls =>
      exact .failed hhits htaken hwants hfails fun n => calls_of_again h (hcalls n)
  | unfinished hending htaken hwants hcalls =>
      exact .unfinished hending htaken hwants (calls_of_again h hcalls)

/-- A step that returns a row leaves the rows after it to the next step. -/
theorem yields_of_row {row : Row} (h : s.advance service state = (.row row, s', state'))
    (hrest : s'.Yields service r schema feed (before ++ [row]) state') :
    s.Yields service r schema feed before state := by
  have hcons : ∀ turns, s'.Calls service turns state' → s.Calls service (.row row :: turns) state :=
    fun turns hturns => ⟨s', state', returns_of_turn h (by simp), hturns⟩
  cases hrest with
  | @complete consumed left rows hhits htaken hwhole hdone hcalls =>
      rw [← List.append_cons] at htaken hdone
      exact .complete hhits htaken hwhole hdone fun n => hcons _ (hcalls n)
  | @failed consumed left rows e hhits htaken hwants hfails hcalls =>
      rw [← List.append_cons] at htaken hwants
      exact .failed hhits htaken hwants hfails fun n => hcons _ (hcalls n)
  | @unfinished rows hending htaken hwants hcalls =>
      rw [← List.append_cons] at htaken hwants
      exact .unfinished hending htaken hwants (hcons _ hcalls)

variable {consumed left : List Json}

/-- A scan that has ended has returned the selection, if nothing is left of the feed or the limit is
reached. -/
theorem yields_of_exhausted (h : s.state = .exhausted) (hhits : feed.hits = consumed ++ left)
    (htaken : r.Taken schema consumed before)
    (hwhole : r.selection schema feed.hits = r.selection schema consumed)
    (hdone : feed.ending = .last ∧ left = [] ∨ r.limit = some before.length) :
    s.Yields service r schema feed before state := by
  rw [← List.append_nil before] at htaken hdone
  exact .complete hhits htaken hwhole hdone fun n => calls_of_exhausted h n

/-- A step that fails is the last that matters. -/
theorem yields_of_failed (hrelease : service.ReleasesQuietly) {e : Error}
    (h : s.advance service state = (.failed e, s', state')) (hhits : feed.hits = consumed ++ left)
    (htaken : r.Taken schema consumed before) (hwants : r.Wants before.length)
    (hfails : r.FailsAt schema feed.ending consumed left e) :
    s.Yields service r schema feed before state := by
  rw [← List.append_nil before] at htaken hwants
  exact .failed hhits htaken hwants hfails fun n => calls_of_failed hrelease h n

end Yields

/-! ## Where a scan stands -/

/-- A scan of a request that was worked out for a schema. -/
structure For (s : Scan) (r : ScanRequest) (schema : Schema) : Prop where
  request : s.request = r
  decode : ∀ hit, s.decoder.decode hit = r.decode schema hit
  rejects : ∀ hit, s.rejects hit = (r.accepts schema hit).map (!·)

/-- A scan under way: its counters say what was done with the hits consumed so far, and the rest of
the feed is on its cursor or still to come to it. -/
structure Active (service : ScrollService τ) (r : ScanRequest) (schema : Schema) (feed : Feed)
    (asked : Nat)
    (s : Scan) (c : Cursor) (state : τ) (consumed : List Json) (rows : List Row) : Prop where
  plan : s.For r schema
  cursor : s.cursor = some c
  progress : r.Progress schema consumed s.skipped rows
  emitted : s.emitted = rows.length
  wants : r.Wants rows.length
  hits : feed.hits = consumed ++ (c.page ++ (c.coming service asked state).hits)
  ending : feed.ending = (c.coming service asked state).ending

section Active

variable {service : ScrollService τ} {r : ScanRequest} {schema : Schema} {feed : Feed} {asked : Nat}
  {s : Scan} {c : Cursor} {state : τ} {consumed : List Json} {rows : List Row}

/-- A scan that wants one more row is at its limit when it has as many rows as the limit says. -/
theorem atLimit_iff (hrequest : s.request = r) {count : Nat} (hemitted : s.emitted = count + 1)
    (hwants : r.Wants count) : s.atLimit = true ↔ r.limit = some (count + 1) := by
  rw [atLimit, hrequest, hemitted]
  cases hlimit : r.limit with
  | none => simp
  | some limit =>
      have := hwants limit hlimit
      rw [decide_eq_true_iff, Option.some.injEq]
      omega

section Hit

variable {hit : Json} {rest : List Json}

/-- A scan under way with a hit on its page has that hit and all after it before it. -/
theorem Active.hits_cons (h : Active service r schema feed asked s c state consumed rows)
    (hpage : c.page = hit :: rest) :
    feed.hits = consumed ++ hit :: (rest ++ (c.coming service asked state).hits) := by
  rw [h.hits, hpage, List.cons_append]

/-- With hits on its page a scan takes the first of them. -/
theorem Active.advance_eq (h : Active service r schema feed asked s c state consumed rows)
    (hstate : s.state = .draining) (hpage : c.page = hit :: rest) :
    s.advance service state =
      { s with cursor := some { c with page := rest } }.take service hit state := by
  rw [advance, hstate, h.cursor]
  simp only [hpage]

/-- What is known of the hits after one hit: whatever was done with that hit, a scan that takes its
page up behind it returns the rows of the selection. -/
def GoesOn (service : ScrollService τ) (r : ScanRequest) (schema : Schema) (feed : Feed)
    (c : Cursor) (state : τ) (consumed : List Json) : Prop :=
  ∀ {t : Scan} {rows : List Row}, t.For r schema → t.cursor = some c → t.state = .draining →
    r.Progress schema consumed t.skipped rows → t.emitted = rows.length → r.Wants rows.length →
      t.Yields service r schema feed rows state

/-- An accepted hit after the offset fails or gives the next row of the selection, which may be
the last one. -/
theorem Active.yields_selected (hrelease : service.ReleasesQuietly)
    (h : Active service r schema feed asked s c state consumed rows)
    (hstate : s.state = .draining) (hpage : c.page = hit :: rest)
    (hgo : GoesOn service r schema feed { c with page := rest } state (consumed ++ [hit]))
    (haccepts : r.accepts schema hit = .ok true) (hskip : ¬ s.skipped < r.offset) :
    s.Yields service r schema feed rows state := by
  have hplan := h.plan
  have hadvance := h.advance_eq hstate hpage
  have hrejects : { s with cursor := some { c with page := rest } }.rejects hit =
      (r.accepts schema hit).map (!·) := hplan.rejects hit
  rw [take, hrejects, haccepts] at hadvance
  have hstep := hadvance.trans (if_neg (by rwa [← hplan.request] at hskip))
  simp only [hplan.decode] at hstep
  cases hdecode : r.decode schema hit with
  | error e =>
      rw [hdecode] at hstep
      have hselected := h.progress.selection_concat haccepts hskip h.wants
      exact yields_of_failed hrelease hstep (h.hits_cons hpage) h.progress.taken h.wants
        (.decode rfl hselected hdecode)
  | ok row =>
      rw [hdecode] at hstep
      have hprogress := h.progress.row haccepts hskip h.wants hdecode
      have hlength : (rows ++ [row]).length = rows.length + 1 := List.length_append
      have hemitted : s.emitted + 1 = (rows ++ [row]).length := by rw [h.emitted, hlength]
      -- the row counts before the limit is looked at
      have hatLimit := atLimit_iff (s := { s with
        cursor := some { c with page := rest }
        emitted := s.emitted + 1 }) hplan.request (hemitted.trans hlength) h.wants
      by_cases hlimit : r.limit = some (rows.length + 1)
      · rw [← hlength] at hlimit
        have hstep := hstep.trans (if_pos (hatLimit.2 (hlength ▸ hlimit)))
        obtain ⟨t, final, hfinal, ht⟩ := exhaustThen_of_quiet hrelease (.row row) _ state
        have hhits : feed.hits =
            consumed ++ [hit] ++ (rest ++ (c.coming service asked state).hits) := by
          rw [h.hits_cons hpage, List.append_cons]
        refine yields_of_row (hstep.trans hfinal) ?_
        refine yields_of_exhausted ht hhits hprogress.taken ?_ (.inr hlimit)
        rw [hhits, hprogress.selection_append hlimit]
      · have hstep := hstep.trans (if_neg (mt hatLimit.1 hlimit))
        have hwants : r.Wants (rows ++ [row]).length := by
          intro limit hsome
          rw [hlength]
          refine Nat.lt_of_le_of_ne (h.wants limit hsome) ?_
          rintro rfl
          exact hlimit hsome
        refine yields_of_row hstep ?_
        exact hgo ⟨hplan.request, hplan.decode, hplan.rejects⟩ rfl hstate hprogress hemitted hwants

/-- **A scan that takes a hit off its page returns the rows of the selection**, if it goes on so
after the hit. -/
theorem Active.yields_hit (hrelease : service.ReleasesQuietly)
    (h : Active service r schema feed asked s c state consumed rows)
    (hstate : s.state = .draining) (hpage : c.page = hit :: rest)
    (hgo : GoesOn service r schema feed { c with page := rest } state (consumed ++ [hit])) :
    s.Yields service r schema feed rows state := by
  have hplan := h.plan
  have hadvance := h.advance_eq hstate hpage
  have hrejects : { s with cursor := some { c with page := rest } }.rejects hit =
      (r.accepts schema hit).map (!·) := hplan.rejects hit
  -- what becomes of the hit is told by its place and by the row filter
  rw [take, hrejects] at hadvance
  cases haccepts : r.accepts schema hit with
  | error e =>
      rw [haccepts] at hadvance
      exact yields_of_failed hrelease hadvance (h.hits_cons hpage) h.progress.taken h.wants
        (.rowFilter rfl haccepts)
  | ok kept =>
      rw [haccepts] at hadvance
      cases kept with
      | false =>
          exact yields_of_again hadvance (hgo ⟨hplan.request, hplan.decode, hplan.rejects⟩ rfl
            hstate (h.progress.reject haccepts) h.emitted h.wants)
      | true =>
          by_cases hskip : s.skipped < r.offset
          · have hstep := hadvance.trans (if_pos (by rwa [← hplan.request] at hskip))
            exact yields_of_again hstep (hgo ⟨hplan.request, hplan.decode, hplan.rejects⟩ rfl
              hstate (h.progress.skip haccepts hskip) h.emitted h.wants)
          · exact h.yields_selected hrelease hstate hpage hgo haccepts hskip

end Hit

/-- **A scan that takes hits off a page returns the rows of the selection**, if it does so when
the page is empty. The induction is on the page. -/
theorem Active.yields_draining (hrelease : service.ReleasesQuietly)
    (hfetch : ∀ {s : Scan} {c : Cursor} {consumed : List Json} {rows : List Row},
      Active service r schema feed asked s c state consumed rows → s.state = .fetching →
        c.page = [] → s.Yields service r schema feed rows state)
    (h : Active service r schema feed asked s c state consumed rows)
    (hstate : s.state = .draining) : s.Yields service r schema feed rows state := by
  generalize hpage : c.page = page
  induction page generalizing s c consumed rows with
  | nil =>
      have hplan := h.plan
      have hadvance : s.advance service state = (.again, { s with state := .fetching }, state) := by
        rw [advance, hstate, h.cursor]
        simp only [hpage]
      have hactive : Active service r schema feed asked { s with state := .fetching } c state
          consumed rows :=
        ⟨⟨hplan.request, hplan.decode, hplan.rejects⟩, h.cursor, h.progress, h.emitted, h.wants,
          h.hits, h.ending⟩
      exact yields_of_again hadvance (hfetch hactive rfl hpage)
  | cons hit rest ih =>
      refine h.yields_hit hrelease hstate hpage ?_
      intro t rows hplan hcursor hdraining hprogress hemitted hwants
      have hhits := h.hits_cons hpage
      rw [List.append_cons] at hhits
      exact ih ⟨hplan, hcursor, hprogress, hemitted, hwants, hhits, h.ending⟩ hdraining rfl

/-- **A scan that fetches a page returns the rows of the selection.** The induction is on the pages
that may still be asked for. -/
theorem Active.yields_fetching (hrelease : service.ReleasesQuietly)
    (h : Active service r schema feed asked s c state consumed rows) (hstate : s.state = .fetching)
    (hpage : c.page = []) : s.Yields service r schema feed rows state := by
  induction asked using Nat.strongRecOn generalizing s c state consumed rows with
  | ind asked ih =>
      have hhits : feed.hits = consumed ++ (c.coming service asked state).hits := by
        rw [h.hits, hpage, List.nil_append]
      have hplan := h.plan
      have hadvance : s.advance service state = s.fetchPage service c state := by
        rw [advance, hstate, h.cursor]
      have hbrings := Cursor.brings_fetch service hpage asked state
      rw [fetchPage] at hadvance
      rcases hfetch : c.fetch service state with ⟨answer, c', state'⟩
      rw [hfetch] at hbrings hadvance
      cases hbrings with
      | more hfeed =>
          have hending : feed.ending = .more := by rw [h.ending, hfeed]
          have hall : feed.hits = consumed := by rw [hhits, hfeed, List.append_nil]
          have htaken := h.progress.taken
          have hwants := h.wants
          rw [← hall, ← List.append_nil rows] at htaken
          rw [← List.append_nil rows] at hwants
          exact .unfinished hending htaken hwants trivial
      | failed hfeed =>
          rw [hfeed] at hhits
          exact yields_of_failed hrelease hadvance hhits h.progress.taken h.wants
            (.fetch rfl (by rw [h.ending, hfeed]))
      | last hfeed hexhausted =>
          have hstep := hadvance.trans (if_pos hexhausted)
          obtain ⟨t, final, hfinal, ht⟩ := exhaustThen_of_quiet hrelease .again _ state'
          refine yields_of_again (hstep.trans hfinal) ?_
          rw [hfeed] at hhits
          have hending : feed.ending = .last := by rw [h.ending, hfeed]
          refine yields_of_exhausted ht hhits h.progress.taken ?_ (.inl ⟨hending, rfl⟩)
          rw [hhits, List.append_nil]
      -- only here the scan goes on, with one page less to ask for
      | @page left count _ _ hasked hpage' hcoming hending =>
          have hfull : ¬ c'.exhausted = true := by
            simp [Cursor.exhausted, hpage']
          have hstep := hadvance.trans (if_neg hfull)
          have hactive : Active service r schema feed left
              { s with cursor := some c', state := .draining } c' state' consumed rows :=
            ⟨⟨hplan.request, hplan.decode, hplan.rejects⟩, rfl, h.progress, h.emitted, h.wants,
              hcoming ▸ hhits, h.ending.trans hending⟩
          exact yields_of_again hstep (hactive.yields_draining hrelease (ih left (by omega)) rfl)

end Active

end Scan

/-! ## From an order on -/

/-- The search that a request opens its scroll with. -/
def ScanRequest.search (r : ScanRequest) : Search :=
  { index := r.index, body := r.body, scroll := r.scroll, size := r.pageSize }

/-- The feed that a service serves for a request, when at most a number of pages are asked for. -/
def ScrollService.feedFor (service : ScrollService τ) (r : ScanRequest) (asked : Nat) (state : τ) :
    Feed :=
  let state := service.log (Scan.record ("starting scan of " ++ r.index)) state
  service.feed r.scroll asked (service.start r.search state)

/-- Columns that exist have a decoder. -/
theorem RowDecoder.exists_create {schema : Schema} {names : List String}
    (h : ∀ name ∈ names, ScanOrder.isColumn schema name = true) :
    ∃ d, RowDecoder.create names schema = .ok d := by
  have hsources : ∃ sources, sourcesOf schema names = .ok sources := by
    induction names with
    | nil => exact ⟨[], rfl⟩
    | cons name rest ih =>
        rw [List.forall_mem_cons] at h
        obtain ⟨sources, hsources⟩ := ih h.2
        -- the source of a column is found in the same order as the column is
        have horigin : ∃ origin, sourceOf schema name = .ok origin := by
          rw [sourceOf]
          by_cases hid : name = idColumn
          · exact ⟨_, if_pos hid⟩
          by_cases hunmapped : name = unmappedColumn
          · exact ⟨_, (if_neg hid).trans (if_pos hunmapped)⟩
          by_cases hsource : name = sourceColumn
          · exact ⟨_, (if_neg hid).trans ((if_neg hunmapped).trans (if_pos hsource))⟩
          rw [if_neg hid, if_neg hunmapped, if_neg hsource]
          cases hfind : schema.findColumn? name with
          | none => simp [ScanOrder.isColumn, virtualColumns, hfind, hid, hunmapped, hsource] at h
          | some column => exact ⟨_, rfl⟩
        obtain ⟨origin, horigin⟩ := horigin
        exact ⟨(name, origin) :: sources, by rw [sourcesOf, horigin, hsources]; rfl⟩
  obtain ⟨sources, hsources⟩ := hsources
  exact ⟨_, by rw [RowDecoder.create, hsources]; rfl⟩

/-- The declared columns of a schema exist. -/
theorem ScanOrder.isColumn_of_mem {schema : Schema} {c : Column} (hc : c ∈ schema.columns) :
    ScanOrder.isColumn schema c.name = true := by
  rw [ScanOrder.isColumn, Bool.or_eq_true, Schema.findColumn?, List.find?_isSome]
  exact .inr ⟨c, List.mem_reverse.2 hc, decide_eq_true rfl⟩

/-- The columns of an order that could be worked out exist. -/
theorem ScanOrder.Compiled.isColumn {order : ScanOrder} {schema : Schema} {index : String}
    {settings : ScanSettings}
    {r : ScanRequest} (h : order.Compiled schema index settings r) :
    ∀ name ∈ r.columns, ScanOrder.isColumn schema name = true := by
  intro name hname
  have hknown := h.columns_known
  rw [ScanOrder.checkColumns] at hknown
  split at hknown
  · simp at hknown
  · rename_i hnone
    rw [h.columns] at hname
    simpa using List.find?_eq_none.1 hnone name (List.mem_append_left _ hname)

namespace Scan

/-- **A request that was worked out has a scan**, which was not started. -/
theorem exists_create {order : ScanOrder} {schema : Schema} {index : String}
    {settings : ScanSettings}
    {r : ScanRequest} (h : order.Compiled schema index settings r) :
    ∃ s, Scan.create r schema = .ok s ∧ s.For r schema ∧ s.search = r.search ∧ s.state = .init ∧
      s.skipped = 0 ∧
      s.emitted = 0 := by
  obtain ⟨d, hd⟩ := RowDecoder.exists_create h.isColumn
  -- a row filter is evaluated on all columns, and those exist, too
  have hall : ∀ name ∈ idColumn :: schema.columns.map (·.name),
      ScanOrder.isColumn schema name = true := by
    rw [List.forall_mem_cons, List.forall_mem_map]
    exact ⟨rfl, fun c hc => ScanOrder.isColumn_of_mem hc⟩
  obtain ⟨all, hall⟩ := RowDecoder.exists_create hall
  have hdecode : ∀ hit, d.decode hit = r.decode schema hit := by
    intro hit
    rw [ScanRequest.decode, hd]
    rfl
  rw [Scan.create, hd]
  cases hfilter : r.rowFilter with
  | none =>
      refine ⟨_, rfl, ⟨rfl, hdecode, fun hit => ?_⟩, rfl, rfl, rfl, rfl⟩
      rw [rejects, hfilter, ScanRequest.accepts, hfilter]
      rfl
  | some filter =>
      rw [hall]
      refine ⟨_, rfl, ⟨rfl, hdecode, fun hit => ?_⟩, rfl, rfl, rfl, rfl⟩
      simp only [rejects, hfilter, ScanRequest.accepts, hall]
      cases hrow : all.decode hit with
      | error e => simp [bind, Except.bind, Except.map, hrow]
      | ok row =>
          cases hkept : filter.keeps row <;>
            simp [bind, Except.bind, Except.map, hrow, hkept, pure, Except.pure]

/-- A scan that was not started returns the rows of the selection. -/
theorem For.yields {service : ScrollService τ} (hrelease : service.ReleasesQuietly)
    {r : ScanRequest} {schema : Schema}
    {s : Scan} (h : s.For r schema) (hsearch : s.search = r.search) (hstate : s.state = .init)
    (hskipped : s.skipped = 0) (hemitted : s.emitted = 0) (state : τ) (asked : Nat) :
    s.Yields service r schema (service.feedFor r asked state) [] state := by
  obtain rfl := h.request
  have hprogress : s.request.Progress schema [] s.skipped [] := hskipped ▸ ScanRequest.progress_nil
  have hadvance : s.advance service state = s.start service state := by
    rw [advance, hstate]
  rw [Scan.start] at hadvance
  -- with a limit of zero nothing is sent
  by_cases hzero : s.request.limit = some 0
  · have hstep := hadvance.trans (if_pos hzero)
    obtain ⟨t, final, hfinal, ht⟩ := exhaustThen_of_quiet hrelease .again s state
    refine yields_of_again (hstep.trans hfinal) ?_
    exact yields_of_exhausted ht (List.nil_append _).symm hprogress.taken
      (hprogress.selection_append hzero _)
      (.inr hzero)
  · have hstep := hadvance.trans (if_neg hzero)
    refine yields_of_again hstep ?_
    have hwants : s.request.Wants ([] : List Row).length := by
      intro limit hlimit
      refine Nat.pos_of_ne_zero ?_
      rintro rfl
      exact hzero hlimit
    have hcoming : Cursor.coming service { search := s.search } asked
        (service.log (record ("starting scan of " ++ s.request.index)) state) =
          service.feedFor s.request asked state := by
      rw [hsearch]
      rfl
    have hactive : Active service s.request schema (service.feedFor s.request asked state) asked
        { s with cursor := some { search := s.search }, state := .fetching } { search := s.search }
        (service.log (record ("starting scan of " ++ s.request.index)) state) [] [] :=
      ⟨⟨rfl, h.decode, h.rejects⟩, rfl, hprogress, hemitted, hwants, by rw [hcoming]; rfl,
        by rw [hcoming]⟩
    have hpage : Cursor.page { search := s.search } = [] := rfl
    exact hactive.yields_fetching hrelease rfl hpage

/-- **A scan returns the rows of the selection.** For every order that could be worked out, every
service whose releases are quiet and every number of pages asked for, the calls of the scan come to
the rows of the selection from the feed of the service, whichever way its hits come in pages, and to
one failure at most. -/
theorem yields_of_compile {service : ScrollService τ} (hrelease : service.ReleasesQuietly)
    {order : ScanOrder}
    {schema : Schema} {index : String} {settings : ScanSettings} {r : ScanRequest}
    (h : order.compile schema index settings = .ok r) :
    ∃ s, Scan.create r schema = .ok s ∧
      ∀ state asked, s.Yields service r schema (service.feedFor r asked state) [] state := by
  obtain ⟨s, hs, hplan, hsearch, hstate, hskipped, hemitted⟩ :=
    exists_create (ScanOrder.compiled_of_compile h)
  exact ⟨s, hs, hplan.yields hrelease hsearch hstate hskipped hemitted⟩

/-- The second and the third of four documents, which come in two pages. -/
theorem yields_of_compile_across_pages :
    let hit (id : String) : Json := .obj [("_id", .str id)]
    let pages : List ScrollPage := [⟨some "a", [hit "1", hit "2"]⟩, ⟨some "b", [hit "3", hit "4"]⟩]
    let serve : Task (List ScrollPage) ScrollPage := fun
      | [] => (.ok ⟨none, []⟩, [])
      | page :: pages => (.ok page, pages)
    let service : ScrollService (List ScrollPage) :=
      ⟨fun _ => serve, fun _ _ => serve, fun _ pages => (.ok true, pages), fun _ pages => pages⟩
    let schema : Schema := { columns := [] }
    let order : ScanOrder := { columns := ["_id"], limit := .int 2, offset := .int 1 }
    ∃ r s, order.compile schema "documents" {} = .ok r ∧ Scan.create r schema = .ok s ∧
      s.Yields service r schema (service.feedFor r 3 pages) [] pages ∧
      (service.feedFor r 3 pages).hits = [hit "1", hit "2", hit "3", hit "4"] ∧
      (s.rows service 5 3 pages).map (·.1) =
        some (.ok [[("_id", .str "2")], [("_id", .str "3")]]) := by
  intro hit pages serve service schema order
  have hrelease : service.ReleasesQuietly := fun _ _ => ⟨true, rfl⟩
  obtain ⟨r, hr, hhits, hrows⟩ : ∃ r, order.compile schema "documents" {} = .ok r ∧
      (service.feedFor r 3 pages).hits = [hit "1", hit "2", hit "3", hit "4"] ∧
      ∀ s, Scan.create r schema = .ok s →
        (s.rows service 5 3 pages).map (·.1) =
          some (.ok [[("_id", .str "2")], [("_id", .str "3")]]) := by
    refine ⟨_, rfl, rfl, fun s hs => ?_⟩
    obtain rfl := Except.ok.inj hs
    rfl
  obtain ⟨s, hs, hyields⟩ := yields_of_compile hrelease hr
  exact ⟨r, s, hr, hs, hyields pages 3, hhits, hrows s hs⟩

end Scan

end SearchTables
