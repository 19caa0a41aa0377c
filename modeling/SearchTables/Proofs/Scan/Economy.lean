import SearchTables.Proofs.Mapping.Sampling
import SearchTables.Proofs.Scan.Uses
import SearchTables.Proofs.Scan.Yield

/-! # Economy — how many pages a scan asks for

A scan with a limit is done when as many hits were accepted as it skips and returns. It asks for a page
only when it has none left to take hits from and is not done yet (`Scan.Spends`), so it asks for the least
number of pages that hold so many accepted hits, and for all pages when there are not so many
(`Scan.pages_needed`). -/

namespace SearchTables

variable {τ : Type}

/-! ## Pages that are asked for -/

/-- Whether an exchange asked for a page. -/
def Exchange.asksPage : Exchange → Bool
  | .started .. | .continued .. => true
  | .released .. => false

/-- How many pages were asked for. -/
def pagesAsked (log : List Exchange) : Nat := log.countP Exchange.asksPage

/-- The last exchange counts when it asked for a page. -/
theorem pagesAsked_concat (log : List Exchange) (exchange : Exchange) :
    pagesAsked (log ++ [exchange]) = pagesAsked log + if exchange.asksPage then 1 else 0 := by
  rw [pagesAsked, List.countP_append, List.countP_singleton]
  rfl

/-- A service that keeps a record serves the same feed for a request. -/
theorem ScrollService.feedFor_recorded (service : ScrollService τ) (r : ScanRequest) (asked : Nat)
    (now : τ) (log : List Exchange) :
    service.recorded.feedFor r asked (now, log) = service.feedFor r asked now :=
  service.feed_recorded r.scroll asked _ _ _

namespace Cursor

/-- An answer begins with the hits of its page, and what is to come after it is still to come to the
cursor. -/
theorem feed_of_page (service : ScrollService τ) {c : Cursor} (hopened : c.opened = true)
    (hfinished : c.finished = false) (asked : Nat) (p : ScrollPage) (state : τ) :
    service.feed c.search.scroll (asked + 1) (.ok p, state) =
      ⟨p.hits ++ ((c.receive p).coming service asked state).hits,
        ((c.receive p).coming service asked state).ending⟩ := by
  obtain ⟨scrollId, hits⟩ := p
  cases hits <;> cases scrollId <;>
    simp [ScrollService.feed, coming, receive, hopened, hfinished]

/-- A cursor without hits has the hits of its page on hand then. -/
theorem feed_receive (service : ScrollService τ) {c : Cursor} (hopened : c.opened = true)
    (hfinished : c.finished = false) (hpage : c.page = []) (asked : Nat) (p : ScrollPage) (state : τ) :
    service.feed c.search.scroll (asked + 1) (.ok p, state) =
      ⟨(c.receive p).page ++ ((c.receive p).coming service asked state).hits,
        ((c.receive p).coming service asked state).ending⟩ := by
  have hhits : (c.receive p).page = p.hits := by
    rw [receive, hpage]
    rfl
  rw [hhits]
  exact feed_of_page service hopened hfinished asked p state

/-- Nothing is to come to a cursor with nothing left to ask for. -/
theorem coming_idle {c : Cursor} (hdone : c.finished = true ∨ c.opened = true ∧ c.scrollId = none)
    (service : ScrollService τ) (asked : Nat) (state : τ) :
    c.coming service asked state = ⟨[], .last⟩ := by
  rw [coming]
  by_cases hfinished : c.finished = true
  · rw [if_pos hfinished]
  · obtain ⟨hopened, hid⟩ := hdone.resolve_left hfinished
    simp [hfinished, hopened, hid]

/-- What a fetch can be that does not fail, for a cursor without hits: a page is asked for when more is to
come, and only then. -/
inductive Gets (service : ScrollService τ) (c : Cursor) (now : τ × List Exchange) :
    Cursor × τ × List Exchange → Prop where
  /-- Nothing was left to ask for. -/
  | nothing {c' : Cursor} (hcoming : ∀ asked, c.coming service.recorded asked now = ⟨[], .last⟩)
      (hexhausted : c'.exhausted = true) : Gets service c now (c', now)
  /-- A page was asked for. -/
  | page {c' : Cursor} {later : τ × List Exchange} (hasked : pagesAsked later.2 = pagesAsked now.2 + 1)
      (hmore : c.coming service.recorded 0 now = ⟨[], .more⟩)
      (hcoming : ∀ asked, c.coming service.recorded (asked + 1) now =
        ⟨c'.page ++ (c'.coming service.recorded asked later).hits,
          (c'.coming service.recorded asked later).ending⟩) : Gets service c now (c', later)

variable {service : ScrollService τ} {c c' : Cursor} {now later : τ × List Exchange}

/-- **A fetch that does not fail is one of the cases of `Gets`.** -/
theorem gets_fetch (hpage : c.page = []) {count : Nat}
    (hfetch : c.fetch service.recorded now = (.ok count, c', later)) :
    Gets service c now (c', later) := by
  -- a page that came from a request is the first one of what was to come
  have hcase := fetch_fetch service.recorded c now
  rw [hfetch] at hcase
  generalize hanswer : (Except.ok count : Except Error Nat) = answer at hcase
  cases hcase with
  | idle hdone =>
      exact .nothing (fun asked => coming_idle hdone _ asked now) (by simp [exhausted, hpage])
  | @opens page _ hfinished hopened hstart =>
      cases page with
      | error e => cases hanswer
      | ok p =>
          have hasked := ScrollService.log_of_start hstart
          refine .page ?_ ?_ fun asked => ?_
          · rw [hasked, pagesAsked_concat]
            rfl
          · simp [coming, hfinished, hopened, ScrollService.feed]
          · have hfirst : c.coming service.recorded (asked + 1) now =
                service.recorded.feed c.search.scroll (asked + 1) (.ok p, later) := by
              simp [coming, hfinished, hopened, hstart]
            exact hfirst.trans (feed_receive service.recorded (c := { c with opened := true }) rfl
              hfinished hpage asked p later)
  | @continues id page _ hfinished hopened hid hnext =>
      cases page with
      | error e => cases hanswer
      | ok p =>
          have hasked := ScrollService.log_of_next hnext
          refine .page ?_ ?_ fun asked => ?_
          · rw [hasked, pagesAsked_concat]
            rfl
          · simp [coming, hfinished, hopened, hid, ScrollService.feed]
          · have hfirst : c.coming service.recorded (asked + 1) now =
                service.recorded.feed c.search.scroll (asked + 1) (.ok p, later) := by
              simp [coming, hfinished, hopened, hid, hnext]
            exact hfirst.trans (feed_receive service.recorded hopened hfinished hpage asked p later)

/-- Closing a cursor asks for no page. -/
theorem pagesAsked_of_close {answer : Except Error Unit}
    (hclose : c.close service.recorded now = (answer, c', later)) :
    pagesAsked later.2 = pagesAsked now.2 := by
  rcases log_of_close hclose with hlog | ⟨id, released, hlog⟩
  · rw [hlog]
  · rw [hlog]
    exact pagesAsked_concat _ _

end Cursor

/-! ## Pages that are needed -/

/-- Whether a feed holds as many accepted hits as a request with a limit skips and returns. -/
def ScanRequest.Fills (r : ScanRequest) (schema : Schema) (limit : Nat) (feed : Feed) : Prop :=
  limit + r.offset ≤ (r.accepted schema feed.hits).length

/-- The first pages of a feed, as many as a number says, are all **needed**: fewer of them do not hold
enough accepted hits, and are not all pages. -/
def ScanRequest.Needs (r : ScanRequest) (schema : Schema) (limit : Nat) (feed : Nat → Feed)
    (count : Nat) : Prop :=
  ∀ k < count, ¬ r.Fills schema limit (feed k) ∧ (feed k).ending = .more

namespace Scan

/-- Where a scan with a limit stands in its feed, with the record of its exchanges. -/
inductive Spends (service : ScrollService τ) (r : ScanRequest) (schema : Schema) (limit : Nat)
    (feed : Nat → Feed) (taken : List Json) (rows : List Row) (t : Scan)
    (now : τ × List Exchange) : Prop where
  /-- It was not started. -/
  | fresh (hstate : t.state = .init) (hfor : t.For r schema) (hsearch : t.search = r.search)
      (hskipped : t.skipped = 0) (hemitted : t.emitted = 0) (htaken : taken = []) (hrows : rows = [])
      (hlog : now.2 = []) (hfeed : ∀ k, feed k = service.recorded.feedFor r k now)
  /-- It goes on, and every page that it asked for was needed. -/
  | goesOn {c : Cursor} (hstate : t.state = .fetching ∧ c.page = [] ∨ t.state = .draining)
      (hactive : ∀ k,
        Active service.recorded r schema (feed (pagesAsked now.2 + k)) k t c now taken rows)
      (hneeds : r.Needs schema limit feed (pagesAsked now.2))
  /-- It has ended: the pages that it asked for were needed, and more are not. -/
  | ended (hstate : t.state = .exhausted) (hneeds : r.Needs schema limit feed (pagesAsked now.2))
      (hdone : r.Fills schema limit (feed (pagesAsked now.2)) ∨
        (feed (pagesAsked now.2)).ending = .last)

section Spends

variable {service : ScrollService τ} {r : ScanRequest} {schema : Schema} {limit : Nat}
  {feed : Nat → Feed} {taken : List Json} {rows : List Row} {s t : Scan} {c : Cursor}
  {now : τ × List Exchange}

/-- The end of a scan asks for no page. -/
theorem pagesAsked_of_exhaust {outcome : Except Error Unit × Scan × τ × List Exchange}
    (hexhaust : Exhaust service.recorded s now outcome) :
    pagesAsked outcome.2.2.2 = pagesAsked now.2 := by
  cases hexhaust with
  | finished | bare => rfl
  | closed _ _ hclose | failed _ _ hclose =>
      have hasked := Cursor.pagesAsked_of_close hclose
      exact hasked

/-- A scan ends when no more pages are needed. -/
theorem spends_of_exhaustThen (hneeds : r.Needs schema limit feed (pagesAsked now.2))
    (hdone : r.Fills schema limit (feed (pagesAsked now.2)) ∨ (feed (pagesAsked now.2)).ending = .last)
    (turn : Turn) :
    Spends service r schema limit feed taken rows (s.exhaustThen service.recorded turn now).2.1
      (s.exhaustThen service.recorded turn now).2.2 := by
  obtain ⟨_, heq, -⟩ := exhaustThen_eq service.recorded turn s now
  have hcase := exhaust_exhaust service.recorded s now
  rw [heq]
  have hasked := pagesAsked_of_exhaust hcase
  rw [← hasked] at hneeds hdone
  exact .ended hcase.ended hneeds hdone

/-- A scan under way that has taken all hits of a feed is not done with it. -/
theorem Active.not_fills {asked : Nat} {feed : Feed} {state : τ × List Exchange}
    (h : Active service.recorded r schema feed asked s c state taken rows)
    (hlimit : r.limit = some limit) (hall : feed.hits = taken) : ¬ r.Fills schema limit feed := by
  have hlength := h.progress.length_rows
  have hwants := h.wants limit hlimit
  rw [List.length_drop] at hlength
  rw [ScanRequest.Fills, hall]
  omega

/-- A scan that has as many rows as the limit says is done with a feed that holds the hits taken. -/
theorem fills_of_progress {skipped : Nat} {feed : Feed} {left : List Json}
    (h : r.Progress schema taken skipped rows) (hpositive : 0 < limit) (hrows : rows.length = limit)
    (hhits : feed.hits = taken ++ left) : r.Fills schema limit feed := by
  have hlength := h.length_rows
  rw [List.length_drop] at hlength
  rw [ScanRequest.Fills, hhits, ScanRequest.accepted_append, List.length_append]
  omega

/-- A scan under way stays so when it takes a hit off its page. -/
theorem Active.takes {asked : Nat} {feed : Feed} {state : τ × List Exchange} {hit : Json}
    {rest : List Json} {more : List Row}
    (h : Active service.recorded r schema feed asked s c state taken rows) (hpage : c.page = hit :: rest)
    (hfor : t.For r schema) (hcursor : t.cursor = some { c with page := rest })
    (hprogress : r.Progress schema (taken ++ [hit]) t.skipped more) (hemitted : t.emitted = more.length)
    (hwants : r.Wants more.length) :
    Active service.recorded r schema feed asked t { c with page := rest } state (taken ++ [hit])
      more := by
  have hhits := h.hits_cons hpage
  rw [List.append_cons] at hhits
  exact ⟨hfor, hcursor, hprogress, hemitted, hwants, hhits, h.ending⟩

/-- What is to come to a cursor does not depend on the hits that it has. -/
theorem coming_empty (service : ScrollService τ) (asked : Nat) (state : τ) (h : c.exhausted = true) :
    c.page ++ (c.coming service asked state).hits = [] ∧ (c.coming service asked state).ending = .last := by
  obtain ⟨hfinished, hpage⟩ : c.finished = true ∧ c.page = [] := by simpa [Cursor.exhausted] using h
  simp [Cursor.coming, hfinished, hpage]

/-- **A page is asked for only when it is needed**, and brings the hits that come next. -/
theorem needs_of_gets {c' : Cursor} {later : τ × List Exchange} (hlimit : r.limit = some limit)
    (hpage : c.page = [])
    (hactive : ∀ k, Active service.recorded r schema (feed (pagesAsked now.2 + k)) k s c now taken rows)
    (hneeds : r.Needs schema limit feed (pagesAsked now.2))
    (hgets : Cursor.Gets service c now (c', later)) :
    r.Needs schema limit feed (pagesAsked later.2) ∧
      (c'.exhausted = true → (feed (pagesAsked later.2)).ending = .last) ∧
      (¬ c'.exhausted = true → ∀ k, Active service.recorded r schema (feed (pagesAsked later.2 + k)) k
        { s with cursor := some c', state := .draining } c' later taken rows) := by
  have hnow := hactive 0
  rw [Nat.add_zero] at hnow
  cases hgets with
  | nothing hcoming hexhausted =>
      have hlast : (feed (pagesAsked now.2)).ending = .last := by rw [hnow.ending, hcoming]
      exact ⟨hneeds, fun _ => hlast, fun hgoing => absurd hexhausted hgoing⟩
  | page hasked hmore hcoming =>
      -- all hits of the pages so far were taken, and they were not enough
      have hall : (feed (pagesAsked now.2)).hits = taken := by
        rw [hnow.hits, hmore, hpage, List.append_nil, List.append_nil]
      have hending : (feed (pagesAsked now.2)).ending = .more := by rw [hnow.ending, hmore]
      have hnext : ∀ k, (feed (pagesAsked later.2 + k)).hits =
            taken ++ (c'.page ++ (c'.coming service.recorded k later).hits) ∧
          (feed (pagesAsked later.2 + k)).ending = (c'.coming service.recorded k later).ending := by
        intro k
        have hk := hactive (k + 1)
        rw [← Nat.add_assoc, Nat.add_right_comm, ← hasked] at hk
        refine ⟨?_, ?_⟩
        · rw [hk.hits, hpage, List.nil_append, hcoming]
        · rw [hk.ending, hcoming]
      refine ⟨fun k hk => ?_, fun hexhausted => ?_, fun _ k => ?_⟩
      · rw [hasked] at hk
        rcases Nat.lt_succ_iff_lt_or_eq.1 hk with hbefore | rfl
        · exact hneeds k hbefore
        · exact ⟨hnow.not_fills hlimit hall, hending⟩
      · have hlast := (hnext 0).2
        rw [Nat.add_zero] at hlast
        exact hlast.trans (coming_empty service.recorded 0 later hexhausted).2
      · obtain ⟨hhits, hrest⟩ := hnext k
        exact ⟨⟨hnow.plan.request, hnow.plan.decode, hnow.plan.rejects⟩, rfl, hnow.progress, hnow.emitted,
          hnow.wants, hhits, hrest⟩

/-- What becomes of a hit, unless it fails: the scan goes on, or it is done. -/
theorem Spends.of_takes (hlimit : r.limit = some limit) (hpositive : 0 < limit) {hit : Json}
    {rest : List Json} (hstate : s.state = .draining) (hpage : c.page = hit :: rest)
    (hactive : ∀ k, Active service.recorded r schema (feed (pagesAsked now.2 + k)) k s c now taken rows)
    (hneeds : r.Needs schema limit feed (pagesAsked now.2)) {outcome : Turn × Scan × τ × List Exchange}
    (htakes : Takes service.recorded { s with cursor := some { c with page := rest } } hit now outcome)
    (hturn : ∀ e, outcome.1 ≠ .failed e) :
    Spends service r schema limit feed (taken ++ [hit]) (rows ++ outcome.1.rows) outcome.2.1
      outcome.2.2 := by
  have hnow := hactive 0
  rw [Nat.add_zero] at hnow
  have hplan := hnow.plan
  -- the plan of the request tells what the scan does with the hit
  have haccepts : ∀ rejected, s.rejects hit = .ok rejected → r.accepts schema hit = .ok !rejected := by
    intro rejected hrejects
    rw [hplan.rejects] at hrejects
    obtain ⟨kept, hkept, rfl⟩ := map_eq_ok.1 hrejects
    rw [hkept, Bool.not_not]
  have hrow : ∀ row, s.rejects hit = .ok false → ¬ s.skipped < s.request.offset →
      s.decoder.decode hit = .ok row →
        r.Progress schema (taken ++ [hit]) s.skipped (rows ++ [row]) ∧
          s.emitted + 1 = (rows ++ [row]).length := by
    intro row hrejects hskip hdecode
    rw [hplan.request] at hskip
    rw [hplan.decode] at hdecode
    refine ⟨hnow.progress.row (haccepts false hrejects) hskip hnow.wants hdecode, ?_⟩
    rw [List.length_append, hnow.emitted, List.length_singleton]
  cases htakes with
  | @unanswered e | @undecoded e => exact absurd rfl (hturn e)
  | rejected hrejects =>
      rw [Turn.rows_again, List.append_nil]
      refine .goesOn (.inr hstate) (fun k => (hactive k).takes hpage ?_ rfl ?_ hnow.emitted hnow.wants)
        hneeds
      · exact ⟨hplan.request, hplan.decode, hplan.rejects⟩
      · exact hnow.progress.reject (haccepts true hrejects)
  | skipped hrejects hskip =>
      rw [Turn.rows_again, List.append_nil]
      have hbefore : s.skipped < r.offset := hplan.request ▸ hskip
      refine .goesOn (.inr hstate) (fun k => (hactive k).takes hpage ?_ rfl ?_ hnow.emitted hnow.wants)
        hneeds
      · exact ⟨hplan.request, hplan.decode, hplan.rejects⟩
      · exact hnow.progress.skip (haccepts false hrejects) hbefore
  | @row row hrejects hskip hdecode hbelow =>
      obtain ⟨hprogress, hemitted⟩ := hrow row hrejects hskip hdecode
      have hwants : r.Wants (rows ++ [row]).length := by
        intro more hmore
        obtain rfl := Option.some.inj (hlimit.symm.trans hmore)
        rw [← hemitted]
        refine Nat.lt_of_not_le fun hreached => hbelow ?_
        simpa [atLimit, hplan.request, hlimit] using hreached
      refine .goesOn (.inr hstate)
        (fun k => (hactive k).takes hpage ?_ rfl hprogress hemitted hwants) hneeds
      exact ⟨hplan.request, hplan.decode, hplan.rejects⟩
  | @lastRow row hrejects hskip hdecode hreached =>
      obtain ⟨hprogress, hemitted⟩ := hrow row hrejects hskip hdecode
      -- the limit is reached, and one row less was wanted before
      have hall : (rows ++ [row]).length = limit := by
        have hatLimit : limit ≤ s.emitted + 1 := by
          simpa [atLimit, hplan.request, hlimit] using hreached
        have hwants := hnow.wants limit hlimit
        have hnone := hnow.emitted
        rw [← hemitted]
        omega
      have hhits := hnow.hits_cons hpage
      rw [List.append_cons] at hhits
      exact spends_of_exhaustThen hneeds (.inl (fills_of_progress hprogress hpositive hall hhits)) _

/-- A scan that begins has asked for no page. -/
theorem spends_of_begins (hpositive : 0 < limit) (hlimit : r.limit = some limit)
    (hfor : s.For r schema) (hsearch : s.search = r.search) (hskipped : s.skipped = 0)
    (hemitted : s.emitted = 0) (hlog : now.2 = [])
    (hfeed : ∀ k, feed k = service.recorded.feedFor r k now) :
    Spends service r schema limit feed [] []
      { s with cursor := some { search := s.search }, state := .fetching }
      (service.recorded.log (record ("starting scan of " ++ s.request.index)) now) := by
  obtain rfl := hfor.request
  have hasked : pagesAsked
      (service.recorded.log (record ("starting scan of " ++ s.request.index)) now).2 = 0 := by
    show pagesAsked now.2 = 0
    rw [hlog]
    rfl
  have hcoming : ∀ k, Cursor.coming service.recorded { search := s.search } k
      (service.recorded.log (record ("starting scan of " ++ s.request.index)) now) = feed k := by
    intro k
    rw [hfeed, hsearch]
    rfl
  have hprogress : s.request.Progress schema [] s.skipped [] := hskipped ▸ ScanRequest.progress_nil
  have hwants : s.request.Wants ([] : List Row).length := by
    intro more hmore
    obtain rfl := Option.some.inj (hlimit.symm.trans hmore)
    exact hpositive
  have hempty : Cursor.page { search := s.search } = [] := rfl
  refine .goesOn (.inl ⟨rfl, hempty⟩) (fun k => ?_) (fun k hk => ?_)
  · rw [hasked, Nat.zero_add]
    refine ⟨⟨rfl, hfor.decode, hfor.rejects⟩, rfl, hprogress, hemitted, hwants, ?_, ?_⟩
    · rw [hcoming]
      rfl
    · rw [hcoming]
  · rw [hasked] at hk
    exact absurd hk (Nat.not_lt_zero k)

/-- **A step of a scan that does not fail asks for a page only when it is needed.** -/
theorem Spends.step (hlimit : r.limit = some limit) (hpositive : 0 < limit)
    (h : Spends service r schema limit feed taken rows s now) {outcome : Turn × Scan × τ × List Exchange}
    (hstep : Step service.recorded s now outcome) (hturn : ∀ e, outcome.1 ≠ .failed e) :
    Spends service r schema limit feed (taken ++ s.atHand) (rows ++ outcome.1.rows) outcome.2.1
      outcome.2.2 := by
  cases h with
  | fresh hstate hfor hsearch hskipped hemitted htaken hrows hlog hfeed =>
      rw [append_atHand_of_ne (by simp [hstate])]
      cases hstep with
      | finished hended => simp [hstate] at hended
      | lost hgoing => simp [hstate] at hgoing
      | unfetched hgoing | ends hgoing | fetched hgoing | drained hgoing | takes hgoing =>
          simp [hstate] at hgoing
      | nothing _ hzero =>
          rw [hfor.request, hlimit] at hzero
          obtain rfl := Option.some.inj hzero
          exact absurd hpositive (Nat.lt_irrefl 0)
      | begins =>
          subst htaken hrows
          exact spends_of_begins hpositive hlimit hfor hsearch hskipped hemitted hlog hfeed
  | ended hstate hneeds hdone =>
      cases hstep with
      | finished => exact .ended hstate hneeds hdone
      | lost hgoing => simp [hstate] at hgoing
      | nothing hgoing | begins hgoing | unfetched hgoing | ends hgoing | fetched hgoing | drained hgoing
      | takes hgoing => simp [hstate] at hgoing
  | @goesOn c hstate hactive hneeds =>
      have hcursor := (hactive 0).cursor
      -- while the scan goes on there is one cursor, and its page is empty when a page is asked for
      have hsame : ∀ {c' : Cursor}, s.cursor = some c' → c' = c := by
        intro c' hsome
        exact Option.some.inj (hsome.symm.trans hcursor)
      have hempty : s.state = .fetching → c.page = [] := by
        intro hfetching
        simpa [hfetching] using hstate
      cases hstep with
      | finished hended => simp [hended] at hstate
      | nothing hinit | begins hinit => simp [hinit] at hstate
      | lost _ hlost =>
          rw [hcursor] at hlost
          cases hlost
      | unfetched => exact absurd rfl (hturn _)
      | ends hfetching hsome hfetch hexhausted =>
          obtain rfl := hsame hsome
          have hgets := Cursor.gets_fetch (hempty hfetching) hfetch
          obtain ⟨hneeds', hlast, -⟩ := needs_of_gets hlimit (hempty hfetching) hactive hneeds hgets
          exact spends_of_exhaustThen hneeds' (.inr (hlast hexhausted)) .again
      | fetched hfetching hsome hfetch hexhausted =>
          obtain rfl := hsame hsome
          have hgets := Cursor.gets_fetch (hempty hfetching) hfetch
          obtain ⟨hneeds', -, hnext⟩ := needs_of_gets hlimit (hempty hfetching) hactive hneeds hgets
          rw [append_atHand_of_ne (by simp [hfetching]), Turn.rows_again, List.append_nil]
          exact .goesOn (.inr rfl) (hnext hexhausted) hneeds'
      | drained hdraining hsome hpage =>
          obtain rfl := hsame hsome
          rw [atHand_of_draining hdraining hcursor, hpage, List.take_nil, List.append_nil, Turn.rows_again,
            List.append_nil]
          refine .goesOn (.inl ⟨rfl, hpage⟩) (fun k => ?_) hneeds
          obtain ⟨hplan, -, hprogress, hemitted, hwants, hhits, hending⟩ := hactive k
          exact ⟨⟨hplan.request, hplan.decode, hplan.rejects⟩, hcursor, hprogress, hemitted, hwants, hhits,
            hending⟩
      | @takes _ hit rest _ hdraining hsome hpage htakes =>
          obtain rfl := hsame hsome
          have hhit : s.atHand = [hit] := by rw [atHand_of_draining hdraining hcursor, hpage]; rfl
          rw [hhit]
          exact Spends.of_takes hlimit hpositive hdraining hpage hactive hneeds htakes hturn

/-- **Calls none of which fails ask only for pages that are needed.** -/
theorem carries_spends (service : ScrollService τ) {r : ScanRequest} (schema : Schema) {limit : Nat}
    (hlimit : r.limit = some limit) (hpositive : 0 < limit) (feed : Nat → Feed) :
    Carries service.recorded fun taken rows t now =>
      Spends service r schema limit feed taken rows t now where
  advance {_ _ s now} h turn t later hadvance hturn := by
    have hstep := step_advance service.recorded s now
    rw [hadvance] at hstep
    exact h.step hlimit hpositive hstep hturn

end Spends

/-! ## All rows -/

/-- A scan that was just made is a scan of its request. -/
theorem for_of_create {r : ScanRequest} {schema : Schema} {s : Scan}
    (h : Scan.create r schema = .ok s) :
    s.For r schema ∧ s.search = r.search ∧ s.state = .init ∧ s.skipped = 0 ∧ s.emitted = 0 := by
  obtain ⟨d, filterDecoder, hd, hfilter, rfl⟩ := exists_of_create h
  have hdecode : ∀ hit, d.decode hit = r.decode schema hit := by
    intro hit
    rw [ScanRequest.decode, hd]
    rfl
  refine ⟨⟨rfl, hdecode, fun hit => ?_⟩, rfl, rfl, rfl, rfl⟩
  cases hnone : r.rowFilter with
  | none =>
      rw [rejects, ScanRequest.accepts, hnone]
      rfl
  | some filter =>
      obtain ⟨all, hall, rfl⟩ := hfilter filter hnone
      simp only [rejects, ScanRequest.accepts, hnone, hall]
      cases hrow : all.decode hit with
      | error e => simp [bind, Except.bind, Except.map, hrow]
      | ok row =>
          cases hkept : filter.keeps row <;>
            simp [bind, Except.bind, Except.map, hrow, hkept, pure, Except.pure]

/-- Calls that come to rows and then to the end come to all rows, given enough steps. The induction is on
the rows. -/
theorem rows_of_calls {service : ScrollService τ} {s : Scan} {state : τ} {rows : List Row}
    (h : s.Calls service (rows.map .row ++ [.finished]) state) :
    ∃ enough, ∀ steps, enough ≤ steps → ∃ t later,
      s.rows service steps (rows.length + 1) state = some (.ok rows, t, later) := by
  induction rows generalizing s state with
  | nil =>
      obtain ⟨t, later, ⟨enough, henough⟩, -⟩ := h
      refine ⟨enough, fun steps hsteps => ⟨t, later, ?_⟩⟩
      rw [Scan.rows, henough steps hsteps]
  | cons row rows ih =>
      obtain ⟨s', state', ⟨first, hfirst⟩, hrest⟩ := h
      obtain ⟨enough, henough⟩ := ih hrest
      refine ⟨max first enough, fun steps hsteps => ?_⟩
      obtain ⟨t, later, hrows⟩ := henough steps (by omega)
      refine ⟨t, later, ?_⟩
      rw [List.length_cons, Scan.rows, hfirst steps (by omega)]
      simp only [hrows]
      rfl

section Rows

variable {service : ScrollService τ} {r : ScanRequest} {schema : Schema} {s : Scan} {limit : Nat}

/-- The rows of hits that are enough are as many as the limit says. -/
theorem length_of_fills {feed : Feed} {rows : List Row} (hlimit : r.limit = some limit)
    (hfills : r.Fills schema limit feed) (htaken : r.Taken schema feed.hits rows) :
    rows.length = limit := by
  have hlength := congrArg List.length htaken.decoded
  rw [List.length_map, List.length_map, ScanRequest.selection, hlimit, ScanRequest.upTo,
    List.length_take, List.length_drop] at hlength
  rw [ScanRequest.Fills] at hfills
  omega

/-- **A scan comes to all its rows** when some first pages of the feed are enough or all there are, no
request fails and each hit has an answer and a row. -/
theorem exists_rows (hcreate : Scan.create r schema = .ok s) (hlimit : r.limit = some limit)
    (hrelease : service.ReleasesQuietly) {state : τ} {k : Nat}
    (hdone : r.Fills schema limit (service.feedFor r k state) ∨ (service.feedFor r k state).ending = .last)
    (hfree : ∀ e, (service.feedFor r k state).ending ≠ .failed e)
    (hhits : ∀ hit ∈ (service.feedFor r k state).hits,
      (∃ kept, r.accepts schema hit = .ok kept) ∧ ∃ row, r.decode schema hit = .ok row) :
    ∃ steps count rows t later,
      s.rows service.recorded steps count (state, []) = some (.ok rows, t, later) := by
  obtain ⟨hfor, hsearch, hinit, hskipped, hemitted⟩ := for_of_create hcreate
  have hquiet : service.recorded.ReleasesQuietly := fun id now => hrelease id now.1
  have hyields := hfor.yields hquiet hsearch hinit hskipped hemitted (state, []) k
  rw [service.feedFor_recorded] at hyields
  cases hyields with
  | complete _ _ _ _ hcalls =>
      obtain ⟨enough, henough⟩ := rows_of_calls (hcalls 1)
      obtain ⟨t, later, hrows⟩ := henough enough (Nat.le_refl enough)
      exact ⟨_, _, _, t, later, hrows⟩
  | unfinished hending htaken hwants =>
      rcases hdone with hfills | hlast
      · -- the limit was reached, so the scan cannot be unfinished
        have hall := length_of_fills hlimit hfills htaken
        exact absurd (hwants limit hlimit) (by omega)
      · rw [hending] at hlast
        cases hlast
  | @failed consumed left _ _ heq _ _ hfails =>
      -- the hits that are left are among those of the feed
      have hmem : ∀ {hit : Json} {rest : List Json}, left = hit :: rest →
          hit ∈ (service.feedFor r k state).hits := by
        intro hit rest hleft
        rw [heq, hleft]
        exact List.mem_append_right _ List.mem_cons_self
      cases hfails with
      | fetch _ hending => exact absurd hending (hfree _)
      | rowFilter hleft haccepts =>
          obtain ⟨⟨kept, hkept⟩, -⟩ := hhits _ (hmem hleft)
          rw [haccepts] at hkept
          cases hkept
      | decode hleft _ hdecode =>
          obtain ⟨-, row, hrow⟩ := hhits _ (hmem hleft)
          rw [hdecode] at hrow
          cases hrow

/-- **A scan that came to all its rows has asked for the pages that it needed**, and for no other. -/
theorem spends_of_rows (hcreate : Scan.create r schema = .ok s) (hlimit : r.limit = some limit)
    (hpositive : 0 < limit) {state now : τ} {log : List Exchange} {steps count : Nat} {rows : List Row}
    {t : Scan}
    (hrows : s.rows service.recorded steps count (state, []) = some (.ok rows, t, now, log)) :
    r.Needs schema limit (fun k => service.feedFor r k state) (pagesAsked log) ∧
      (r.Fills schema limit (service.feedFor r (pagesAsked log) state) ∨
        (service.feedFor r (pagesAsked log) state).ending = .last) := by
  obtain ⟨hfor, hsearch, hinit, hskipped, hemitted⟩ := for_of_create hcreate
  have hfresh : Spends service r schema limit (fun k => service.feedFor r k state) [] [] s
      (state, []) :=
    .fresh hinit hfor hsearch hskipped hemitted rfl rfl rfl
      fun k => (service.feedFor_recorded r k state []).symm
  obtain ⟨hended, taken, hspends⟩ :=
    (carries_spends service schema hlimit hpositive _).allRows hfresh hrows
  cases hspends with
  | fresh hstate => simp [hstate] at hended
  | goesOn hstate => simp [hended] at hstate
  | ended _ hneeds hdone => exact ⟨hneeds, hdone⟩

/-- A feed that ends with enough hits had enough of them where it ended. -/
theorem fills_of_ended {state : τ} {asked k : Nat}
    (hlast : (service.feedFor r asked state).ending = .last) (hle : asked ≤ k)
    (hfills : r.Fills schema limit (service.feedFor r k state)) :
    r.Fills schema limit (service.feedFor r asked state) := by
  obtain ⟨more, rfl⟩ := Nat.exists_eq_add_of_le hle
  have hwhole : service.feedFor r (asked + more) state = service.feedFor r asked state :=
    service.feed_of_ended r.scroll (by rw [← ScrollService.feedFor, hlast]; simp) more
  rwa [hwhole] at hfills

/-- The page size of an order without a row filter is all that it wants, when that is little enough. -/
theorem pageSize_of_compile {order : ScanOrder} {index : String} {settings : ScanSettings}
    (h : order.compile schema index settings = .ok r) (hfilter : r.rowFilter = none)
    (hlimit : r.limit = some limit) (hpositive : 0 < limit)
    (hsmall : (limit + r.offset : Int) ≤ settings.batchSize * settings.thresholdFactor) :
    r.pageSize = limit + r.offset := by
  have hsize : r.pageSize = settings.pageSize (r.limit.map Int.ofNat) r.offset := by
    simp only [ScanOrder.compile, bind_eq_ok] at h
    obtain ⟨_, -, _, -, _, -, _, -, h⟩ := h
    split at h
    · rename_i hsome
      obtain ⟨projection, -, hr⟩ := bind_eq_ok.1 h
      obtain rfl := pure_eq_ok.1 hr
      have hnone : order.rowFilter = none := hfilter
      simp [hnone] at hsome
    · obtain ⟨projection, -, hr⟩ := bind_eq_ok.1 h
      obtain rfl := pure_eq_ok.1 hr
      rfl
  rw [hsize, hlimit]
  have hwanted : (0 : Int) < limit := Int.natCast_pos.2 hpositive
  exact if_pos ⟨hwanted, hsmall⟩

/-- The first page is enough when it holds all that is wanted and no hit is rejected. -/
theorem fills_of_page (hfilter : r.rowFilter = none) {state later : τ} {p : ScrollPage}
    (hstart : service.start r.search (service.log (record ("starting scan of " ++ r.index)) state) =
      (.ok p, later)) (hhits : limit + r.offset ≤ p.hits.length) :
    r.Fills schema limit (service.feedFor r 1 state) := by
  have hfirst : (service.feedFor r 1 state).hits = p.hits := by
    rw [ScrollService.feedFor, hstart]
    obtain ⟨scrollId, hits⟩ := p
    cases hits <;> cases scrollId <;> simp [ScrollService.feed]
  have hall : r.accepted schema p.hits = p.hits := by
    rw [ScanRequest.accepted, List.filter_eq_self]
    intro hit _
    simp [ScanRequest.accepts, hfilter]
  rwa [ScanRequest.Fills, hfirst, hall]

/-- **A scan fetches no page that it does not need.** For every request with a positive limit and every
service, a scan that came to all its rows has asked for the least number of pages that hold as many
accepted hits as it skips and returns; when no number of pages does, it has asked for all of them, up to
the first page that is empty or comes without an id. It comes to all its rows when one of the two is the
case, no request fails and each hit has an answer and a row. Without a row filter, when the limit and the
offset together are small enough to make one page, a service that fills the page is asked for one page if
there are so many documents. -/
theorem pages_needed (service : ScrollService τ) (hcreate : Scan.create r schema = .ok s)
    (hlimit : r.limit = some limit) (hpositive : 0 < limit) (state : τ) :
    (∀ (steps count : Nat) (rows : List Row) (t : Scan) (now : τ) (log : List Exchange),
      s.rows service.recorded steps count (state, []) = some (.ok rows, t, now, log) →
        ((∃ k, r.Fills schema limit (service.feedFor r k state)) →
          r.Fills schema limit (service.feedFor r (pagesAsked log) state) ∧
            ∀ k, r.Fills schema limit (service.feedFor r k state) → pagesAsked log ≤ k) ∧
        ((¬ ∃ k, r.Fills schema limit (service.feedFor r k state)) →
          (service.feedFor r (pagesAsked log) state).ending = .last ∧
            ∀ k, (service.feedFor r k state).ending = .last → pagesAsked log ≤ k) ∧
        (r.rowFilter = none → ∀ (order : ScanOrder) (index : String) (settings : ScanSettings),
          order.compile schema index settings = .ok r →
            (limit + r.offset : Int) ≤ settings.batchSize * settings.thresholdFactor →
              ∀ (p : ScrollPage) (later : τ) (documents : List Json),
                service.start r.search
                    (service.log (record ("starting scan of " ++ r.index)) state) = (.ok p, later) →
                  p.hits = documents.take r.search.size.toNat →
                    limit + r.offset ≤ documents.length → pagesAsked log = 1)) ∧
    (service.ReleasesQuietly → ∀ k,
      r.Fills schema limit (service.feedFor r k state) ∨ (service.feedFor r k state).ending = .last →
        (∀ e, (service.feedFor r k state).ending ≠ .failed e) →
          (∀ hit ∈ (service.feedFor r k state).hits,
            (∃ kept, r.accepts schema hit = .ok kept) ∧ ∃ row, r.decode schema hit = .ok row) →
            ∃ steps count rows t later,
              s.rows service.recorded steps count (state, []) = some (.ok rows, t, later)) := by
  refine ⟨fun steps count rows t now log hrows => ?_,
    fun hrelease k => exists_rows hcreate hlimit hrelease⟩
  obtain ⟨hneeds, hdone⟩ := spends_of_rows hcreate hlimit hpositive hrows
  have hleast : ∀ k, r.Fills schema limit (service.feedFor r k state) → pagesAsked log ≤ k :=
    fun k hk => Nat.le_of_not_lt fun hbefore => (hneeds k hbefore).1 hk
  refine ⟨fun ⟨k, hk⟩ => ⟨?_, hleast⟩, fun hnone => ⟨?_, fun k hk => ?_⟩, ?_⟩
  · -- more pages than were asked for hold no more hits when those were all pages
    rcases hdone with hfills | hlast
    · exact hfills
    · exact fills_of_ended hlast (hleast k hk) hk
  · exact hdone.resolve_left fun hfills => hnone ⟨_, hfills⟩
  · refine Nat.le_of_not_lt fun hbefore => ?_
    have hmore := (hneeds k hbefore).2
    rw [hk] at hmore
    cases hmore
  · intro hfilter order index settings hcompile hsmall p later documents hstart hhits hdocuments
    have hsize : r.search.size.toNat = limit + r.offset := by
      show r.pageSize.toNat = limit + r.offset
      rw [pageSize_of_compile hcompile hfilter hlimit hpositive hsmall]
      omega
    have hlength : limit + r.offset ≤ p.hits.length := by
      rw [hhits, hsize, List.length_take]
      omega
    have hone := hleast 1 (fills_of_page hfilter hstart hlength)
    -- before the first page there are no hits at all
    have hsome : pagesAsked log ≠ 0 := by
      intro hzero
      rw [hzero] at hdone
      rcases hdone with hfills | hlast
      · have hnone : limit + r.offset ≤ 0 := hfills
        omega
      · cases hlast
    omega

/-- The second and the third of five documents, which come in pages of two: two pages are enough, and the
third one is not asked for. -/
theorem pages_needed_two_of_three :
    let hit (id : String) : Json := .obj [("_id", .str id)]
    let pages : List ScrollPage :=
      [⟨some "a", [hit "1", hit "2"]⟩, ⟨some "b", [hit "3", hit "4"]⟩, ⟨some "c", [hit "5"]⟩]
    let serve : Task (List ScrollPage) ScrollPage := fun
      | [] => (.ok ⟨none, []⟩, [])
      | page :: pages => (.ok page, pages)
    let service : ScrollService (List ScrollPage) :=
      ⟨fun _ => serve, fun _ _ => serve, fun _ pages => (.ok true, pages), fun _ pages => pages⟩
    let schema : Schema := { columns := [] }
    let order : ScanOrder := { columns := ["_id"], limit := .int 2, offset := .int 1 }
    ∃ r s t log, order.compile schema "documents" { batchSize := 1, thresholdFactor := 2 } = .ok r ∧
      Scan.create r schema = .ok s ∧
      s.rows service.recorded 5 3 (pages, []) =
        some (.ok [[("_id", .str "2")], [("_id", .str "3")]], t, [⟨some "c", [hit "5"]⟩], log) ∧
      pagesAsked log = 2 ∧ r.Fills schema 2 (service.feedFor r 2 pages) ∧
      ∀ k, r.Fills schema 2 (service.feedFor r k pages) → 2 ≤ k := by
  intro hit pages serve service schema order
  obtain ⟨r, hr, hlimit, hfills, hrun⟩ :
      ∃ r, order.compile schema "documents" { batchSize := 1, thresholdFactor := 2 } = .ok r ∧
        r.limit = some 2 ∧ r.Fills schema 2 (service.feedFor r 2 pages) ∧
        ∀ s, Scan.create r schema = .ok s → ∃ t log,
          s.rows service.recorded 5 3 (pages, []) =
            some (.ok [[("_id", .str "2")], [("_id", .str "3")]], t, [⟨some "c", [hit "5"]⟩], log) ∧
          pagesAsked log = 2 := by
    refine ⟨_, rfl, rfl, ?_, fun s hs => ?_⟩
    · show 2 + 1 ≤ 4
      omega
    · obtain rfl := Except.ok.inj hs
      exact ⟨_, _, rfl, rfl⟩
  obtain ⟨s, hs⟩ : ∃ s, Scan.create r schema = .ok s := by
    obtain rfl := Except.ok.inj hr
    exact ⟨_, rfl⟩
  obtain ⟨t, log, hrows, hasked⟩ := hrun s hs
  obtain ⟨hneeded, -⟩ := pages_needed service hs hlimit (by omega) pages
  obtain ⟨hleast, -⟩ := hneeded _ _ _ _ _ _ hrows
  have htwo := (hleast ⟨2, hfills⟩).2
  rw [hasked] at htwo
  exact ⟨r, s, t, log, hr, hs, hrows, hasked, hfills, htwo⟩

end Rows

end Scan

end SearchTables
