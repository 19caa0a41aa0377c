import SearchTables.Proofs.Scan.Step

/-! # The life of a scroll — which requests a scan sends

A scan opens its scroll once, goes on with it by the id that came last, and releases it once, when
the scan ends. To say so a service keeps a **record** of the exchanges with its scrolls
(`ScrollService.recorded`). As long as a scan goes on its record consists of fetches; when it has
ended the release of the last id, if there is one, stands after them, and nothing is ever added
(`scroll_lifecycle`). -/

namespace SearchTables

variable {τ : Type}

/-! ## Records -/

/-- A request to a scroll service, with its answer. -/
inductive Exchange where
  | started (search : Search) (answer : Except Error ScrollPage)
  | continued (id keep : String) (answer : Except Error ScrollPage)
  | released (id : String) (answer : Except Error Bool)

/-- The id of a page that came with an exchange. -/
def Exchange.pageId? : Exchange → Option String
  | .started _ (.ok p) | .continued _ _ (.ok p) => p.scrollId
  | _ => none

namespace Exchange

/-- The id of the page that a scroll was opened with. -/
theorem pageId?_started (search : Search) (answer : Except Error ScrollPage) :
    (started search answer).pageId? = answer.toOption.bind (·.scrollId) := by
  cases answer <;> rfl

/-- The id of the page that a scroll went on with. -/
theorem pageId?_continued (id keep : String) (answer : Except Error ScrollPage) :
    (continued id keep answer).pageId? = answer.toOption.bind (·.scrollId) := by
  cases answer <;> rfl

end Exchange

/-- The id that came last. -/
def lastId (log : List Exchange) : Option String :=
  log.foldl (fun found exchange => exchange.pageId?.or found) none

/-- The id of the last exchange comes before those of the others. -/
@[simp] theorem lastId_concat (log : List Exchange) (exchange : Exchange) :
    lastId (log ++ [exchange]) = exchange.pageId?.or (lastId log) := by
  rw [lastId, List.foldl_append]
  rfl

/-- A service that keeps a record of its exchanges beside its state. -/
def ScrollService.recorded (service : ScrollService τ) : ScrollService (τ × List Exchange) where
  start search := fun (state, log) =>
    let (answer, state) := service.start search state
    (answer, state, log ++ [.started search answer])
  next id keep := fun (state, log) =>
    let (answer, state) := service.next id keep state
    (answer, state, log ++ [.continued id keep answer])
  release id := fun (state, log) =>
    let (answer, state) := service.release id state
    (answer, state, log ++ [.released id answer])
  log record := fun (state, log) => (service.log record state, log)

namespace ScrollService

variable {service : ScrollService τ} {now later : τ} {log log' : List Exchange}

/-- Opening a scroll is recorded. -/
theorem log_of_start {q : Search} {answer : Except Error ScrollPage}
    (h : service.recorded.start q (now, log) = (answer, later, log')) :
    log' = log ++ [.started q answer] := by
  cases h
  rfl

/-- Going on with a scroll is recorded. -/
theorem log_of_next {id keep : String} {answer : Except Error ScrollPage}
    (h : service.recorded.next id keep (now, log) = (answer, later, log')) :
    log' = log ++ [.continued id keep answer] := by
  cases h
  rfl

/-- Releasing a scroll is recorded. -/
theorem log_of_release {id : String} {answer : Except Error Bool}
    (h : service.recorded.release id (now, log) = (answer, later, log')) :
    log' = log ++ [.released id answer] := by
  cases h
  rfl

end ScrollService

/-- The fetches of a search: nothing, or a request that opens its scroll and requests that go on with
it, each by the id that came last. -/
inductive Fetches (search : Search) : List Exchange → Prop where
  | none : Fetches search []
  | started (answer : Except Error ScrollPage) : Fetches search [.started search answer]
  | continued {log : List Exchange} {id : String} (h : Fetches search log)
      (hid : lastId log = some id) (answer : Except Error ScrollPage) :
      Fetches search (log ++ [.continued id search.scroll answer])

/-- The release of the id that came last, if one came. -/
inductive Releases : Option String → List Exchange → Prop where
  | none : Releases none []
  | once (id : String) (answer : Except Error Bool) : Releases (some id) [.released id answer]

/-! ## Cursors and their records -/

namespace Cursor

/-- A cursor that is not closed, with the record of its exchanges: it knows the id that came last, and
as long as it is not opened there are none. -/
structure Tied (c : Cursor) (q : Search) (log : List Exchange) : Prop where
  search : c.search = q
  closed : c.closed = false
  fetches : Fetches q log
  scrollId : c.scrollId = lastId log
  unopened : c.opened = false → log = []

variable {service : ScrollService τ} {c c' : Cursor} {q : Search} {log log' : List Exchange}
  {now later : τ}

/-- An answer that is recorded leaves the cursor with the id that came last. -/
theorem Tied.received (h : c.Tied q log) (hopened : c.opened = true) {exchange : Exchange}
    {answer : Except Error ScrollPage} (hfetches : Fetches q (log ++ [exchange]))
    (hid : exchange.pageId? = answer.toOption.bind (·.scrollId)) :
    (c.received answer).2.Tied q (log ++ [exchange]) := by
  have hopen : (c.received answer).2.opened = true := by
    cases answer <;> exact hopened
  have hlast : (c.received answer).2.scrollId = lastId (log ++ [exchange]) := by
    rw [lastId_concat, hid, ← h.scrollId]
    cases answer <;> rfl
  refine ⟨?_, ?_, hfetches, hlast, fun hunopened => ?_⟩
  · cases answer <;> exact h.search
  · cases answer <;> exact h.closed
  · rw [hopen] at hunopened
    cases hunopened

/-- **A fetch keeps a cursor tied to its record**, whatever the request comes to. -/
theorem Tied.fetch (h : c.Tied q log) {answer : Except Error Nat}
    (hfetch : c.fetch service.recorded (now, log) = (answer, c', later, log')) :
    c'.Tied q log' := by
  have hcase := fetch_fetch service.recorded c (now, log)
  rw [hfetch] at hcase
  cases hcase with
  | idle => exact ⟨h.search, h.closed, h.fetches, h.scrollId, h.unopened⟩
  | @opens page _ _ hopened hstart =>
      obtain rfl : log = [] := h.unopened hopened
      obtain rfl := ScrollService.log_of_start hstart
      obtain rfl := h.search
      have htied : Cursor.Tied { c with opened := true } c.search [] :=
        ⟨rfl, h.closed, h.fetches, h.scrollId, fun _ => rfl⟩
      exact htied.received rfl (.started _) (Exchange.pageId?_started _ _)
  | @continues id page _ _ hopened hid hnext =>
      have hlast : lastId log = some id := h.scrollId.symm.trans hid
      obtain rfl := ScrollService.log_of_next hnext
      rw [h.search]
      exact h.received hopened (h.fetches.continued hlast _) (Exchange.pageId?_continued _ _ _)

/-- **Closing a cursor releases the id that came last**, if one came. -/
theorem Tied.close (h : c.Tied q log) {answer : Except Error Unit} {final : τ × List Exchange}
    (hclose : c.close service.recorded (now, log) = (answer, c', final)) :
    ∃ release, final.2 = log ++ release ∧ Releases (lastId log) release := by
  obtain ⟨later, log'⟩ := final
  have hcase := close_close service.recorded c (now, log)
  rw [hclose] at hcase
  rw [← h.scrollId]
  cases hcase with
  | again hclosed =>
      rw [h.closed] at hclosed
      cases hclosed
  | bare _ hid =>
      rw [hid]
      exact ⟨[], (List.append_nil log).symm, .none⟩
  | released _ hid hrelease | unreleased _ hid hrelease =>
      obtain rfl := ScrollService.log_of_release hrelease
      rw [hid]
      exact ⟨_, rfl, .once _ _⟩

/-- Closing a cursor adds at most a release to the record. -/
theorem log_of_close {answer : Except Error Unit} {final : τ × List Exchange}
    (hclose : c.close service.recorded (now, log) = (answer, c', final)) :
    final.2 = log ∨ ∃ id released, final.2 = log ++ [.released id released] := by
  obtain ⟨later, log'⟩ := final
  have hcase := close_close service.recorded c (now, log)
  rw [hclose] at hcase
  cases hcase with
  | again | bare => exact .inl rfl
  | released _ _ hrelease | unreleased _ _ hrelease =>
      exact .inr ⟨_, _, ScrollService.log_of_release hrelease⟩

end Cursor

/-! ## Scans and their records -/

namespace Scan

/-- Where a scan stands, with the record of its exchanges. -/
inductive Stands (q : Search) (s : Scan) : List Exchange → Prop where
  /-- It was not started. -/
  | fresh (hstate : s.state = .init) (hcursor : s.cursor = none) : Stands q s []
  /-- It goes on, and there were fetches. -/
  | goesOn {log : List Exchange} {c : Cursor}
      (hstate : s.state = .fetching ∨ s.state = .draining) (hcursor : s.cursor = some c)
      (htied : c.Tied q log) : Stands q s log
  /-- It has ended, and what could be released was. -/
  | ended {fetches release : List Exchange} (hstate : s.state = .exhausted)
      (hfetches : Fetches q fetches) (hreleases : Releases (lastId fetches) release) :
      Stands q s (fetches ++ release)

variable {service : ScrollService τ} {q : Search} {s t : Scan} {log log' : List Exchange}
  {now later : τ}

/-- A scan has ended when its cursor is closed. -/
theorem stands_of_close {c c' : Cursor} (h : c.Tied q log) {answer : Except Error Unit}
    {final : τ × List Exchange}
    (hclose : c.close service.recorded (now, log) = (answer, c', final))
    (hstate : t.state = .exhausted) : t.Stands q final.2 := by
  obtain ⟨release, hlog, hreleases⟩ := h.close hclose
  rw [hlog]
  exact .ended hstate h.fetches hreleases

/-- **The end of a scan**: the id that came last is released, unless the scan had ended before. -/
theorem Stands.exhaust (h : s.Stands q log) {answer : Except Error Unit}
    (hexhaust : s.exhaust service.recorded (now, log) = (answer, t, later, log')) :
    t.Stands q log' := by
  have hcase := exhaust_exhaust service.recorded s (now, log)
  rw [hexhaust] at hcase
  cases h with
  | ended hstate hfetches hreleases => 
      cases hcase with
      | finished => exact .ended hstate hfetches hreleases
      | bare hgoing | closed hgoing | failed hgoing => exact absurd hstate hgoing
  | fresh hstate hcursor =>
      cases hcase with
      | finished hfinished => simp [hstate] at hfinished
      | bare =>
          -- nothing was sent, so there is nothing to release
          show Stands q _ ([] ++ [])
          exact .ended rfl .none .none
      | closed _ hsome | failed _ hsome =>
          rw [hcursor] at hsome
          cases hsome
  | goesOn hstate hcursor htied =>
      cases hcase with
      | finished hfinished => simp [hfinished] at hstate
      | bare _ hnone =>
          rw [hcursor] at hnone
          cases hnone
      | closed _ hsome hclose | failed _ hsome hclose =>
          obtain rfl := Option.some.inj (hcursor.symm.trans hsome)
          exact stands_of_close htied hclose rfl

/-- A scan stands where a scan with its state and its cursor stands. -/
theorem Stands.congr (h : s.Stands q log) (hstate : t.state = s.state)
    (hcursor : t.cursor = s.cursor) : t.Stands q log := by
  cases h with
  | fresh hfresh hnone => exact .fresh (hstate.trans hfresh) (hcursor.trans hnone)
  | goesOn hgoing hsome htied => exact .goesOn (hstate ▸ hgoing) (hcursor.trans hsome) htied
  | ended hended hfetches hreleases => exact .ended (hstate.trans hended) hfetches hreleases

/-- A scan that goes on has a cursor that is tied to its record. -/
theorem Stands.tied (h : s.Stands q log) {c : Cursor}
    (hstate : s.state = .fetching ∨ s.state = .draining) (hcursor : s.cursor = some c) :
    c.Tied q log := by
  cases h with
  | fresh hfresh => simp [hfresh] at hstate
  | ended hended => simp [hended] at hstate
  | goesOn _ hsome htied =>
      obtain rfl := Option.some.inj (hsome.symm.trans hcursor)
      exact htied

/-- Ending a scan and going on leaves it where its record says. -/
theorem Stands.exhaustThen (h : s.Stands q log) (turn : Turn) :
    (s.exhaustThen service.recorded turn (now, log)).2.1.Stands q
      (s.exhaustThen service.recorded turn (now, log)).2.2.2 := by
  obtain ⟨_, heq, -⟩ := exhaustThen_eq service.recorded turn s (now, log)
  rw [heq]
  exact h.exhaust rfl

/-- What becomes of a hit keeps a scan where its record says. -/
theorem Stands.takes (h : s.Stands q log) {hit : Json} {outcome : Turn × Scan × τ × List Exchange}
    (htakes : Takes service.recorded s hit (now, log) outcome) :
    outcome.2.1.Stands q outcome.2.2.2 := by
  cases htakes with
  | unanswered | undecoded => exact h
  | rejected | skipped | row => exact h.congr rfl rfl
  | lastRow =>
      refine Stands.exhaustThen ?_ _
      exact h.congr rfl rfl

/-- **A step keeps a scan where its record says.** -/
theorem Stands.step (h : s.Stands q log) (hsearch : s.search = q)
    {outcome : Turn × Scan × τ × List Exchange}
    (hstep : Step service.recorded s (now, log) outcome) :
    outcome.2.1.Stands q outcome.2.2.2 := by
  cases hstep with
  | finished | lost => exact h
  | nothing => exact h.exhaustThen .again
  | begins hstate =>
      cases h with
      | fresh => exact .goesOn (.inl rfl) rfl ⟨hsearch, rfl, .none, rfl, fun _ => rfl⟩
      | goesOn hgoing => simp [hstate] at hgoing
      | ended hended => simp [hstate] at hended
  | unfetched hstate hcursor hfetch =>
      exact .goesOn (.inl hstate) rfl ((h.tied (.inl hstate) hcursor).fetch hfetch)
  | ends hstate hcursor hfetch =>
      have hfetched := (h.tied (.inl hstate) hcursor).fetch hfetch
      refine Stands.exhaustThen ?_ .again
      exact .goesOn (.inl hstate) rfl hfetched
  | fetched hstate hcursor hfetch =>
      exact .goesOn (.inr rfl) rfl ((h.tied (.inl hstate) hcursor).fetch hfetch)
  | drained hstate hcursor => exact .goesOn (.inl rfl) hcursor (h.tied (.inr hstate) hcursor)
  | @takes c _ rest _ hstate hcursor _ htakes =>
      -- taking a hit off the page leaves alone what ties the cursor to the record
      obtain ⟨hcsearch, hclosed, hfetches, hid, hunopened⟩ := h.tied (.inr hstate) hcursor
      have htaken : Stands q { s with cursor := some { c with page := rest } } log :=
        .goesOn (.inr hstate) rfl ⟨hcsearch, hclosed, hfetches, hid, hunopened⟩
      exact htaken.takes htakes

/-- **Every call keeps a scan where its record says.** -/
theorem keeps_stands (service : ScrollService τ) (s : Scan) :
    Keeps service.recorded fun _ t now => s.Alike t ∧ t.Stands s.search now.2 := by
  refine Keeps.of_steps ?_ ?_
  · intro _ t state h turn u later hadvance
    have halike := h.1.of_step (step_advance service.recorded t state)
    have hstands := h.2.step h.1.search (step_advance service.recorded t state)
    rw [hadvance] at halike hstands
    exact ⟨halike, hstands⟩
  · intro _ t state h answer u later hexhaust
    have halike := h.1.of_exhaust (exhaust_exhaust service.recorded t state)
    rw [hexhaust] at halike
    exact ⟨halike, h.2.exhaust hexhaust⟩

/-- A scan that may return no rows stands at its beginning or at its end, and nothing was sent. -/
structure Idle (s : Scan) (log : List Exchange) : Prop where
  limit : s.request.limit = some 0
  state : s.state = .init ∨ s.state = .exhausted
  cursor : s.cursor = none
  log : log = []

/-- The end of a scan that may return no rows sends nothing. -/
theorem Idle.of_exhaust (h : s.Idle log) {outcome : Except Error Unit × Scan × τ × List Exchange}
    (hexhaust : Exhaust service.recorded s (now, log) outcome) :
    outcome.2.1.Idle outcome.2.2.2 := by
  cases hexhaust with
  | finished => exact h
  | bare => exact ⟨h.limit, .inr rfl, h.cursor, h.log⟩
  | closed _ hsome | failed _ hsome =>
      rw [h.cursor] at hsome
      cases hsome

/-- Neither does a step of it. -/
theorem Idle.step (h : s.Idle log) {outcome : Turn × Scan × τ × List Exchange}
    (hstep : Step service.recorded s (now, log) outcome) : outcome.2.1.Idle outcome.2.2.2 := by
  cases hstep with
  | finished | lost => exact h
  | nothing =>
      obtain ⟨_, heq, -⟩ := exhaustThen_eq service.recorded .again s (now, log)
      rw [heq]
      exact h.of_exhaust (exhaust_exhaust service.recorded s (now, log))
  | begins _ hlimit => exact absurd h.limit hlimit
  | unfetched _ hsome | ends _ hsome | fetched _ hsome | drained _ hsome | takes _ hsome =>
      rw [h.cursor] at hsome
      cases hsome

/-- **A scan that may return no rows sends nothing.** -/
theorem keeps_idle (service : ScrollService τ) :
    Keeps service.recorded fun _ t now => t.Idle now.2 := by
  refine Keeps.of_steps ?_ ?_
  · intro _ t state h turn u later hadvance
    have hstep := h.step (step_advance service.recorded t state)
    rwa [hadvance] at hstep
  · intro _ t state h answer u later hexhaust
    have hends := h.of_exhaust (exhaust_exhaust service.recorded t state)
    rwa [hexhaust] at hends

/-- **The life of a scroll.** For every request, every service and all calls of a scan in any order,
whatever each request comes to: the record is that of the fetches followed by that of the release.
As long as the scan goes on nothing was released. When it has ended the id that came last was
released, if one came, and no call changes anything any more. With a limit of zero nothing is sent,
and neither is it when the scan is closed before a row is asked for. -/
theorem scroll_lifecycle (service : ScrollService τ) {r : ScanRequest} {schema : Schema} {s : Scan}
    (hcreate : Scan.create r schema = .ok s) (state : τ) :
    (∀ (rows : List Row) (t : Scan) (now : τ) (log : List Exchange),
      s.Reaches service.recorded (state, []) rows t (now, log) →
        (∃ fetches release, log = fetches ++ release ∧ Fetches s.search fetches ∧
          (t.state ≠ .exhausted → release = []) ∧
          (t.state = .exhausted → Releases (lastId fetches) release)) ∧
        (t.state = .exhausted → ∀ (more : List Row) (t' : Scan) (later : τ × List Exchange),
          t.Reaches service.recorded (now, log) more t' later →
            more = [] ∧ t' = t ∧ later = (now, log)) ∧
        (r.limit = some 0 → log = [])) ∧
    (∀ (answer : Except Error Unit) (t : Scan) (now : τ × List Exchange),
      s.close service.recorded (state, []) = (answer, t, now) →
        ∀ (rows : List Row) (t' : Scan) (later : τ × List Exchange),
          t.Reaches service.recorded now rows t' later → later.2 = []) := by
  obtain ⟨rfl, hinit, hcursor⟩ := fresh_of_create hcreate
  refine ⟨fun rows t now log hreaches => ⟨?_, fun hended => ?_, fun hlimit => ?_⟩, ?_⟩
  · -- where the scan stands says which exchanges there were
    have hfresh : s.Stands s.search [] := .fresh hinit hcursor
    obtain ⟨-, hstands⟩ := (keeps_stands service s).of_reaches ⟨.refl s, hfresh⟩ hreaches
    cases hstands with
    | fresh hstate =>
        refine ⟨[], [], rfl, .none, fun _ => rfl, fun hended => ?_⟩
        rw [hstate] at hended
        cases hended
    | goesOn hgoing _ htied =>
        refine ⟨log, [], (List.append_nil log).symm, htied.fetches, fun _ => rfl, fun hended => ?_⟩
        simp [hended] at hgoing
    | @ended fetches release hended hfetches hreleases =>
        exact ⟨fetches, release, rfl, hfetches, fun hgoing => absurd hended hgoing,
          fun _ => hreleases⟩
  · -- nothing moves a scan that has ended
    intro more t' later hmore
    exact ((keeps_exhausted _ [] t (now, log)).of_reaches ⟨hended, rfl, rfl, rfl⟩ hmore).2
  · have hidle : s.Idle [] := ⟨hlimit, .inl hinit, hcursor, rfl⟩
    exact ((keeps_idle service).of_reaches hidle hreaches).log
  · -- before the first step there is no cursor whose scroll could be released
    intro answer t now hclose rows t' later hreaches
    have hcase := exhaust_exhaust service.recorded s (state, [])
    rw [← Scan.close, hclose] at hcase
    have hclosed : t.state = .exhausted ∧ now.2 = [] := by
      cases hcase with
      | finished hfinished => exact ⟨hfinished, rfl⟩
      | bare => exact ⟨rfl, rfl⟩
      | closed _ hsome | failed _ hsome =>
          rw [hcursor] at hsome
          cases hsome
    have hkept := (keeps_exhausted _ [] t now).of_reaches ⟨hclosed.1, rfl, rfl, rfl⟩ hreaches
    rw [hkept.2.2.2]
    exact hclosed.2

/-- Three rows of two pages: the scroll is opened, goes on by the id of the first page, and is
released by that of the second one at the limit. -/
theorem scroll_lifecycle_at_limit :
    let hit (id : String) : Json := .obj [("_id", .str id)]
    let pages : List ScrollPage := [⟨some "a", [hit "1", hit "2"]⟩, ⟨some "b", [hit "3", hit "4"]⟩]
    let serve : Task (List ScrollPage) ScrollPage := fun
      | [] => (.ok ⟨none, []⟩, [])
      | page :: pages => (.ok page, pages)
    let service : ScrollService (List ScrollPage) :=
      ⟨fun _ => serve, fun _ _ => serve, fun _ pages => (.ok true, pages), fun _ pages => pages⟩
    let order : ScanOrder := { columns := ["_id"], limit := .int 3 }
    ∃ r s t log, order.compile { columns := [] } "documents" {} = .ok r ∧
      Scan.create r { columns := [] } = .ok s ∧
      s.Reaches service.recorded (pages, [])
        [[("_id", .str "1")], [("_id", .str "2")], [("_id", .str "3")]] t ([], log) ∧
      log = [.started s.search (.ok ⟨some "a", [hit "1", hit "2"]⟩),
        .continued "a" "5m" (.ok ⟨some "b", [hit "3", hit "4"]⟩), .released "b" (.ok true)] ∧
      ∀ (more : List Row) (t' : Scan) (later : List ScrollPage × List Exchange),
        t.Reaches service.recorded ([], log) more t' later → later.2 = log := by
  intro hit pages serve service order
  obtain ⟨r, hr, hrows⟩ : ∃ r, order.compile { columns := [] } "documents" {} = .ok r ∧
      ∀ s, Scan.create r { columns := [] } = .ok s → ∃ t log,
        s.rows service.recorded 5 4 (pages, []) =
          some (.ok [[("_id", .str "1")], [("_id", .str "2")], [("_id", .str "3")]],
            t, [], log) ∧
        t.state = .exhausted ∧
        log = [.started s.search (.ok ⟨some "a", [hit "1", hit "2"]⟩),
          .continued "a" "5m" (.ok ⟨some "b", [hit "3", hit "4"]⟩), .released "b" (.ok true)] := by
    refine ⟨_, rfl, fun s hs => ?_⟩
    obtain rfl := Except.ok.inj hs
    exact ⟨_, _, rfl, rfl, rfl⟩
  obtain ⟨s, hs⟩ : ∃ s, Scan.create r { columns := [] } = .ok s := by
    obtain rfl := Except.ok.inj hr
    exact ⟨_, rfl⟩
  obtain ⟨t, log, hall, hended, hlog⟩ := hrows s hs
  obtain ⟨_, hreaches, hfound⟩ := Reaches.rows .start hall
  obtain rfl := hfound _ rfl
  obtain ⟨-, hlife, -⟩ := (scroll_lifecycle service hs pages).1 _ _ _ _ hreaches
  refine ⟨r, s, t, log, hr, hs, hreaches, hlog, fun more t' later hmore => ?_⟩
  obtain ⟨-, -, rfl⟩ := hlife hended more t' later hmore
  rfl

end Scan

end SearchTables
