import SearchTables.Proofs.Scan.Lifecycle
import SearchTables.Proofs.Scan.Selection
import SearchTables.Proofs.Scan.Uses

/-! # Tallies — the counters of a scan, its state and its cursor

A scan keeps three counters, a state and a cursor, and changes them at different places. Between any two
steps they fit together (`Scan.InStep`), whatever the requests come to and whichever calls fail, so a
scan that goes on never lacks its cursor, and what fails is a request, the row filter or the decoder
(`Scan.Blames`). As long as no call fails the counters account for the hits that were taken off the pages
and for the rows that were returned (`Scan.Counts`). -/

namespace SearchTables

variable {τ : Type}

/-! ## Cursors -/

namespace Cursor

variable {service : ScrollService τ} {c : Cursor} {state : τ}

/-- A fetch does not close a cursor. -/
theorem Fetch.closed {outcome : Except Error Nat × Cursor × τ} (h : Fetch service c state outcome) :
    outcome.2.1.closed = c.closed := by
  cases h with
  | idle => rfl
  | @opens answer | @continues _ answer => cases answer <;> rfl

/-- A fetch leaves a cursor opened that was opened before, or had not finished. -/
theorem Fetch.opened {outcome : Except Error Nat × Cursor × τ} (h : Fetch service c state outcome)
    (hready : c.opened = true ∨ c.finished = false) : outcome.2.1.opened = true := by
  cases h with
  | idle hdone =>
      rcases hdone with hfinished | ⟨hopened, -⟩
      · exact hready.resolve_right (by simp [hfinished])
      · exact hopened
  | @opens answer => cases answer <;> rfl
  | @continues _ answer _ _ hopened => cases answer <;> exact hopened

/-- Closing a cursor leaves it closed with an empty page. -/
theorem Close.closed {outcome : Except Error Unit × Cursor × τ} (h : Close service c state outcome) :
    outcome.2.1.closed = true ∧ outcome.2.1.page = [] := by
  cases h with
  | again hclosed => exact ⟨hclosed, rfl⟩
  | bare | released | unreleased => exact ⟨rfl, rfl⟩

/-- Closing a cursor fails only because its release does. -/
theorem Close.blames {outcome : Except Error Unit × Cursor × τ} (h : Close service c state outcome)
    {e : Error} (he : outcome.1 = .error e) : ∃ id now, (service.release id now).1 = .error e := by
  cases h with
  | again | bare | released => cases he
  | @unreleased id _ _ _ _ hrelease =>
      obtain rfl := Except.error.inj he
      exact ⟨id, state, by rw [hrelease]⟩

end Cursor

/-- A cursor that **serves** a scan of a search in a state: it is not closed, and it is opened unless the
scan is about to open it. -/
structure Cursor.Serves (c : Cursor) (q : Search) (phase : ScanState) : Prop where
  closed : c.closed = false
  opened : c.opened = true ∨ phase = .fetching ∧ c = { search := q }

namespace Scan

/-! ## State, counters and cursor -/

/-- The counters of a scan stay within what its request says. -/
structure Counted (t : Scan) : Prop where
  skipped : t.skipped ≤ t.request.offset
  emitted : t.skipped < t.request.offset → t.emitted = 0
  limit : ∀ limit, t.request.limit = some limit → t.emitted ≤ limit

/-- **The counters, the state and the cursor of a scan fit together.** -/
structure InStep (t : Scan) : Prop where
  counted : t.Counted
  fresh : t.state = .init → t.emitted = 0
  going : t.state = .fetching ∨ t.state = .draining →
    t.request.Wants t.emitted ∧ ∃ c, t.cursor = some c ∧ c.Serves t.search t.state
  ended : t.state = .exhausted → ∀ c, t.cursor = some c → c.closed = true ∧ c.page = []

section InStep

variable {service : ScrollService τ} {s t : Scan} {c : Cursor} {state : τ}

/-- A scan that was just made is in step. -/
theorem inStep_of_create {r : ScanRequest} {schema : Schema} (h : Scan.create r schema = .ok s) :
    s.InStep := by
  obtain ⟨decoder, filterDecoder, -, -, rfl⟩ := exists_of_create h
  exact {
    counted := ⟨Nat.zero_le _, fun _ => rfl, fun limit _ => Nat.zero_le limit⟩
    fresh := fun _ => rfl
    going := by simp
    ended := by simp }

/-- The cursor of a scan in step that goes on serves it. -/
theorem InStep.serves (h : s.InStep) (hgoing : s.state = .fetching ∨ s.state = .draining)
    (hcursor : s.cursor = some c) : c.Serves s.search s.state := by
  obtain ⟨-, c', hsome, hserves⟩ := h.going hgoing
  obtain rfl := Option.some.inj (hcursor.symm.trans hsome)
  exact hserves

/-- A scan in step that goes on stays so with a cursor that serves it in another state. -/
theorem InStep.goesOn (h : s.InStep) (hgoing : s.state = .fetching ∨ s.state = .draining)
    {phase : ScanState} (hphase : phase = .fetching ∨ phase = .draining)
    (hserves : c.Serves s.search phase) : InStep { s with cursor := some c, state := phase } where
  counted := ⟨h.counted.skipped, h.counted.emitted, h.counted.limit⟩
  fresh := by
    rintro rfl
    simp at hphase
  going _ := ⟨(h.going hgoing).1, c, rfl, hserves⟩
  ended := by
    rintro rfl
    simp at hphase

/-- **The end of a scan is in step**: its cursor is closed, whether or not the release fails. -/
theorem Counted.of_exhaust (h : s.Counted) (hgoing : s.state ≠ .exhausted)
    {outcome : Except Error Unit × Scan × τ} (hexhaust : Exhaust service s state outcome) :
    outcome.2.1.InStep ∧ outcome.2.1.state = .exhausted := by
  have hover : ∀ cursor : Option Cursor, (∀ c, cursor = some c → c.closed = true ∧ c.page = []) →
      InStep { s with state := .exhausted, cursor := cursor } := by
    intro cursor hclosed
    exact ⟨⟨h.skipped, h.emitted, h.limit⟩, by simp, by simp, fun _ => hclosed⟩
  cases hexhaust with
  | finished hended => exact absurd hended hgoing
  | bare _ hcursor => exact ⟨hover s.cursor (by simp [hcursor]), rfl⟩
  | @closed c _ _ _ _ hclose | @failed c _ _ _ _ _ hclose =>
      have hcase := (c.close_close service state).closed
      rw [hclose] at hcase
      refine ⟨hover _ fun c' hc' => ?_, rfl⟩
      obtain rfl := Option.some.inj hc'
      exact hcase

/-- Ending a scan that is in step leaves it so. -/
theorem InStep.of_exhaust (h : s.InStep) {outcome : Except Error Unit × Scan × τ}
    (hexhaust : Exhaust service s state outcome) :
    outcome.2.1.InStep ∧ outcome.2.1.state = .exhausted := by
  by_cases hstate : s.state = .exhausted
  · cases hexhaust with
    | finished => exact ⟨h, hstate⟩
    | bare hgoing | closed hgoing | failed hgoing => exact absurd hstate hgoing
  · exact h.counted.of_exhaust hstate hexhaust

/-- Ending a scan and going on leaves it in step. -/
theorem Counted.exhaustThen (h : s.Counted) (hgoing : s.state ≠ .exhausted) (turn : Turn) :
    (s.exhaustThen service turn state).2.1.InStep := by
  obtain ⟨_, heq, -⟩ := exhaustThen_eq service turn s state
  rw [heq]
  exact (h.of_exhaust hgoing (exhaust_exhaust service s state)).1

/-- What becomes of a hit leaves a scan in step that takes hits off a page. -/
theorem InStep.of_takes (h : s.InStep) (hstate : s.state = .draining) {hit : Json}
    {outcome : Turn × Scan × τ} (htakes : Takes service s hit state outcome) :
    outcome.2.1.InStep := by
  obtain ⟨hwants, hserves⟩ := h.going (.inr hstate)
  have hunended : s.state ≠ .exhausted := by simp [hstate]
  have hunfresh : s.state ≠ .init := by simp [hstate]
  -- a row is emitted only when no more hits are to be skipped
  have hrow : ¬ s.skipped < s.request.offset → Counted { s with emitted := s.emitted + 1 } := by
    intro hskip
    refine ⟨h.counted.skipped, fun hmore => absurd hmore hskip, fun limit hlimit => ?_⟩
    exact hwants limit hlimit
  cases htakes with
  | unanswered | undecoded => exact h
  | rejected =>
      exact ⟨⟨h.counted.skipped, h.counted.emitted, h.counted.limit⟩, h.fresh,
        fun _ => ⟨hwants, hserves⟩, h.ended⟩
  | skipped _ hskip =>
      have hnone := h.counted.emitted hskip
      exact ⟨⟨hskip, fun _ => hnone, h.counted.limit⟩, h.fresh, fun _ => ⟨hwants, hserves⟩, h.ended⟩
  | row _ hskip _ hlimit =>
      have hbelow : s.request.Wants (s.emitted + 1) := by
        intro limit hsome
        refine Nat.lt_of_not_le fun hreached => hlimit ?_
        simpa [atLimit, hsome] using hreached
      exact ⟨hrow hskip, fun hfresh => absurd hfresh hunfresh, fun _ => ⟨hbelow, hserves⟩, h.ended⟩
  | lastRow _ hskip => exact (hrow hskip).exhaustThen hunended _

/-- **A step leaves a scan in step**, whether or not it fails. -/
theorem InStep.step (h : s.InStep) {outcome : Turn × Scan × τ}
    (hstep : Step service s state outcome) : outcome.2.1.InStep := by
  have hfetched : ∀ {c c' : Cursor} {answer : Except Error Nat} {later : τ} {phase : ScanState},
      s.state = .fetching → s.cursor = some c → c.fetch service state = (answer, c', later) →
        c'.Serves s.search phase := by
    intro c c' answer later phase hstate hcursor hfetch
    have hcase := c.fetch_fetch service state
    rw [hfetch] at hcase
    obtain ⟨hclosed, hopened⟩ := h.serves (.inl hstate) hcursor
    refine ⟨hcase.closed.trans hclosed, .inl (hcase.opened ?_)⟩
    rcases hopened with hopened | ⟨-, rfl⟩
    · exact .inl hopened
    · exact .inr rfl
  cases hstep with
  | finished | lost => exact h
  | nothing hstate => exact h.counted.exhaustThen (by simp [hstate]) .again
  | begins hstate hlimit =>
      have hwants : s.request.Wants s.emitted := by
        -- nothing was emitted, and the limit is not zero
        intro limit hsome
        rw [h.fresh hstate]
        refine Nat.pos_of_ne_zero fun hzero => hlimit ?_
        rw [hsome, hzero]
      exact ⟨⟨h.counted.skipped, h.counted.emitted, h.counted.limit⟩, by simp,
        fun _ => ⟨hwants, _, rfl, rfl, .inr ⟨rfl, rfl⟩⟩, by simp⟩
  | unfetched hstate hcursor hfetch =>
      have hgoes := h.goesOn (.inl hstate) (.inl rfl) (hfetched hstate hcursor hfetch)
      rwa [← hstate] at hgoes
  | @ends c c' _ _ hstate hcursor hfetch =>
      have hcounted : Counted { s with cursor := some c' } :=
        ⟨h.counted.skipped, h.counted.emitted, h.counted.limit⟩
      exact hcounted.exhaustThen (by simp [hstate]) .again
  | fetched hstate hcursor hfetch =>
      exact h.goesOn (.inl hstate) (.inr rfl) (hfetched hstate hcursor hfetch)
  | @drained c hstate hcursor =>
      obtain ⟨hclosed, hopened⟩ := h.serves (.inr hstate) hcursor
      have hopen : c.opened = true := hopened.resolve_right (by simp [hstate])
      have hgoes := h.goesOn (.inr hstate) (.inl rfl) ⟨hclosed, .inl hopen⟩
      rwa [← hcursor] at hgoes
  | @takes c _ rest _ hstate hcursor _ htakes =>
      obtain ⟨hclosed, hopened⟩ := h.serves (.inr hstate) hcursor
      have hopen : c.opened = true := hopened.resolve_right (by simp [hstate])
      have htaken : Cursor.Serves { c with page := rest } s.search .draining := ⟨hclosed, .inl hopen⟩
      have hgoes := h.goesOn (.inr hstate) (.inr rfl) htaken
      rw [← hstate] at hgoes
      exact hgoes.of_takes hstate htakes

/-- **Every call leaves a scan in step**, whichever of its requests fail. -/
theorem keeps_inStep (service : ScrollService τ) : Keeps service fun _ t _ => t.InStep := by
  refine Keeps.of_steps ?_ ?_
  · intro _ t state h turn u later hadvance
    have hstep := h.step (step_advance service t state)
    rwa [hadvance] at hstep
  · intro _ t state h answer u later hexhaust
    have hends := (h.of_exhaust (exhaust_exhaust service t state)).1
    rwa [hexhaust] at hends

end InStep

/-! ## Why a step fails -/

/-- Why a step of a scan fails: never for want of a cursor. -/
inductive Blames (service : ScrollService τ) (t : Scan) (now : τ) (e : Error) : Prop where
  /-- No page could be fetched. -/
  | fetch {c : Cursor} (hstate : t.state = .fetching) (hcursor : t.cursor = some c)
      (hfetch : (c.fetch service now).1 = .error e)
  /-- The scroll could not be released. -/
  | release {id : String} {later : τ} (hrelease : (service.release id later).1 = .error e)
  /-- The row filter has no answer for the hit at hand. -/
  | rowFilter {hit : Json} (hhit : t.atHand = [hit]) (hrejects : t.rejects hit = .error e)
  /-- The hit at hand has no row. -/
  | decode {hit : Json} (hhit : t.atHand = [hit]) (hdecode : t.decoder.decode hit = .error e)

section Hit

variable {service : ScrollService τ} {s t : Scan} {state later : τ} {e : Error}

/-- The end of a scan fails only because a release does. -/
theorem blames_of_exhaustThen {turn : Turn} (hturn : turn ≠ .failed e)
    (h : s.exhaustThen service turn state = (.failed e, t, later)) :
    ∃ id now, (service.release id now).1 = .error e := by
  have hcase := exhaust_exhaust service s state
  rw [exhaustThen] at h
  generalize s.exhaust service state = outcome at h hcase
  cases hcase with
  | finished | bare | closed =>
      obtain ⟨rfl, -⟩ := Prod.mk.inj h
      exact absurd rfl hturn
  | @failed c c' _ _ _ _ hclose =>
      obtain ⟨heq, -⟩ := Prod.mk.inj h
      obtain rfl := Turn.failed.inj heq
      exact (c.close_close service state).blames (by rw [hclose])

/-- **A step of a scan in step fails only for a request, the row filter or the decoder.** -/
theorem InStep.blames (h : s.InStep) (hadvance : s.advance service state = (.failed e, t, later)) :
    s.Blames service state e := by
  have hcase := step_advance service s state
  rw [hadvance] at hcase
  generalize houtcome : (Turn.failed e, t, later) = outcome at hcase
  have hend : ∀ {s' : Scan} {now : τ} {turn : Turn}, turn ≠ .failed e →
      (Turn.failed e, t, later) = s'.exhaustThen service turn now → s.Blames service state e := by
    intro s' now turn hturn heq
    obtain ⟨id, now, hrelease⟩ := blames_of_exhaustThen hturn heq.symm
    exact .release hrelease
  cases hcase with
  | finished | begins | fetched | drained => cases houtcome
  | lost hgoing hcursor =>
      -- a scan that goes on has its cursor
      obtain ⟨-, c, hsome, -⟩ := h.going hgoing
      rw [hcursor] at hsome
      cases hsome
  | nothing | ends => exact hend (by simp) houtcome
  | unfetched hstate hcursor hfetch =>
      cases houtcome
      exact .fetch hstate hcursor (by rw [hfetch])
  | @takes c hit rest _ hstate hcursor hpage htakes =>
      have hhit : s.atHand = [hit] := by rw [atHand_of_draining hstate hcursor, hpage]; rfl
      cases htakes with
      | rejected | skipped | row => cases houtcome
      | lastRow => exact hend (by simp) houtcome
      | unanswered hrejects =>
          cases houtcome
          exact .rowFilter hhit hrejects
      | undecoded _ _ hdecode =>
          cases houtcome
          exact .decode hhit hdecode

end Hit

/-! ## Hits that are taken -/

/-- The counters of a scan count the hits that were taken and the rows that were returned. -/
structure Counts (t : Scan) (taken : List Json) (rows : List Row) : Prop where
  taken : t.skipped + t.rejected + t.emitted = taken.length
  rows : t.emitted = rows.length

section Counts

variable {service : ScrollService τ} {s t : Scan} {state : τ} {taken : List Json} {rows : List Row}

/-- A scan that was just made has counted nothing. -/
theorem counts_of_create {r : ScanRequest} {schema : Schema} (h : Scan.create r schema = .ok s) :
    s.Counts [] [] := by
  obtain ⟨decoder, filterDecoder, -, -, rfl⟩ := exists_of_create h
  exact ⟨rfl, rfl⟩

/-- Scans whose counters are the same count the same. -/
theorem Counts.congr (h : s.Counts taken rows) (hskipped : t.skipped = s.skipped)
    (hrejected : t.rejected = s.rejected) (hemitted : t.emitted = s.emitted) : t.Counts taken rows := by
  refine ⟨?_, hemitted.trans h.rows⟩
  rw [hskipped, hrejected, hemitted]
  exact h.taken

/-- The end of a scan counts nothing. -/
theorem Counts.of_exhaust (h : s.Counts taken rows) {outcome : Except Error Unit × Scan × τ}
    (hexhaust : Exhaust service s state outcome) : outcome.2.1.Counts taken rows := by
  cases hexhaust with
  | finished => exact h
  | bare | closed | failed => exact h.congr rfl rfl rfl

/-- Neither does closing a scan. -/
theorem Counts.exhaust (h : s.Counts taken rows) {answer : Except Error Unit} {later : τ}
    (hexhaust : s.exhaust service state = (answer, t, later)) : t.Counts taken rows := by
  have hends := h.of_exhaust (exhaust_exhaust service s state)
  rwa [hexhaust] at hends

/-- The end before a scan goes on counts nothing, and the turn is the one that it goes on with, unless
that fails. -/
theorem Counts.of_exhaustThen {turn : Turn} (h : s.Counts taken (rows ++ turn.rows))
    (hturn : ∀ e, (s.exhaustThen service turn state).1 ≠ .failed e) :
    (s.exhaustThen service turn state).2.1.Counts taken
      (rows ++ (s.exhaustThen service turn state).1.rows) := by
  obtain ⟨turn', heq, hsame | ⟨e, hfailed⟩⟩ := exhaustThen_eq service turn s state
  · rw [heq, hsame]
    exact h.of_exhaust (exhaust_exhaust service s state)
  · rw [heq] at hturn
    exact absurd hfailed (hturn e)

/-- Each hit that is taken is counted once. -/
theorem Counts.of_takes (h : s.Counts taken rows) {hit : Json} {outcome : Turn × Scan × τ}
    (htakes : Takes service s hit state outcome) (hturn : ∀ e, outcome.1 ≠ .failed e) :
    outcome.2.1.Counts (taken ++ [hit]) (rows ++ outcome.1.rows) := by
  have hlength : (taken ++ [hit]).length = taken.length + 1 := List.length_append
  have hcount := h.taken
  -- a row is counted once, as a hit and as a row
  have hrow : ∀ row : Row,
      Counts { s with emitted := s.emitted + 1 } (taken ++ [hit]) (rows ++ (Turn.row row).rows) := by
    intro row
    have hrows : (rows ++ (Turn.row row).rows).length = rows.length + 1 := List.length_append
    refine ⟨?_, hrows ▸ congrArg (· + 1) h.rows⟩
    show s.skipped + s.rejected + (s.emitted + 1) = (taken ++ [hit]).length
    omega
  cases htakes with
  | @unanswered e | @undecoded e => exact absurd rfl (hturn e)
  | rejected =>
      refine ⟨?_, h.rows.trans (by simp)⟩
      show s.skipped + (s.rejected + 1) + s.emitted = (taken ++ [hit]).length
      omega
  | skipped =>
      refine ⟨?_, h.rows.trans (by simp)⟩
      show s.skipped + 1 + s.rejected + s.emitted = (taken ++ [hit]).length
      omega
  | row => exact hrow _
  | lastRow => exact (hrow _).of_exhaustThen hturn

/-- **A step that does not fail counts the hit that it takes and the row that it brings.** -/
theorem Counts.step (h : s.Counts taken rows) {outcome : Turn × Scan × τ}
    (hstep : Step service s state outcome) (hturn : ∀ e, outcome.1 ≠ .failed e) :
    outcome.2.1.Counts (taken ++ s.atHand) (rows ++ outcome.1.rows) := by
  have hrows : s.Counts taken (rows ++ Turn.again.rows) := by rwa [Turn.rows_again, List.append_nil]
  -- a hit is at hand only while a page is drained
  cases hstep with
  | @lost | @unfetched _ _ _ e => exact absurd rfl (hturn _)
  | finished hstate =>
      rw [append_atHand_of_ne (by simp [hstate])]
      exact hrows
  | nothing hstate =>
      rw [append_atHand_of_ne (by simp [hstate])]
      exact hrows.of_exhaustThen hturn
  | begins hstate | fetched hstate =>
      rw [append_atHand_of_ne (by simp [hstate])]
      exact hrows.congr rfl rfl rfl
  | ends hstate =>
      rw [append_atHand_of_ne (by simp [hstate])]
      refine Counts.of_exhaustThen ?_ hturn
      exact hrows.congr rfl rfl rfl
  | drained hstate hcursor hpage =>
      rw [atHand_of_draining hstate hcursor, hpage, List.take_nil, List.append_nil]
      exact hrows.congr rfl rfl rfl
  | @takes c hit rest _ hstate hcursor hpage htakes =>
      have hhit : s.atHand = [hit] := by rw [atHand_of_draining hstate hcursor, hpage]; rfl
      rw [hhit]
      refine Counts.of_takes ?_ htakes hturn
      exact h.congr rfl rfl rfl

/-- **Calls none of which fails count what they take and return.** -/
theorem carries_counts (service : ScrollService τ) :
    Carries service fun taken rows t _ => t.Counts taken rows where
  advance {_ _ s state} h turn t later hadvance hturn := by
    have hstep := step_advance service s state
    rw [hadvance] at hstep
    exact h.step hstep hturn

end Counts

end Scan

/-! ## Hits that are served -/

/-- The hits that came with an exchange. -/
def Exchange.hits : Exchange → List Json
  | .started _ (.ok p) | .continued _ _ (.ok p) => p.hits
  | _ => []

/-- The hits that came with exchanges, page after page. -/
def served (log : List Exchange) : List Json := log.flatMap Exchange.hits

/-- The hits of the last exchange come after those of the others. -/
@[simp] theorem served_concat (log : List Exchange) (exchange : Exchange) :
    served (log ++ [exchange]) = served log ++ exchange.hits := by
  rw [served, List.flatMap_append, List.flatMap_singleton]
  rfl

namespace Cursor

variable {service : ScrollService τ} {c c' : Cursor} {now later : τ} {log log' : List Exchange}

/-- A fetch puts the hits that come with it on the page. -/
theorem served_of_fetch {answer : Except Error Nat} {taken : List Json}
    (hserved : served log = taken ++ c.page)
    (hfetch : c.fetch service.recorded (now, log) = (answer, c', later, log')) :
    served log' = taken ++ c'.page := by
  have hcase := fetch_fetch service.recorded c (now, log)
  rw [hfetch] at hcase
  cases hcase with
  | idle => exact hserved
  | @opens page _ _ _ hstart =>
      obtain rfl := ScrollService.log_of_start hstart
      rw [served_concat, hserved, List.append_assoc]
      cases page with
      | error e => exact congrArg (taken ++ ·) (List.append_nil c.page)
      | ok p => rfl
  | @continues _ page _ _ _ _ hnext =>
      obtain rfl := ScrollService.log_of_next hnext
      rw [served_concat, hserved, List.append_assoc]
      cases page with
      | error e => exact congrArg (taken ++ ·) (List.append_nil c.page)
      | ok p => rfl

/-- Closing a cursor brings no hits. -/
theorem served_of_close {answer : Except Error Unit} {final : τ × List Exchange}
    (hclose : c.close service.recorded (now, log) = (answer, c', final)) :
    served final.2 = served log := by
  rcases log_of_close hclose with hlog | ⟨id, released, hlog⟩
  · rw [hlog]
  · rw [hlog]
    exact (served_concat _ _).trans (List.append_nil _)

end Cursor

namespace Scan

/-- Where the hits are that were served: a scan that goes on has taken them or has them on its page, and
one that has ended has taken the first of them. -/
inductive Sorts (t : Scan) (taken : List Json) (log : List Exchange) : Prop where
  /-- Nothing was served. -/
  | fresh (hstate : t.state = .init) (htaken : taken = []) (hlog : log = [])
  | goesOn {c : Cursor} (hstate : t.state = .fetching ∨ t.state = .draining)
      (hcursor : t.cursor = some c) (hserved : served log = taken ++ c.page)
  | ended (hstate : t.state = .exhausted) (hserved : taken <+: served log)

section Sorts

variable {service : ScrollService τ} {s t : Scan} {c : Cursor} {now : τ} {log : List Exchange}
  {taken : List Json}

/-- The first of the hits that were served are those that were taken. -/
theorem Sorts.isPrefix (h : s.Sorts taken log) : taken <+: served log := by
  cases h with
  | fresh _ htaken => exact htaken ▸ List.nil_prefix
  | goesOn _ _ hserved => exact hserved ▸ List.prefix_append taken _
  | ended _ hserved => exact hserved

/-- A scan that goes on has the other ones on its page. -/
theorem Sorts.served_eq (h : s.Sorts taken log) (hstate : s.state = .fetching ∨ s.state = .draining)
    (hcursor : s.cursor = some c) : served log = taken ++ c.page := by
  cases h with
  | fresh hfresh => simp [hfresh] at hstate
  | ended hended => simp [hended] at hstate
  | goesOn _ hsome hserved =>
      obtain rfl := Option.some.inj (hcursor.symm.trans hsome)
      exact hserved

/-- The end of a scan leaves the hits that were taken the first of those that were served. -/
theorem sorts_of_exhaust (h : taken <+: served log)
    {outcome : Except Error Unit × Scan × τ × List Exchange}
    (hexhaust : Exhaust service.recorded s (now, log) outcome) :
    outcome.2.1.Sorts taken outcome.2.2.2 := by
  cases hexhaust with
  | finished hstate => exact .ended hstate h
  | bare => exact .ended rfl h
  | closed _ _ hclose | failed _ _ hclose =>
      refine .ended rfl ?_
      rw [← Cursor.served_of_close hclose] at h
      exact h

/-- So does closing a scan. -/
theorem Sorts.exhaust (h : s.Sorts taken log) {answer : Except Error Unit} {later : τ × List Exchange}
    (hexhaust : s.exhaust service.recorded (now, log) = (answer, t, later)) :
    t.Sorts taken later.2 := by
  have hends := sorts_of_exhaust h.isPrefix (exhaust_exhaust service.recorded s (now, log))
  rwa [hexhaust] at hends

/-- So does the end before it goes on. -/
theorem sorts_of_exhaustThen (h : taken <+: served log) (turn : Turn) :
    (s.exhaustThen service.recorded turn (now, log)).2.1.Sorts taken
      (s.exhaustThen service.recorded turn (now, log)).2.2.2 := by
  obtain ⟨_, heq, -⟩ := exhaustThen_eq service.recorded turn s (now, log)
  rw [heq]
  exact sorts_of_exhaust h (exhaust_exhaust service.recorded s (now, log))

/-- **A step takes the first hit of the page.** -/
theorem Sorts.step (h : s.Sorts taken log) {outcome : Turn × Scan × τ × List Exchange}
    (hstep : Step service.recorded s (now, log) outcome) :
    outcome.2.1.Sorts (taken ++ s.atHand) outcome.2.2.2 := by
  -- a hit is at hand only while a page is drained
  cases hstep with
  | finished hstate =>
      rw [append_atHand_of_ne (by simp [hstate])]
      exact h
  | nothing hstate =>
      rw [append_atHand_of_ne (by simp [hstate])]
      exact sorts_of_exhaustThen h.isPrefix .again
  | begins hstate =>
      rw [append_atHand_of_ne (by simp [hstate])]
      cases h with
      | fresh _ htaken hlog =>
          subst htaken hlog
          exact .goesOn (.inl rfl) rfl rfl
      | goesOn hgoing => simp [hstate] at hgoing
      | ended hended => simp [hstate] at hended
  | lost hstate hcursor =>
      cases h with
      | fresh hfresh => simp [hfresh] at hstate
      | ended hended => simp [hended] at hstate
      | goesOn _ hsome =>
          rw [hcursor] at hsome
          cases hsome
  | unfetched hstate hcursor hfetch =>
      rw [append_atHand_of_ne (by simp [hstate])]
      exact .goesOn (.inl hstate) rfl (Cursor.served_of_fetch (h.served_eq (.inl hstate) hcursor) hfetch)
  | ends hstate hcursor hfetch =>
      rw [append_atHand_of_ne (by simp [hstate])]
      have hserved := Cursor.served_of_fetch (h.served_eq (.inl hstate) hcursor) hfetch
      exact sorts_of_exhaustThen (hserved ▸ List.prefix_append taken _) .again
  | fetched hstate hcursor hfetch =>
      rw [append_atHand_of_ne (by simp [hstate])]
      exact .goesOn (.inr rfl) rfl (Cursor.served_of_fetch (h.served_eq (.inl hstate) hcursor) hfetch)
  | drained hstate hcursor hpage =>
      rw [atHand_of_draining hstate hcursor, hpage, List.take_nil, List.append_nil]
      exact .goesOn (.inl rfl) hcursor (h.served_eq (.inr hstate) hcursor)
  | @takes c hit rest _ hstate hcursor hpage htakes =>
      have hhit : s.atHand = [hit] := by rw [atHand_of_draining hstate hcursor, hpage]; rfl
      have hserved : served log = taken ++ [hit] ++ rest := by
        rw [h.served_eq (.inr hstate) hcursor, hpage, List.append_cons]
      rw [hhit]
      cases htakes with
      | unanswered | rejected | skipped | undecoded | row => exact .goesOn (.inr hstate) rfl hserved
      | lastRow => exact sorts_of_exhaustThen (hserved ▸ List.prefix_append _ rest) _

/-- **Calls none of which fails take the hits in the order in which they are served.** -/
theorem carries_sorts (service : ScrollService τ) :
    Carries service.recorded fun taken _ t now => t.Sorts taken now.2 where
  advance {_ _ s state} h turn t later hadvance _ := by
    have hstep := step_advance service.recorded s state
    rw [hadvance] at hstep
    exact h.step hstep

end Sorts

/-- **The counters of a scan.** For every request, every service and all calls of a scan in any order,
whatever each request comes to: a scan that goes on has a cursor that is not closed, so no step fails for
want of one. No more hits are skipped than the offset says, and nothing is returned before that. No more
rows are returned than the limit says, and with that many the scan has ended, unless the limit is zero. A
scan that has ended stays so, and its cursor is closed with an empty page. As long as no call fails, each
hit that was taken was skipped, rejected or returned, and each row that was returned was counted; the hits
that were taken are the first of those that were served, and while the scan goes on the others are on its
page. -/
theorem counters_account (service : ScrollService τ) {r : ScanRequest} {schema : Schema} {s : Scan}
    (hcreate : Scan.create r schema = .ok s) (state : τ) :
    (∀ (rows : List Row) (t : Scan) (now : τ), s.Reaches service state rows t now →
      (t.state = .fetching ∨ t.state = .draining →
        ∃ c, t.cursor = some c ∧ c.Serves s.search t.state) ∧
      (∀ (e : Error) (t' : Scan) (later : τ),
        t.advance service now = (.failed e, t', later) → t.Blames service now e) ∧
      t.skipped ≤ r.offset ∧ (t.skipped < r.offset → t.emitted = 0) ∧
      (∀ limit, r.limit = some limit → t.emitted ≤ limit ∧
        (0 < limit → t.emitted = limit → t.state = .exhausted)) ∧
      (t.state = .exhausted → (∀ c, t.cursor = some c → c.closed = true ∧ c.page = []) ∧
        ∀ (more : List Row) (t' : Scan) (later : τ),
          t.Reaches service now more t' later → t'.state = .exhausted)) ∧
    (∀ (taken : List Json) (rows : List Row) (t : Scan) (now : τ),
      s.Uses service state taken rows t now →
        t.skipped + t.rejected + t.emitted = taken.length ∧ t.emitted = rows.length) ∧
    (∀ (taken : List Json) (rows : List Row) (t : Scan) (now : τ) (log : List Exchange),
      s.Uses service.recorded (state, []) taken rows t (now, log) → taken <+: served log ∧
        (t.state = .fetching ∨ t.state = .draining →
          ∀ c, t.cursor = some c → served log = taken ++ c.page)) := by
  obtain ⟨rfl, hinit, hcursor⟩ := fresh_of_create hcreate
  refine ⟨fun rows t now hreaches => ?_, fun taken rows t now huses => ?_,
    fun taken rows t now log huses => ?_⟩
  · have halike := (keeps_alike service s).of_reaches (.refl s) hreaches
    have hstep := (keeps_inStep service).of_reaches (inStep_of_create hcreate) hreaches
    have hcounted := hstep.counted
    rw [← halike.request, ← halike.search]
    refine ⟨fun hgoing => (hstep.going hgoing).2, fun e t' later => hstep.blames, hcounted.skipped,
      hcounted.emitted, fun limit hlimit => ⟨hcounted.limit limit hlimit, fun hpositive hall => ?_⟩,
      fun hended => ⟨hstep.ended hended, fun more t' later hmore => ?_⟩⟩
    · -- a scan that goes on wants one more row, and one that was not started has returned none
      cases hstate : t.state with
      | exhausted => rfl
      | init =>
          have hnone := hstep.fresh hstate
          omega
      | fetching | draining =>
          have hwants := (hstep.going (by simp [hstate])).1 limit hlimit
          omega
    · obtain ⟨hstate, -⟩ := (keeps_exhausted service [] t now).of_reaches ⟨hended, rfl, rfl, rfl⟩ hmore
      exact hstate
  · obtain ⟨htaken, hrows⟩ :=
      (carries_counts service).of_uses (fun h _ _ => h.exhaust) (counts_of_create hcreate) huses
    exact ⟨htaken, hrows⟩
  · have hsorts :=
      (carries_sorts service).of_uses (fun h _ _ => h.exhaust) (.fresh hinit rfl rfl) huses
    exact ⟨hsorts.isPrefix, fun hgoing c hsome => hsorts.served_eq hgoing hsome⟩

/-- Three hits of two pages: the first one is skipped, the row filter rejects the second one, and the third
one is returned. That is the limit, so the fourth one is not taken. -/
theorem counters_account_across_pages :
    let hit (id : String) : Json := .obj [("_id", .str id)]
    let pages : List ScrollPage := [⟨some "a", [hit "1", hit "2"]⟩, ⟨some "b", [hit "3", hit "4"]⟩]
    let serve : Task (List ScrollPage) ScrollPage := fun
      | [] => (.ok ⟨none, []⟩, [])
      | page :: pages => (.ok page, pages)
    let service : ScrollService (List ScrollPage) :=
      ⟨fun _ => serve, fun _ _ => serve, fun _ pages => (.ok true, pages), fun _ pages => pages⟩
    let filter : RowFilter :=
      ⟨"_id != \"2\"", .relation .ne (.ident "_id") (.literal (.text false ['2']))⟩
    let order : ScanOrder :=
      { columns := ["_id"], limit := .int 1, offset := .int 1, rowFilter := some filter }
    ∃ r s t log, order.compile { columns := [] } "documents" {} = .ok r ∧
      Scan.create r { columns := [] } = .ok s ∧
      s.Uses service.recorded (pages, []) [hit "1", hit "2", hit "3"] [[("_id", .str "3")]] t ([], log) ∧
      t.skipped = 1 ∧ t.rejected = 1 ∧ t.emitted = 1 ∧ t.state = .exhausted ∧
      served log = [hit "1", hit "2", hit "3", hit "4"] ∧
      t.skipped + t.rejected + t.emitted = [hit "1", hit "2", hit "3"].length := by
  intro hit pages serve service filter order
  obtain ⟨r, hr, hrun⟩ : ∃ r, order.compile { columns := [] } "documents" {} = .ok r ∧
      ∀ s, Scan.create r { columns := [] } = .ok s → ∃ t log,
        s.next service.recorded 8 (pages, []) = some (.row [("_id", .str "3")], t, [], log) ∧
        s.takenBy service.recorded 8 (pages, []) = [hit "1", hit "2", hit "3"] ∧
        t.skipped = 1 ∧ t.rejected = 1 ∧ t.emitted = 1 ∧ t.state = .exhausted ∧
        served log = [hit "1", hit "2", hit "3", hit "4"] := by
    refine ⟨_, rfl, fun s hs => ?_⟩
    obtain rfl := Except.ok.inj hs
    exact ⟨_, _, rfl, rfl, rfl, rfl, rfl, rfl, rfl⟩
  obtain ⟨s, hs⟩ : ∃ s, Scan.create r { columns := [] } = .ok s := by
    obtain rfl := Except.ok.inj hr
    exact ⟨_, rfl⟩
  obtain ⟨t, log, hnext, htaken, hskipped, hrejected, hemitted, hended, hserved⟩ := hrun s hs
  have huses := Uses.next .start hnext (fun e h => by cases h)
  rw [htaken] at huses
  obtain ⟨-, hcounts, -⟩ := counters_account service.recorded hs (pages, [])
  exact ⟨r, s, t, log, hr, hs, huses, hskipped, hrejected, hemitted, hended, hserved,
    (hcounts _ _ _ _ huses).1⟩

end Scan

end SearchTables
