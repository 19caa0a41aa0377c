import SearchTables.Proofs.Client.Attempts
import SearchTables.Proofs.Json.Place
import SearchTables.Proofs.Scan.Decoding

/-! # Faults — how the calls of a scan can fail

When the requests of a service fail only because of the cluster, a scan without a row filter fails for
that reason or because of a hit: one that is no object has no row, and neither has one that exceeds a
column. Every call comes to a row, to the end or to such a failure (`Scan.returns_of_draws`). -/

namespace SearchTables

variable {τ α β : Type}

/-! ## Requests that end in known ways -/

/-- A request that was given up: the last attempt brought no success. -/
def Error.GivenUp (e : Error) : Prop :=
  ∃ failure, e = .requestFailed failure ∧
    ∀ code reason body, failure.last = .status code reason body → isSuccess code = false

/-- A failure of the cluster: a request that was given up, or a body that is not what it should be. -/
def Error.OfCluster (e : Error) : Prop := e.GivenUp ∨ e.family = .decode

/-- The failure on a hit of a kind that is no object. -/
inductive Bare (kind : Json → Prop) : Error → Prop where
  | noMembers {hit : Json} (hkind : kind hit) (hbare : ¬ hit.IsObject) : Bare kind .noMembers

/-- A service **answers** a search with hits of a kind: its requests for pages fail only because of
the cluster, and its releases do not fail. -/
structure ScrollService.Answers (service : ScrollService τ) (ready : τ → Prop) (kind : Json → Prop)
    (q : Search) : Prop where
  start : (service.start q).Ends ready (fun p => ∀ hit ∈ p.hits, kind hit) Error.OfCluster
  next : ∀ id, (service.next id q.scroll).Ends ready (fun p => ∀ hit ∈ p.hits, kind hit) Error.OfCluster
  release : ∀ id, (service.release id).Ends ready (fun _ => True) fun _ => False
  log : ∀ record now, ready now → ready (service.log record now)

variable {service : ScrollService τ} {ready : τ → Prop} {kind : Json → Prop} {q : Search}

/-! ## Cursors -/

namespace Cursor

/-- A cursor of a search that holds hits of a kind. -/
structure Holds (c : Cursor) (q : Search) (kind : Json → Prop) : Prop where
  search : c.search = q
  hits : ∀ hit ∈ c.page, kind hit

variable {c c' : Cursor} {now later : τ}

/-- A page of hits of a kind leaves a cursor with such hits. -/
theorem Holds.received (h : c.Holds q kind) {answer : Except Error ScrollPage}
    (hanswer : Task.Ended ready (fun p => ∀ hit ∈ p.hits, kind hit) Error.OfCluster (answer, later)) :
    (c.received answer).2.Holds q kind ∧
      ∀ e, (c.received answer).1 = .error e → e.OfCluster := by
  cases hanswer with
  | ok _ hhits =>
      refine ⟨⟨h.search, fun hit hmem => ?_⟩, fun e he => by cases he⟩
      exact (List.mem_append.1 hmem).elim (h.hits hit) (hhits hit)
  | error _ hbad =>
      refine ⟨h, fun e he => ?_⟩
      obtain rfl := Except.error.inj he
      exact hbad

/-- A fetch leaves a cursor with hits of the kind that its service serves. -/
theorem Holds.fetch (h : c.Holds q kind) (hservice : service.Answers ready kind q) (hnow : ready now)
    {answer : Except Error Nat} (hfetch : c.fetch service now = (answer, c', later)) :
    c'.Holds q kind ∧ ready later ∧ ∀ e, answer = .error e → e.OfCluster := by
  have hcase := fetch_fetch service c now
  rw [hfetch] at hcase
  cases hcase with
  | idle => exact ⟨⟨h.search, h.hits⟩, hnow, fun e he => by cases he⟩
  | opens _ _ hstart =>
      have hanswer := hservice.start now hnow
      rw [← h.search, hstart] at hanswer
      have hopened : Cursor.Holds { c with opened := true } q kind := ⟨h.search, h.hits⟩
      obtain ⟨hholds, hfails⟩ := hopened.received hanswer
      exact ⟨hholds, hanswer.state, hfails⟩
  | @continues id _ _ _ _ _ hnext =>
      have hanswer := hservice.next id now hnow
      rw [← h.search, hnext] at hanswer
      obtain ⟨hholds, hfails⟩ := h.received hanswer
      exact ⟨hholds, hanswer.state, hfails⟩

/-- A cursor that is not exhausted after a fetch has hits. -/
theorem page_ne_nil_of_fetch {count : Nat} (hfetch : c.fetch service now = (.ok count, c', later))
    (hexhausted : ¬ c'.exhausted = true) : c'.page ≠ [] := by
  have hcase := fetch_fetch service c now
  rw [hfetch] at hcase
  intro hnil
  -- a fetch that brings no hits finishes the cursor
  refine hexhausted ?_
  have hfinished : c'.finished = true := by
    generalize hanswer : (Except.ok count : Except Error Nat) = answer at hcase
    cases hcase with
    | idle => rfl
    | @opens result | @continues _ result =>
        cases result with
        | error e => cases hanswer
        | ok p =>
            obtain ⟨-, hhits⟩ := List.append_eq_nil_iff.1 hnil
            simp [received, receive, hhits]
  simp [exhausted, hnil, hfinished]

/-- Closing a cursor does not fail. -/
theorem close_of_answers (hservice : service.Answers ready kind q) (hnow : ready now) (c : Cursor) :
    ∃ c' later, c.close service now = (.ok (), c', later) ∧ ready later := by
  have hcase := close_close service c now
  generalize c.close service now = outcome at hcase
  cases hcase with
  | again | bare => exact ⟨_, _, rfl, hnow⟩
  | @released id _ later _ _ hrelease =>
      have hends := hservice.release id now hnow
      rw [hrelease] at hends
      exact ⟨_, _, rfl, hends.state⟩
  | @unreleased id _ _ _ _ hrelease =>
      have hends := hservice.release id now hnow
      rw [hrelease] at hends
      exact (hends.bad_of_error rfl).elim

end Cursor

/-! ## Text columns -/

/-- A type whose cells are texts, or lists of them. -/
def ColumnType.IsText : ColumnType → Prop
  | .primitive name => name = "VARCHAR"
  | .list element => element.IsText
  | .struct _ => False

/-- No value exceeds a text, unless it is taken for a point. -/
theorem Cell.not_exceeds_of_isText {indexTypeAt : String → String} {type : ColumnType} {path : String}
    {v : Value} (htype : type.IsText) (hpath : indexTypeAt path ≠ "geo_point") :
    ¬ Cell.Exceeds indexTypeAt type path v := by
  intro h
  induction h with
  | point _ hpoint => exact hpath hpoint
  | primitive _ h =>
      obtain rfl : _ = "VARCHAR" := htype
      rcases h with ⟨hname, -⟩ | ⟨hname, -⟩
      · exact absurd hname (by decide)
      · exact absurd hname (by decide)
  | item _ _ ih => exact ih htype hpath
  | member => exact htype

/-- Whether a decoder shows texts only: none of its columns has another type or holds points. -/
def RowDecoder.ShowsText (d : RowDecoder) : Prop :=
  ∀ name column, (name, CellSource.column column) ∈ d.columns →
    column.type.IsText ∧ Cell.indexTypeIn d.pathTypes column.path ≠ "geo_point"

/-- No hit exceeds columns of text. -/
theorem RowDecoder.not_exceeds_of_showsText {d : RowDecoder} (h : d.ShowsText)
    (members : List (String × Json)) : ¬ d.Exceeds members := by
  rintro ⟨name, column, hmem, hexceeds⟩
  obtain ⟨htype, hpath⟩ := h name column hmem
  exact Cell.not_exceeds_of_isText htype hpath hexceeds

/-! ## Scans -/

namespace Scan

/-- What a call of a scan without a row filter can fail with, on hits of a kind. -/
inductive Fault (kind : Json → Prop) (d : RowDecoder) : Error → Prop where
  /-- The cluster failed. -/
  | cluster {e : Error} (h : e.OfCluster) : Fault kind d e
  /-- A hit is no object. -/
  | bare {e : Error} (h : Bare kind e) : Fault kind d e
  /-- A hit exceeds a column. -/
  | exceeds {members : List (String × Json)} (hkind : kind (.obj members)) (h : d.Exceeds members) :
      Fault kind d .outOfRange

/-- A hit that is not decoded is at fault. -/
theorem fault_of_decode {d : RowDecoder} {hit : Json} {e : Error} (hkind : kind hit)
    (h : d.decode hit = .error e) : Fault kind d e := by
  by_cases hobject : hit.IsObject
  · obtain ⟨members, rfl⟩ := hobject
    rcases d.outOfRange_decode members with ⟨hexceeds, herror⟩ | ⟨-, row, hrow⟩
    · obtain rfl := Except.error.inj (h.symm.trans herror)
      exact .exceeds hkind hexceeds
    · rw [h] at hrow
      cases hrow
  · by_cases hcolumns : d.columns = []
    · have hrow : d.decode hit = .ok [] := by simp only [RowDecoder.decode, hcolumns]
      rw [hrow] at h
      cases h
    · rw [RowDecoder.decode_of_not_obj hcolumns fun members heq => hobject ⟨members, heq⟩] at h
      obtain rfl := Except.error.inj h
      exact .bare (.noMembers hkind hobject)

/-- A scan without a row filter that **draws** on hits of a kind: while it goes on it has a cursor of its
search that holds such hits. -/
structure Draws (q : Search) (kind : Json → Prop) (d : RowDecoder) (t : Scan) : Prop where
  search : t.search = q
  filter : t.request.rowFilter = none
  decoder : t.decoder = d
  cursor : t.state = .fetching ∨ t.state = .draining → ∃ c, t.cursor = some c ∧ c.Holds q kind

/-- The cursor of a scan that goes on holds hits of the kind. -/
theorem Draws.holds {d : RowDecoder} {t : Scan} (h : t.Draws q kind d)
    (hstate : t.state = .fetching ∨ t.state = .draining) {c : Cursor} (hcursor : t.cursor = some c) :
    c.Holds q kind := by
  obtain ⟨c', hsome, hholds⟩ := h.cursor hstate
  obtain rfl := Option.some.inj (hcursor.symm.trans hsome)
  exact hholds

/-- How much is left to do before a call comes to something: the hits to leave out, and where the scan
stands. -/
def left (t : Scan) : Nat :=
  4 * (t.request.offset - t.skipped) +
    match t.state with
    | .init => 4
    | .fetching => 3
    | .draining => if t.cursor.any (!·.page.isEmpty) then 1 else 4
    | .exhausted => 0

variable {d : RowDecoder} {t : Scan} {now : τ}

/-- The end of a scan does not fail. -/
theorem Draws.exhaust (h : t.Draws q kind d) (hservice : service.Answers ready kind q)
    (hnow : ready now) :
    ∃ t' later, t.exhaust service now = (.ok (), t', later) ∧ t'.Draws q kind d ∧ ready later ∧
      t'.state = .exhausted ∧ t'.left ≤ 4 * (t.request.offset - t.skipped) := by
  have hcase := exhaust_exhaust service t now
  generalize t.exhaust service now = outcome at hcase
  cases hcase with
  | finished hstate => exact ⟨_, _, rfl, h, hnow, hstate, by simp [left, hstate]⟩
  | bare =>
      exact ⟨_, _, rfl, ⟨h.search, h.filter, h.decoder, by simp⟩, hservice.log _ _ hnow, rfl, by simp [left]⟩
  | @closed c _ _ _ _ hclose =>
      obtain ⟨c', later, heq, hready⟩ := c.close_of_answers hservice hnow
      rw [hclose] at heq
      obtain ⟨-, rfl, rfl⟩ := heq
      exact ⟨_, _, rfl, ⟨h.search, h.filter, h.decoder, by simp⟩, hservice.log _ _ hready, rfl,
        by simp [left]⟩
  | @failed c _ _ _ _ _ hclose =>
      obtain ⟨c', later, heq, -⟩ := c.close_of_answers hservice hnow
      rw [hclose] at heq
      cases heq

/-- Ending a scan and going on comes to what it went on with. -/
theorem Draws.exhaustThen (h : t.Draws q kind d) (hservice : service.Answers ready kind q)
    (hnow : ready now) (turn : Turn) :
    ∃ t' later, t.exhaustThen service turn now = (turn, t', later) ∧ t'.Draws q kind d ∧ ready later ∧
      t'.left ≤ 4 * (t.request.offset - t.skipped) := by
  obtain ⟨t', later, hend, hdraws, hready, -, hleft⟩ := h.exhaust hservice hnow
  exact ⟨t', later, by rw [Scan.exhaustThen, hend], hdraws, hready, hleft⟩

/-- What a step of a scan that draws on hits of a kind can be. -/
inductive Stepped (ready : τ → Prop) (q : Search) (kind : Json → Prop) (d : RowDecoder) (t : Scan) :
    Turn × Scan × τ → Prop where
  /-- Less is left to do. -/
  | again {t' : Scan} {later : τ} (hdraws : t'.Draws q kind d) (hready : ready later)
      (hleft : t'.left < t.left) : Stepped ready q kind d t (.again, t', later)
  | row {row : Row} {t' : Scan} {later : τ} (hdraws : t'.Draws q kind d) (hready : ready later) :
      Stepped ready q kind d t (.row row, t', later)
  | finished {t' : Scan} {later : τ} (hdraws : t'.Draws q kind d) (hready : ready later) :
      Stepped ready q kind d t (.finished, t', later)
  | failed {e : Error} {t' : Scan} {later : τ} (hdraws : t'.Draws q kind d) (hready : ready later)
      (hfault : Fault kind d e) : Stepped ready q kind d t (.failed e, t', later)

/-- What becomes of a hit of the kind. -/
theorem Draws.takes (h : t.Draws q kind d) (hservice : service.Answers ready kind q) (hnow : ready now)
    {hit : Json} (hkind : kind hit) {before : Scan} (hstate : t.state = .draining)
    (hbefore : before.left = 4 * (t.request.offset - t.skipped) + 1) {outcome : Turn × Scan × τ}
    (htakes : Takes service t hit now outcome) : Stepped ready q kind d before outcome := by
  have hrejects : t.rejects hit = .ok false := by
    rw [rejects, h.filter]
  cases htakes with
  | unanswered hanswer | rejected hanswer =>
      rw [hrejects] at hanswer
      cases hanswer
  | skipped _ hskip =>
      refine .again ⟨h.search, h.filter, h.decoder, h.cursor⟩ hnow ?_
      -- one hit less is left out, whatever is left on the page
      rw [hbefore, left, hstate]
      dsimp only
      split <;> omega
  | undecoded _ _ hdecode =>
      rw [h.decoder] at hdecode
      exact .failed h hnow (fault_of_decode hkind hdecode)
  | row => exact .row ⟨h.search, h.filter, h.decoder, h.cursor⟩ hnow
  | @lastRow row =>
      have hdraws : Draws q kind d { t with emitted := t.emitted + 1 } :=
        ⟨h.search, h.filter, h.decoder, h.cursor⟩
      obtain ⟨t', later, hend, hafter, hready, -⟩ := hdraws.exhaustThen hservice hnow (.row row)
      rw [hend]
      exact .row hafter hready

/-- **A step keeps to hits of the kind**, and a step with more to do leaves less of it. -/
theorem Draws.step (h : t.Draws q kind d) (hservice : service.Answers ready kind q) (hnow : ready now)
    {outcome : Turn × Scan × τ} (hstep : Step service t now outcome) :
    Stepped ready q kind d t outcome := by
  -- to end releases the scroll, and that leaves less to do
  have hends : ∀ {t' : Scan} {mid : τ}, t'.Draws q kind d → ready mid →
      4 * (t'.request.offset - t'.skipped) < t.left →
        Stepped ready q kind d t (t'.exhaustThen service .again mid) := by
    intro t' mid hdraws hmid hless
    obtain ⟨t'', later, hend, hafter, hready, hleft⟩ := hdraws.exhaustThen hservice hmid .again
    rw [hend]
    exact .again hafter hready (Nat.lt_of_le_of_lt hleft hless)
  cases hstep with
  | finished => exact .finished h hnow
  | nothing hstate => exact hends h hnow (by simp [left, hstate])
  | begins hstate =>
      have hbegun : Cursor.Holds { search := t.search } q kind := ⟨h.search, by simp⟩
      refine .again ⟨h.search, h.filter, h.decoder, fun _ => ⟨_, rfl, hbegun⟩⟩
        (hservice.log _ _ hnow) ?_
      simp [left, hstate]
  | lost hstate hnone =>
      obtain ⟨c, hcursor, -⟩ := h.cursor hstate
      rw [hnone] at hcursor
      cases hcursor
  | unfetched hstate hcursor hfetch =>
      obtain ⟨hafter, hready, hfails⟩ := (h.holds (.inl hstate) hcursor).fetch hservice hnow hfetch
      exact .failed ⟨h.search, h.filter, h.decoder, fun _ => ⟨_, rfl, hafter⟩⟩ hready
        (.cluster (hfails _ rfl))
  | ends hstate hcursor hfetch =>
      obtain ⟨hafter, hready, -⟩ := (h.holds (.inl hstate) hcursor).fetch hservice hnow hfetch
      refine hends ⟨h.search, h.filter, h.decoder, fun _ => ⟨_, rfl, hafter⟩⟩ hready ?_
      simp [left, hstate]
  | @fetched _ c' _ _ hstate hcursor hfetch hexhausted =>
      obtain ⟨hafter, hready, -⟩ := (h.holds (.inl hstate) hcursor).fetch hservice hnow hfetch
      have hpage : c'.page ≠ [] := Cursor.page_ne_nil_of_fetch hfetch hexhausted
      refine .again ⟨h.search, h.filter, h.decoder, fun _ => ⟨_, rfl, hafter⟩⟩ hready ?_
      simp [left, hstate, hpage]
  | drained hstate hcursor hpage =>
      refine .again ⟨h.search, h.filter, h.decoder, fun _ => h.cursor (.inr hstate)⟩ hnow ?_
      simp [left, hstate, hcursor, hpage]
  | @takes c hit rest _ hstate hcursor hpage htakes =>
      have hholds := h.holds (.inr hstate) hcursor
      have hhits := hholds.hits
      rw [hpage] at hhits
      have hrest : Cursor.Holds { c with page := rest } q kind :=
        ⟨hholds.search, fun hit hmem => hhits hit (List.mem_cons_of_mem _ hmem)⟩
      have htaken : Draws q kind d { t with cursor := some { c with page := rest } } :=
        ⟨h.search, h.filter, h.decoder, fun _ => ⟨_, rfl, hrest⟩⟩
      refine htaken.takes hservice hnow (hhits hit List.mem_cons_self) hstate ?_ htakes
      simp [left, hstate, hcursor, hpage]

/-- **Every call keeps to hits of the kind.** -/
theorem keeps_draws (hservice : service.Answers ready kind q) :
    Keeps service fun _ t now => t.Draws q kind d ∧ ready now := by
  refine Keeps.of_steps ?_ ?_
  · intro _ t now h turn u later hadvance
    have hstepped := h.1.step hservice h.2 (step_advance service t now)
    rw [hadvance] at hstepped
    cases hstepped with
    | again hdraws hready | row hdraws hready | finished hdraws hready | failed hdraws hready =>
        exact ⟨hdraws, hready⟩
  · intro _ t now h answer u later hexhaust
    obtain ⟨t', last, hend, hdraws, hready, -⟩ := h.1.exhaust hservice h.2
    rw [hexhaust] at hend
    obtain ⟨-, rfl, rfl⟩ := hend
    exact ⟨hdraws, hready⟩

/-- **Every call comes to a row, to the end or to a fault.** The induction is on what is left to do. -/
theorem Draws.returns (h : t.Draws q kind d) (hservice : service.Answers ready kind q)
    (hnow : ready now) :
    ∃ turn t' later, t.Returns service now (turn, t', later) ∧ turn ≠ .again ∧
      ∀ e, turn = .failed e → Fault kind d e := by
  induction hleft : t.left using Nat.strongRecOn generalizing t now with
  | ind n ih =>
      subst hleft
      have hstepped := h.step hservice hnow (step_advance service t now)
      rcases hadvance : t.advance service now with ⟨turn, u, mid⟩
      rw [hadvance] at hstepped
      cases hstepped with
      | again hdraws hready hless =>
          obtain ⟨turn, t', later, hreturns, hturn, hfault⟩ := ih u.left hless hdraws hready rfl
          exact ⟨turn, t', later, returns_of_again hadvance hreturns, hturn, hfault⟩
      | row | finished =>
          exact ⟨_, _, _, returns_of_turn hadvance (by simp), by simp, by simp⟩
      | @failed e _ _ hdraws hready hfault =>
          obtain ⟨t', later, hend, -⟩ := hdraws.exhaustThen hservice hready (.failed e)
          have hreturns := returns_of_turn hadvance (by simp)
          rw [settle, hend] at hreturns
          refine ⟨_, t', later, hreturns, by simp, fun e' he => ?_⟩
          obtain rfl := Turn.failed.inj he
          exact hfault

/-- A new scan without a row filter draws on the hits that its service serves. -/
theorem draws_of_create {r : ScanRequest} {schema : Schema} {s : Scan}
    (hcreate : Scan.create r schema = .ok s) (hfilter : r.rowFilter = none) (kind : Json → Prop) :
    s.Draws s.search kind s.decoder := by
  obtain ⟨rfl, hinit, -⟩ := fresh_of_create hcreate
  exact ⟨rfl, hfilter, rfl, fun hgoing => by simp [hinit] at hgoing⟩

/-- **A scan that has to return a hit which is no object fails.** -/
theorem Draws.returns_of_bare (h : t.Draws q kind d) (hservice : service.Answers ready kind q)
    (hnow : ready now) (hstate : t.state = .draining) {c : Cursor} (hcursor : t.cursor = some c)
    {hit : Json} {rest : List Json} (hpage : c.page = hit :: rest) (hbare : ¬ hit.IsObject)
    (hskip : ¬ t.skipped < t.request.offset) (hcolumns : d.columns ≠ []) :
    ∃ t' later, t.Returns service now (.failed .noMembers, t', later) := by
  have hdecode : t.decoder.decode hit = .error .noMembers := by
    rw [h.decoder]
    exact RowDecoder.decode_of_not_obj hcolumns fun members heq => hbare ⟨members, heq⟩
  have hadvance : t.advance service now = _ := advance_of_next hstate hcursor hpage h.filter hskip
  simp only [hdecode] at hadvance
  have hholds := h.holds (.inr hstate) hcursor
  have hrest : Cursor.Holds { c with page := rest } q kind :=
    ⟨hholds.search, fun hit hmem => hholds.hits hit (hpage ▸ List.mem_cons_of_mem _ hmem)⟩
  have hdraws : Draws q kind d { t with cursor := some { c with page := rest } } :=
    ⟨h.search, h.filter, h.decoder, fun _ => ⟨_, rfl, hrest⟩⟩
  obtain ⟨t', later, hend, -⟩ := hdraws.exhaustThen hservice hnow (.failed .noMembers)
  have hreturns := returns_of_turn hadvance (by simp)
  rw [settle, hend] at hreturns
  exact ⟨t', later, hreturns⟩

end Scan

end SearchTables
