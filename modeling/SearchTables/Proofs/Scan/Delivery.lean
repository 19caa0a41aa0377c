import SearchTables.Proofs.Scan.Step
import Mathlib.Data.List.Forall2

/-! # Deliveries — the rows of a stream that comes in pages

A service may hand out the hits of one stream page by page, each scroll standing somewhere in it. As
long as it is safe to go on with the scroll that a scan has, the scan takes the hits one by one in the
order of the stream, and none is passed over: its rows are those of a beginning of the stream
(`rows_of_delivers`). -/

namespace SearchTables

variable {τ : Type}

/-- A service delivers a stream of hits page by page. A scroll is `ready` with a part of the stream when
that is what it hands out next; a request that goes on with it fails and leaves it so, or it brings
the next page. What is said of a request supposes that it was `safe` to make it, and what was safe
later was safe before. -/
structure ScrollService.Delivers (service : ScrollService τ) (q : Search) (stream : List Json)
    (size : Nat) (safe : τ → Prop) (ready : τ → String → List Json → Prop) : Prop where
  start : ∀ {now later : τ} {answer : Except Error ScrollPage},
    service.start q now = (answer, later) →
      (∃ e, answer = .error e) ∨ ∃ id, answer = .ok ⟨some id, stream.take size⟩ ∧
        ready later id (stream.drop size)
  next : ∀ {now later : τ} {id : String} {rest : List Json} {answer : Except Error ScrollPage},
    ready now id rest → service.next id q.scroll now = (answer, later) → safe later →
      (∃ e, answer = .error e ∧ ready later id rest) ∨
        ∃ id', answer = .ok ⟨some id', rest.take size⟩ ∧ ready later id' (rest.drop size)
  earlier : service.Moves fun now later => safe later → safe now

section

variable (q : Search) (stream : List Json) (ready : τ → String → List Json → Prop)

/-- Where a cursor stands in a stream, when the hits before that were taken from it. -/
inductive Cursor.Reads (taken : List Json) (c : Cursor) (now : τ) : Prop where
  /-- No page came. -/
  | unread (hsearch : c.search = q) (hid : c.scrollId = none) (hpage : c.page = [])
      (htaken : taken = []) : Reads taken c now
  /-- The page of the cursor is next, and then comes what its scroll is ready with. -/
  | reading {id : String} {rest : List Json} (hsearch : c.search = q) (hopened : c.opened = true)
      (hid : c.scrollId = some id) (hready : ready now id rest)
      (hstream : stream = taken ++ c.page ++ rest) : Reads taken c now

/-- Where a scan stands in a stream, when the hits before that were taken from it. -/
inductive Scan.Reads (taken : List Json) (s : Scan) (now : τ) : Prop where
  /-- It was not started. -/
  | fresh (hstate : s.state = .init) (htaken : taken = []) : Reads taken s now
  /-- Its cursor says where. -/
  | goesOn {c : Cursor} (hstate : s.state = .fetching ∨ s.state = .draining)
      (hcursor : s.cursor = some c) (hreads : c.Reads q stream ready taken now) :
      Reads taken s now
  /-- It has ended somewhere. -/
  | finished (hstate : s.state = .exhausted) (htaken : taken <+: stream) : Reads taken s now

end

variable {service : ScrollService τ} {q : Search} {stream : List Json} {size : Nat}
  {safe : τ → Prop} {ready : τ → String → List Json → Prop} {taken : List Json} {now later : τ}

/-! ## Cursors -/

namespace Cursor

variable {c c' : Cursor}

/-- The hits that were taken are a beginning of the stream. -/
theorem Reads.isPrefix_stream (h : c.Reads q stream ready taken now) : taken <+: stream := by
  cases h with
  | unread _ _ _ htaken =>
      rw [htaken]
      exact List.nil_prefix
  | @reading _ rest _ _ _ _ hstream =>
      rw [hstream, List.append_assoc]
      exact List.prefix_append taken (c.page ++ rest)

/-- **A fetch leaves a cursor where it stands**: the page that it brings is the next one. -/
theorem Reads.fetch (hservice : service.Delivers q stream size safe ready)
    (h : c.Reads q stream ready taken now) {answer : Except Error Nat}
    (hfetch : c.fetch service now = (answer, c', later)) (hsafe : safe later) :
    c'.Reads q stream ready taken later := by
  have hcase := fetch_fetch service c now
  rw [hfetch] at hcase
  cases hcase with
  | idle =>
      cases h with
      | unread hsearch hid hpage htaken => exact .unread hsearch hid hpage htaken
      | reading hsearch hopened hid hready hstream =>
          exact .reading hsearch hopened hid hready hstream
  | @opens page _ _ hclosed hstart =>
      cases h with
      | reading _ hopened =>
          rw [hopened] at hclosed
          cases hclosed
      | unread hsearch hid hpage htaken =>
          rw [hsearch] at hstart
          -- nothing of the stream was taken yet, so it may begin anew after a failure
          obtain ⟨e, rfl⟩ | ⟨id, rfl, hready⟩ := hservice.start hstart
          · exact .unread hsearch hid hpage htaken
          · refine .reading hsearch rfl rfl hready ?_
            show stream = taken ++ (c.page ++ stream.take size) ++ stream.drop size
            rw [htaken, hpage, List.nil_append, List.nil_append, List.take_append_drop]
  | @continues id page _ _ hopened hid hnext =>
      cases h with
      | unread _ hnone =>
          rw [hnone] at hid
          cases hid
      | @reading id' rest hsearch _ hid' hready hstream =>
          obtain rfl : id' = id := Option.some.inj (hid'.symm.trans hid)
          rw [hsearch] at hnext
          obtain ⟨e, rfl, hready⟩ | ⟨next, rfl, hready⟩ := hservice.next hready hnext hsafe
          · exact .reading hsearch hopened hid hready hstream
          · refine .reading hsearch hopened rfl hready ?_
            show stream = taken ++ (c.page ++ rest.take size) ++ rest.drop size
            rw [hstream, List.append_assoc, List.append_assoc, List.append_assoc,
              List.take_append_drop]

end Cursor

/-! ## Scans -/

namespace Scan

variable {s t : Scan}

/-- The hits that were taken are a beginning of the stream. -/
theorem Reads.isPrefix_stream (h : s.Reads q stream ready taken now) : taken <+: stream := by
  cases h with
  | fresh _ htaken =>
      rw [htaken]
      exact List.nil_prefix
  | goesOn _ _ hreads => exact hreads.isPrefix_stream
  | finished _ htaken => exact htaken

/-- A scan that is ended has ended. -/
theorem state_exhaust (service : ScrollService τ) (s : Scan) (now : τ) :
    (s.exhaust service now).2.1.state = .exhausted := by
  have hcase := exhaust_exhaust service s now
  generalize s.exhaust service now = outcome at hcase
  cases hcase with
  | finished hstate => exact hstate
  | bare | closed | failed => rfl

/-- A request without filter, offset and limit. -/
structure Plain (r : ScanRequest) : Prop where
  rowFilter : r.rowFilter = none
  offset : r.offset = 0
  limit : r.limit = none

/-- The rows that were returned are those of the hits that were taken, and the scan stands behind
these hits. -/
def Follows (q : Search) (stream : List Json) (ready : τ → String → List Json → Prop)
    (decode : Json → Except Error Row) (rows : List Row) (s : Scan) (now : τ) : Prop :=
  ∃ taken, List.Forall₂ (fun hit row => decode hit = .ok row) taken rows ∧
    s.Reads q stream ready taken now

variable {decode : Json → Except Error Row} {rows : List Row}

/-- A step that returns no row and leaves the scan where it stands. -/
theorem Follows.of_reads
    (htaken : List.Forall₂ (fun hit row => decode hit = .ok row) taken rows)
    (hreads : t.Reads q stream ready taken later) {turn : Turn} (hturn : turn.rows = []) :
    t.Follows q stream ready decode (rows ++ turn.rows) later := by
  rw [hturn, List.append_nil]
  exact ⟨taken, htaken, hreads⟩

/-- The end of a scan keeps its rows those of a beginning of the stream. -/
theorem Follows.exhaust (h : s.Follows q stream ready decode rows now) {u : Scan} {final : τ}
    {answer : Except Error Unit} (hexhaust : t.exhaust service later = (answer, u, final)) :
    u.Follows q stream ready decode rows final := by
  obtain ⟨taken, htaken, hreads⟩ := h
  have hstate := state_exhaust service t later
  rw [hexhaust] at hstate
  exact ⟨taken, htaken, .finished hstate hreads.isPrefix_stream⟩

/-- So does the end before it goes on without a row. -/
theorem Follows.exhaustThen_again (h : s.Follows q stream ready decode rows now) (t : Scan)
    (later : τ) :
    (t.exhaustThen service .again later).2.1.Follows q stream ready decode
      (rows ++ (t.exhaustThen service .again later).1.rows)
      (t.exhaustThen service .again later).2.2 := by
  obtain ⟨turn, heq, hturn⟩ := exhaustThen_eq service .again t later
  have hrows : turn.rows = [] := by
    obtain rfl | ⟨e, rfl⟩ := hturn
    · exact Turn.rows_again
    · exact Turn.rows_failed e
  rw [heq, hrows, List.append_nil]
  exact h.exhaust rfl

/-- A plain request rejects no hit. -/
theorem Plain.rejects (h : Plain s.request) (hit : Json) : s.rejects hit = .ok false := by
  rw [Scan.rejects, h.rowFilter]

/-- A plain request has no last row. -/
theorem Plain.atLimit (h : Plain s.request) : s.atLimit = false := by
  rw [Scan.atLimit, h.limit]

/-- **A hit that is taken off the page is the next one of the stream**, and its row is returned
unless it has none. -/
theorem Follows.takes {c : Cursor} {hit : Json} {rest : List Json}
    (hplain : Plain s.request) (hdecode : s.decoder.decode = decode)
    (htaken : List.Forall₂ (fun hit row => decode hit = .ok row) taken rows)
    (hreads : c.Reads q stream ready taken now) (hpage : c.page = hit :: rest)
    (hstate : s.state = .draining) (hcursor : s.cursor = some { c with page := rest })
    {outcome : Turn × Scan × τ} (htakes : Takes service s hit now outcome)
    (hfine : (∀ e, outcome.1 ≠ .failed e) ∨ outcome.2.1.state ≠ .draining) :
    outcome.2.1.Follows q stream ready decode (rows ++ outcome.1.rows) outcome.2.2 := by
  have haccepts := hplain.rejects hit
  cases htakes with
  | unanswered hrejects | rejected hrejects =>
      rw [haccepts] at hrejects
      cases hrejects
  | skipped _ hskip =>
      rw [hplain.offset] at hskip
      omega
  | undecoded =>
      -- the hit is lost, but then the scan ends
      rcases hfine with hfine | hfine
      · exact absurd rfl (hfine _)
      · exact absurd hstate hfine
  | lastRow _ _ _ hlimit =>
      have hnever : Scan.atLimit { s with emitted := s.emitted + 1 } = false :=
        Plain.atLimit ⟨hplain.rowFilter, hplain.offset, hplain.limit⟩
      rw [hnever] at hlimit
      cases hlimit
  | @row row _ _ hrow =>
      rw [hdecode] at hrow
      refine ⟨taken ++ [hit], List.rel_append htaken (.cons hrow .nil), ?_⟩
      refine .goesOn (.inr hstate) hcursor ?_
      cases hreads with
      | unread _ _ hempty =>
          rw [hempty] at hpage
          cases hpage
      | @reading id left hsearch hopened hid hready hstream =>
          refine .reading hsearch hopened hid hready ?_
          show stream = taken ++ [hit] ++ rest ++ left
          rw [hstream, hpage, List.append_assoc taken [hit] rest]
          rfl

/-- **A step keeps the rows of a plain scan those of a beginning of the stream**, unless it fails on
a hit. -/
theorem Follows.step (hservice : service.Delivers q stream size safe ready)
    (hplain : Plain s.request) (hsearch : s.search = q) (hdecode : s.decoder.decode = decode)
    (h : s.Follows q stream ready decode rows now) {outcome : Turn × Scan × τ}
    (hstep : Step service s now outcome) (hsafe : safe outcome.2.2)
    (hfine : (∀ e, outcome.1 ≠ .failed e) ∨ outcome.2.1.state ≠ .draining) :
    outcome.2.1.Follows q stream ready decode (rows ++ outcome.1.rows) outcome.2.2 := by
  obtain ⟨taken, htaken, hreads⟩ := h
  -- a cursor stands behind the hits whose rows were returned
  have hcursorReads : ∀ {c : Cursor}, s.state = .fetching ∨ s.state = .draining →
      s.cursor = some c → c.Reads q stream ready taken now := by
    intro c hstate hcursor
    cases hreads with
    | fresh hfresh => simp [hfresh] at hstate
    | finished hfinished => simp [hfinished] at hstate
    | goesOn _ hsome hreads =>
        obtain rfl := Option.some.inj (hsome.symm.trans hcursor)
        exact hreads
  cases hstep with
  | finished | lost => exact .of_reads htaken hreads rfl
  | nothing _ hlimit =>
      rw [hplain.limit] at hlimit
      cases hlimit
  | begins hstate =>
      cases hreads with
      | goesOn hgoing => simp [hstate] at hgoing
      | finished hfinished => simp [hstate] at hfinished
      | fresh _ hnone =>
          refine .of_reads htaken ?_ rfl
          exact .goesOn (.inl rfl) rfl (.unread hsearch rfl rfl hnone)
  | unfetched hstate hcursor hfetch =>
      have hfetched := (hcursorReads (.inl hstate) hcursor).fetch hservice hfetch hsafe
      refine .of_reads htaken ?_ rfl
      exact .goesOn (.inl hstate) rfl hfetched
  | ends =>
      exact Follows.exhaustThen_again ⟨taken, htaken, hreads⟩ _ _
  | fetched hstate hcursor hfetch =>
      have hfetched := (hcursorReads (.inl hstate) hcursor).fetch hservice hfetch hsafe
      refine .of_reads htaken ?_ rfl
      exact .goesOn (.inr rfl) rfl hfetched
  | drained hstate hcursor =>
      refine .of_reads htaken ?_ rfl
      exact .goesOn (.inl rfl) hcursor (hcursorReads (.inr hstate) hcursor)
  | takes hstate hcursor hpage htakes =>
      refine Follows.takes ?_ ?_ htaken (hcursorReads (.inr hstate) hcursor) hpage ?_ ?_ htakes hfine
      · exact hplain
      · exact hdecode
      · exact hstate
      · rfl

/-- **All calls keep the rows of a plain scan those of a beginning of the stream**, as long as it is
safe. -/
theorem keeps_follows (hservice : service.Delivers s.search stream size safe ready)
    (hplain : Plain s.request) :
    Keeps service fun rows t now => s.Alike t ∧
      (safe now → t.Follows s.search stream ready s.decoder.decode rows now) where
  advance {rows t now} h {turn u later} hadvance hfine := by
    have hcase := step_advance service t now
    have hearlier := hservice.earlier.advance t now
    have halike := h.1.of_step hcase
    rw [hadvance] at hcase hearlier halike
    have hplain' : Plain t.request := by
      rw [h.1.request]
      exact hplain
    have hdecode : t.decoder.decode = s.decoder.decode := congrArg _ h.1.decoder
    -- what is safe after the step was safe before it
    exact ⟨halike, fun hsafe =>
      (h.2 (hearlier hsafe)).step hservice hplain' h.1.search hdecode hcase hsafe hfine⟩
  failed {rows t now} h {e u later} hadvance {answer v final} hexhaust := by
    have hcase := step_advance service t now
    have hearlier := hservice.earlier.advance t now
    have hearlier' := hservice.earlier.exhaust u later
    have halike := h.1.of_step hcase
    rw [hadvance] at hearlier halike
    have halike' := halike.of_exhaust (exhaust_exhaust service u later)
    rw [hexhaust] at hearlier' halike'
    exact ⟨halike', fun hsafe => (h.2 (hearlier (hearlier' hsafe))).exhaust hexhaust⟩
  exhaust {rows t now} h {answer u later} hexhaust := by
    have hearlier := hservice.earlier.exhaust t now
    have halike := h.1.of_exhaust (exhaust_exhaust service t now)
    rw [hexhaust] at hearlier halike
    exact ⟨halike, fun hsafe => (h.2 (hearlier hsafe)).exhaust hexhaust⟩

/-- **The rows of a plain scan are those of a beginning of the stream** that its service delivers, at
every moment that it is safe. -/
theorem rows_of_delivers (hservice : service.Delivers s.search stream size safe ready)
    (hplain : Plain s.request) (hinit : s.state = .init) (hreaches : s.Reaches service now rows t later)
    (hsafe : safe later) :
    ∃ hits, hits <+: stream ∧
      List.Forall₂ (fun hit row => s.decoder.decode hit = .ok row) hits rows := by
  have hstart : safe now → s.Follows s.search stream ready s.decoder.decode [] now :=
    fun _ => ⟨[], .nil, .fresh hinit rfl⟩
  obtain ⟨-, hfollows⟩ := (keeps_follows hservice hplain).of_reaches ⟨.refl s, hstart⟩ hreaches
  obtain ⟨hits, hrows, hreads⟩ := hfollows hsafe
  exact ⟨hits, hreads.isPrefix_stream, hrows⟩

end Scan

end SearchTables
