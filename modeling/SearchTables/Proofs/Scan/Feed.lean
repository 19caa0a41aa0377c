import SearchTables.Client.Endpoint
import SearchTables.Scan.Engine

/-! # Feeds — the hits that a service serves

A scroll service answers one request for a page after the other. Its **feed** is what these answers
come to, whoever asks: the hits of the pages, one page after the other, up to and including the
first page that is empty or comes without an id. A cursor brings the feed of its service page by
page, and stops where the feed does (`Cursor.brings_fetch`). -/

namespace SearchTables

/-- How a feed ends. -/
inductive FeedEnd where
  /-- With a page that is empty or comes without an id. -/
  | last
  /-- With a request that failed. -/
  | failed (error : Error)
  /-- Not yet: no more pages were asked for. -/
  | more

/-- The hits that a service serves, and how serving ends. -/
structure Feed where
  hits : List Json
  ending : FeedEnd

variable {τ : Type}

/-- The feed that an answer begins, when at most a number of pages are asked for. -/
def ScrollService.feed (service : ScrollService τ) (scroll : String) :
    Nat → Except Error ScrollPage × τ → Feed
  | 0, _ => ⟨[], .more⟩
  | _ + 1, (.error e, _) => ⟨[], .failed e⟩
  | asked + 1, (.ok p, state) =>
      match p.hits, p.scrollId with
      | hit :: hits, some id =>
          let rest := service.feed scroll asked (service.next id scroll state)
          ⟨hit :: hits ++ rest.hits, rest.ending⟩
      | hits, _ => ⟨hits, .last⟩

/-- **A feed that has ended is the whole feed**: asking for more pages does not change it. -/
theorem ScrollService.feed_of_ended (service : ScrollService τ) (scroll : String) {asked : Nat}
    {answer : Except Error ScrollPage × τ}
    (h : (service.feed scroll asked answer).ending ≠ .more) (more : Nat) :
    service.feed scroll (asked + more) answer = service.feed scroll asked answer := by
  induction asked generalizing answer with
  | zero => exact absurd rfl h
  | succ asked ih =>
      rw [Nat.succ_add]
      obtain ⟨result, state⟩ := answer
      cases result with
      | error e => rfl
      | ok p =>
          obtain ⟨scrollId, hits⟩ := p
          cases hits with
          | nil => rfl
          | cons hit hits =>
              cases scrollId with
              | none => rfl
              | some id =>
                  have hrest : service.feed scroll (asked + more) (service.next id scroll state) =
                      service.feed scroll asked (service.next id scroll state) := ih h
                  simp only [feed, hrest]

/-- A feed for which a page is asked has a hit or an end. -/
theorem ScrollService.feed_ne_more (service : ScrollService τ) (scroll : String) {asked : Nat}
    (hasked : 0 < asked) (answer : Except Error ScrollPage × τ) :
    service.feed scroll asked answer ≠ ⟨[], .more⟩ := by
  obtain ⟨asked, rfl⟩ := Nat.exists_eq_succ_of_ne_zero (Nat.ne_of_gt hasked)
  obtain ⟨result, state⟩ := answer
  cases result with
  | error e => simp [feed]
  | ok p =>
      obtain ⟨scrollId, hits⟩ := p
      cases hits <;> cases scrollId <;> simp [feed]

/-! ## Releases -/

/-- Releasing a scroll never fails; that it went wrong is only reported. -/
def ScrollService.ReleasesQuietly (service : ScrollService τ) : Prop :=
  ∀ id state, ∃ done, (service.release id state).1 = .ok done

/-- The request that releases a scroll. -/
def Client.releaseInquiry (id : String) : Inquiry :=
  { method := "DELETE"
    path := scrollPath
    body := some (.object [("scroll_id", .str id)])
    retry := false }

/-- Releasing a scroll reports how its request went, unless that failed without being given up. -/
theorem Client.clearScroll_eq {σ : Type} {c : Client σ} {id : String} {link link' : Link σ}
    {answer : Except Error Reply} (h : c.request (releaseInquiry id) link = (answer, link')) :
    c.clearScroll id link =
      match answer with
      | .ok _ => (.ok true, link')
      | .error (.requestFailed failure) =>
          (.ok false, link'.log .client .warning ("failed to clear scroll: " ++ failure.details))
      | .error e => (.error e, link') := by
  rw [releaseInquiry] at h
  simp only [clearScroll, tryCatch, tryCatchThe, MonadExceptOf.tryCatch, ExceptT.tryCatch,
    ExceptT.mk, bind, ExceptT.bind, StateT.bind, h]
  cases answer with
  | ok _ => rfl
  | error e => cases e <;> rfl

/-- **The scrolls of a client are released quietly** when a request to release one fails only by
being given up. -/
theorem Client.scrolls_releasesQuietly {σ : Type} {c : Client σ}
    (h : ∀ id link e, (c.request (releaseInquiry id) link).1 = .error e →
      ∃ failure, e = .requestFailed failure) :
    c.scrolls.ReleasesQuietly := by
  intro id link
  have h := h id link
  rcases hrequest : c.request (releaseInquiry id) link with ⟨answer, link'⟩
  rw [hrequest] at h
  have hrelease : c.scrolls.release id link = c.clearScroll id link := rfl
  rw [hrelease, clearScroll_eq hrequest]
  cases answer with
  | ok _ => exact ⟨true, rfl⟩
  | error e =>
      obtain ⟨failure, rfl⟩ := h e rfl
      exact ⟨false, rfl⟩

/-! ## Cursors -/

namespace Cursor

/-- The feed that is still to come to a cursor. -/
def coming (service : ScrollService τ) (c : Cursor) (asked : Nat) (state : τ) : Feed :=
  if c.finished then ⟨[], .last⟩
  else if !c.opened then service.feed c.search.scroll asked (service.start c.search state)
  else
    match c.scrollId with
    | none => ⟨[], .last⟩
    | some id => service.feed c.search.scroll asked (service.next id c.search.scroll state)

/-- What is to come when a page is asked for has a hit or an end. -/
theorem coming_ne_more (service : ScrollService τ) (c : Cursor) {asked : Nat} (hasked : 0 < asked)
    (state : τ) : c.coming service asked state ≠ ⟨[], .more⟩ := by
  rw [coming]
  split
  · simp
  · split
    · exact service.feed_ne_more _ hasked _
    · split
      · simp
      · exact service.feed_ne_more _ hasked _

/-- What a fetch has to do with the feed that was to come. -/
inductive Brings (service : ScrollService τ) (asked : Nat) (feed : Feed) :
    Except Error Nat × Cursor × τ → Prop where
  /-- Nothing is known: no page was asked for. -/
  | more {outcome : Except Error Nat × Cursor × τ} (hfeed : feed = ⟨[], .more⟩) :
      Brings service asked feed outcome
  /-- The feed fails here. -/
  | failed {e : Error} {c : Cursor} {state : τ} (hfeed : feed = ⟨[], .failed e⟩) :
      Brings service asked feed (.error e, c, state)
  /-- The feed is at its end. -/
  | last {count : Nat} {c : Cursor} {state : τ} (hfeed : feed = ⟨[], .last⟩)
      (hexhausted : c.exhausted = true) :
      Brings service asked feed (.ok count, c, state)
  /-- The feed goes on with a page, which the cursor has now. -/
  | page {left count : Nat} {c : Cursor} {state : τ} (hasked : asked = left + 1)
      (hpage : c.page ≠ [])
      (hhits : feed.hits = c.page ++ (c.coming service left state).hits)
      (hending : feed.ending = (c.coming service left state).ending) :
      Brings service asked feed (.ok count, c, state)

/-- An answer brings the feed that it begins. -/
theorem brings_received (service : ScrollService τ) {c : Cursor} (hopened : c.opened = true)
    (hfinished : c.finished = false) (hpage : c.page = []) (asked : Nat)
    (answer : Except Error ScrollPage)
    (state : τ) : Brings service asked (service.feed c.search.scroll asked (answer, state))
      ((c.received answer).1, (c.received answer).2, state) := by
  cases asked with
  | zero => exact .more rfl
  | succ left =>
      cases answer with
      | error e => exact .failed rfl
      | ok p =>
          obtain ⟨scrollId, hits⟩ := p
          rw [received]
          cases hits with
          | nil => exact .last rfl (by simp [receive, exhausted, hpage])
          | cons hit hits =>
              -- the feed goes on exactly when the page has an id, and so does the cursor
              refine .page rfl (by simp [receive]) ?_ ?_
              all_goals cases scrollId <;>
                simp [ScrollService.feed, coming, receive, hopened, hfinished, hpage]

/-- **A fetch brings what was to come.** -/
theorem brings_fetch (service : ScrollService τ) {c : Cursor} (hpage : c.page = []) (asked : Nat)
    (state : τ) :
    Brings service asked (c.coming service asked state) (c.fetch service state) := by
  rw [coming, fetch]
  by_cases hfinished : c.finished = true
  -- a finished cursor asks for nothing
  · rw [if_pos hfinished, if_pos hfinished]
    exact .last rfl (by simp [exhausted, hfinished, hpage])
  · rw [if_neg hfinished, if_neg hfinished]
    have hfinished : c.finished = false := by simpa using hfinished
    by_cases hopened : c.opened = true
    · simp only [hopened, Bool.not_true, Bool.false_eq_true, if_false]
      cases hid : c.scrollId with
      | none => exact .last rfl (by simp [exhausted, hpage])
      | some id => exact brings_received service hopened hfinished hpage asked _ _
    · have hopened : c.opened = false := by simpa using hopened
      simp only [hopened, Bool.not_false, if_true]
      exact brings_received service (c := { c with opened := true }) rfl hfinished hpage asked _ _

/-- A cursor closes when the release is quiet. -/
theorem close_of_quiet {service : ScrollService τ} (hrelease : service.ReleasesQuietly) (c : Cursor)
    (state : τ) : ∃ c' state', c.close service state = (.ok (), c', state') := by
  rw [close]
  by_cases hclosed : c.closed = true
  · rw [if_pos hclosed]
    exact ⟨_, _, rfl⟩
  · rw [if_neg hclosed]
    cases c.scrollId with
    | none => exact ⟨_, _, rfl⟩
    | some id =>
        -- the only request on the way
        obtain ⟨done, hdone⟩ := hrelease id state
        rcases hreleased : service.release id state with ⟨answer, state'⟩
        rw [hreleased] at hdone
        obtain rfl : answer = .ok done := hdone
        simp only [hreleased]
        exact ⟨_, _, rfl⟩

end Cursor

end SearchTables
