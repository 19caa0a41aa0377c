import SearchTables.Mapping.Sample
import SearchTables.Proofs.Scan.Feed
import SearchTables.Proofs.Scan.Lifecycle

/-! # Samples — what sampling documents reveals

A sample is taken from the feed of a search, hit by hit, until there were enough of them or until
nothing more can be learned. Seen from outside neither that early stop nor the pages in which the
hits came can be told: without failures a sample says what all of the first documents reveal, as
many as were to be looked at, and with a failed request it says what the documents before that
request reveal. In any case the scroll is released once. `SampleOrder.take_samples` states this; the
loop behind it keeps `Sampler.Active` from hit to hit and from page to page. -/

namespace SearchTables

variable {τ : Type}

/-! ## What documents reveal -/

namespace SampleOrder

/-- The search that a sample is taken from. -/
def search (order : SampleOrder) : Search :=
  { index := order.index
    body := .object [("query", (Clause.combine (order.baseQuery.map .native) none).toValue)]
    scroll := order.scroll
    size := min order.size order.pageSize }

/-- The feed that a sample is taken from, when at most a number of pages are asked for. -/
def feed (order : SampleOrder) (service : ScrollService τ) (asked : Nat) (state : τ) : Feed :=
  service.feed order.scroll asked (service.start order.search state)

/-- A sample says what documents **reveal**: at which of the paths some document holds an array, and
whether some document has residual content. -/
structure Reveals (order : SampleOrder) (documents : List Json) (sample : Sample) : Prop where
  arrays : ∀ path, path ∈ sample.arrays ↔
    path ∈ order.paths ∧ ∃ d ∈ documents, ∃ items, Path.find? d path = some (.arr items)
  unmapped : sample.hasUnmapped = true ↔
    ∃ d ∈ documents, (PathSet.ofMapped order.mapped).residual "" d ≠ []

end SampleOrder

namespace Sampler

/-- A sampler knows documents: its sample says what they reveal, and what is pending is what they do
not hold arrays at. -/
structure Knows (s : Sampler) (order : SampleOrder) (documents : List Json) : Prop where
  paths : s.paths = .ofMapped order.mapped
  seen : s.sample.seen = documents.length
  pending : ∀ path, path ∈ s.pending ↔
    path ∈ order.paths ∧ ∀ d ∈ documents, holdsArray d path = false
  reveals : order.Reveals documents s.sample

variable {order : SampleOrder} {documents : List Json} {s : Sampler}

/-- Where a document holds an array a look-up finds one. -/
theorem holdsArray_iff {d : Json} {path : String} :
    holdsArray d path = true ↔ ∃ items, Path.find? d path = some (.arr items) := by
  rw [holdsArray]
  cases Path.find? d path with
  | none => simp
  | some found => cases found <;> simp [Json.isArray]

/-- **A sampler that learns from one more document knows that one too.** -/
theorem Knows.learn (h : s.Knows order documents) (d : Json) :
    (learn { s with sample := { s.sample with seen := s.sample.seen + 1 } } d).Knows order
      (documents ++ [d]) where
  paths := h.paths
  seen := by
    rw [List.length_append, List.length_singleton, ← h.seen]
    rfl
  pending path := by
    have hpending := h.pending path
    simp only [Sampler.learn, List.mem_filter, hpending, List.forall_mem_append,
      List.forall_mem_singleton, and_assoc, Bool.not_eq_true']
  reveals := by
    constructor
    · intro path
      have harrays := h.reveals.arrays path
      simp only [← holdsArray_iff] at harrays
      simp only [Sampler.learn, ← holdsArray_iff, List.mem_append, List.mem_filter, h.pending path,
        harrays, List.mem_singleton, or_and_right, exists_or, exists_eq_left]
      constructor
      · rintro (⟨hpath, hbefore⟩ | ⟨⟨hpath, -⟩, harray⟩)
        · exact ⟨hpath, .inl hbefore⟩
        · exact ⟨hpath, .inr harray⟩
      · rintro ⟨hpath, hfound⟩
        -- a path at which an array was seen before is pending no longer
        by_cases hbefore : ∃ d ∈ documents, holdsArray d path = true
        · exact .inl ⟨hpath, hbefore⟩
        · exact .inr ⟨⟨hpath, by simpa using hbefore⟩, hfound.resolve_left hbefore⟩
    · have hpaths : s.paths = .ofMapped order.mapped := h.paths
      simp only [Sampler.learn, Bool.or_eq_true, h.reveals.unmapped, hpaths, List.mem_append,
        List.mem_singleton, or_and_right, exists_or, exists_eq_left]
      simp

/-- **When nothing more can be learned, whatever other documents there are changes nothing.** -/
theorem Knows.reveals_append (h : s.Knows order documents) (hpending : s.pending = [])
    (hunmapped : s.sample.hasUnmapped = true) (more : List Json) :
    order.Reveals (documents ++ more) s.sample where
  arrays path := by
    -- no path is pending, so an array was seen at each
    have hseen : path ∈ order.paths → ∃ d ∈ documents, holdsArray d path = true := by
      intro hpath
      refine Classical.byContradiction fun hnone => ?_
      have hin := (h.pending path).2 ⟨hpath, by simpa using hnone⟩
      rw [hpending] at hin
      cases hin
    rw [h.reveals.arrays]
    refine and_congr_right fun hpath => ?_
    obtain ⟨d, hd, harray⟩ := hseen hpath
    have harray := holdsArray_iff.1 harray
    exact iff_of_true ⟨d, hd, harray⟩ ⟨d, List.mem_append_left _ hd, harray⟩
  unmapped := by
    obtain ⟨d, hd, hresidual⟩ := h.reveals.unmapped.1 hunmapped
    exact iff_of_true hunmapped ⟨d, List.mem_append_left _ hd, hresidual⟩

end Sampler

/-! ## Failed requests -/

/-- What a request for a page failed with. -/
def Exchange.failure? : Exchange → Option Error
  | .started _ (.error e) | .continued _ _ (.error e) => some e
  | _ => none

/-- What the requests for pages failed with. -/
def failures (log : List Exchange) : List Error := log.filterMap Exchange.failure?

/-- **A fetch fails with its request**, and a fetch without failure leaves none behind. -/
theorem Cursor.failures_fetch {service : ScrollService τ} {c c' : Cursor} {now later : τ}
    {log log' : List Exchange} {answer : Except Error Nat}
    (h : c.fetch service.recorded (now, log) = (answer, c', later, log')) :
    failures log' = failures log ++ match answer with
      | .ok _ => []
      | .error e => [e] := by
  have hcase := fetch_fetch service.recorded c (now, log)
  rw [h] at hcase
  cases hcase with
  | idle => simp
  | @opens page _ _ _ hstart =>
      obtain rfl := ScrollService.log_of_start hstart
      rw [failures, List.filterMap_append]
      cases page <;> rfl
  | @continues _ page _ _ _ _ hnext =>
      obtain rfl := ScrollService.log_of_next hnext
      rw [failures, List.filterMap_append]
      cases page <;> rfl

/-! ## The loop -/

namespace Sampler

/-- A sampler at work on the hits of a feed: it has looked at those taken, and the rest is what its
cursor holds and what is to come to it. -/
structure Active (service : ScrollService τ) (order : SampleOrder) (ending : FeedEnd) (asked : Nat)
    (taken rest : List (List (String × Json))) (s : Sampler) (now : τ) (log : List Exchange) :
    Prop where
  size : s.size = order.size.toNat
  bound : taken.length ≤ order.size.toNat
  knows : s.Knows order (taken.map RowDecoder.sourceOfHit)
  rest : rest.map Json.obj =
    s.cursor.page ++ (s.cursor.coming service.recorded asked (now, log)).hits
  ending : ending = (s.cursor.coming service.recorded asked (now, log)).ending
  /-- Pages enough are asked for: each has a hit. -/
  asked : order.size.toNat ≤ taken.length + asked + min 1 s.cursor.page.length
  tied : s.cursor.Tied order.search log
  failures : failures log = []

/-- What the loop comes to on the hits of a feed. -/
inductive Ends (order : SampleOrder) (hits : List (List (String × Json))) (ending : FeedEnd) :
    Except Error Unit × Sampler × τ × List Exchange → Prop where
  /-- There are no more hits, there were enough of them, or nothing more can be learned: the sample
  says what the hits to look at reveal, and those that were looked at do. -/
  | enough {taken rest : List (List (String × Json))} {s : Sampler} {now : τ} {log : List Exchange}
      (hhits : hits = taken ++ rest) (hbound : taken.length ≤ order.size.toNat)
      (hknows : s.Knows order (taken.map RowDecoder.sourceOfHit))
      (hall : order.Reveals ((hits.take order.size.toNat).map RowDecoder.sourceOfHit) s.sample)
      (htied : s.cursor.Tied order.search log) (hfailures : failures log = []) :
      Ends order hits ending (.ok (), s, now, log)
  /-- A request failed after all hits there are. -/
  | failed {e : Error} {s : Sampler} {now : τ} {log : List Exchange} (hending : ending = .failed e)
      (hbound : hits.length < order.size.toNat)
      (hknows : s.Knows order (hits.map RowDecoder.sourceOfHit))
      (htied : s.cursor.Tied order.search log) (hfailures : failures log = [e]) :
      Ends order hits ending (.error e, s, now, log)

/-- At the end of the loop the cursor is tied to its record. -/
theorem Ends.tied {order : SampleOrder} {hits : List (List (String × Json))} {ending : FeedEnd}
    {outcome : Except Error Unit} {s : Sampler} {now : τ} {log : List Exchange}
    (h : Ends order hits ending (outcome, s, now, log)) : s.cursor.Tied order.search log := by
  cases h with
  | enough _ _ _ _ htied => exact htied
  | failed _ _ _ htied => exact htied

variable {service : ScrollService τ} {order : SampleOrder} {ending : FeedEnd} {asked : Nat}
  {taken rest : List (List (String × Json))} {s : Sampler} {now : τ} {log : List Exchange}

/-- A sampler may stop when there were enough hits, when there are no more, or when nothing more can
be learned. -/
theorem Active.enough (h : Active service order ending asked taken rest s now log)
    (hstop : taken.length = order.size.toNat ∨ rest = [] ∨
      s.pending = [] ∧ s.sample.hasUnmapped = true) :
    Ends order (taken ++ rest) ending (.ok (), s, now, log) := by
  refine .enough rfl h.bound h.knows ?_ h.tied h.failures
  rcases hstop with hsize | rfl | ⟨hpending, hunmapped⟩
  · rw [List.take_left' hsize]
    exact h.knows.reveals
  · rw [List.append_nil, List.take_of_length_le h.bound]
    exact h.knows.reveals
  · rw [List.take_append, List.take_of_length_le h.bound, List.map_append]
    exact h.knows.reveals_append hpending hunmapped _

/-- A sampler whose cursor is exhausted stops. -/
theorem run_of_exhausted {τ : Type} (service : ScrollService τ) (steps : Nat) {s : Sampler}
    (h : s.cursor.exhausted = true) (state : τ) :
    s.run service steps state = (.ok (), s, state) := by
  have hpage : s.cursor.page = [] := by
    simp only [Cursor.exhausted, Bool.and_eq_true, List.isEmpty_iff] at h
    exact h.2
  cases steps with
  | zero => rfl
  | succ steps => simp [run, hpage, h]

/-- Nothing comes to an exhausted cursor. -/
theorem Active.rest_of_exhausted (h : Active service order ending asked taken rest s now log)
    (hexhausted : s.cursor.exhausted = true) : rest = [] := by
  simp only [Cursor.exhausted, Bool.and_eq_true, List.isEmpty_iff] at hexhausted
  have hrest := h.rest
  rw [hexhausted.2, Cursor.coming, if_pos hexhausted.1] at hrest
  exact List.map_eq_nil_iff.1 hrest

/-- **A hit that is taken off the page is looked at.** -/
theorem Active.look {hit : Json} {page : List Json}
    (h : Active service order ending asked taken rest s now log)
    (hsize : taken.length < order.size.toNat) (hpage : s.cursor.page = hit :: page) :
    ∃ members others s', rest = members :: others ∧
      Sampler.look { s with cursor := { s.cursor with page } } hit = .ok s' ∧ s'.cursor.page = page ∧
      Active service order ending asked (taken ++ [members]) others s' now log := by
  have hrest := h.rest
  rw [hpage, List.cons_append] at hrest
  obtain ⟨members, others, rfl, rfl, hothers⟩ := List.map_eq_cons_iff.1 hrest
  have hlength : (taken ++ [members]).length = taken.length + 1 := by
    rw [List.length_append, List.length_singleton]
  refine ⟨members, others, _, rfl, rfl, rfl, h.size, ?_, ?_, hothers, h.ending, ?_, ?_, h.failures⟩
  · omega
  · rw [List.map_append, List.map_singleton]
    have hlearn := h.knows.learn (RowDecoder.sourceOfHit members)
    exact ⟨hlearn.paths, hlearn.seen, hlearn.pending, hlearn.reveals⟩
  · have hasked := h.asked
    rw [hpage, List.length_cons] at hasked
    omega
  · exact ⟨h.tied.search, h.tied.closed, h.tied.fetches, h.tied.scrollId, h.tied.unopened⟩

/-- **A page that is fetched is what was to come**, unless the request fails after the last hit. -/
theorem Active.fetch (h : Active service order ending asked taken rest s now log)
    (hsize : taken.length < order.size.toNat) (hpage : s.cursor.page = []) {answer : Except Error Nat}
    {c' : Cursor} {later : τ} {log' : List Exchange}
    (hfetch : s.cursor.fetch service.recorded (now, log) = (answer, c', later, log')) :
    (∃ e, answer = .error e ∧
        Ends order (taken ++ rest) ending (.error e, { s with cursor := c' }, later, log')) ∨
      ∃ count asked', answer = .ok count ∧ (c'.exhausted = true ∨ c'.page ≠ []) ∧
        Active service order ending asked' taken rest { s with cursor := c' } later log' := by
  have htied := h.tied.fetch hfetch
  have hfailures := Cursor.failures_fetch hfetch
  rw [h.failures] at hfailures
  have hknows : Knows { s with cursor := c' } order (taken.map RowDecoder.sourceOfHit) :=
    ⟨h.knows.paths, h.knows.seen, h.knows.pending, h.knows.reveals⟩
  have hasked := h.asked
  have hrest := h.rest
  rw [hpage, List.nil_append] at hrest
  have hbrings := Cursor.brings_fetch service.recorded hpage asked (now, log)
  rw [hfetch] at hbrings
  cases hbrings with
  | more hfeed =>
      -- as long as hits are left to look at a page is asked for
      rw [hpage] at hasked
      exact absurd hfeed (Cursor.coming_ne_more _ _ (by simp at hasked; omega) _)
  | @failed e _ _ hfeed =>
      -- no hit comes after the failure, so all of them were looked at
      rw [hfeed, List.map_eq_nil_iff] at hrest
      subst hrest
      rw [List.append_nil]
      have hending := h.ending
      rw [hfeed] at hending
      exact .inl ⟨e, rfl, .failed hending hsize hknows htied hfailures⟩
  | @last count _ _ hfeed hexhausted =>
      rw [hfeed, List.map_eq_nil_iff] at hrest
      subst hrest
      have hdone : c'.finished = true ∧ c'.page = [] := by
        simpa [Cursor.exhausted] using hexhausted
      have hending := h.ending
      rw [hfeed] at hending
      refine .inr ⟨count, asked, rfl, .inl hexhausted, h.size, h.bound, hknows, ?_, ?_, ?_, htied,
        hfailures⟩
      · rw [hdone.2, Cursor.coming, if_pos hdone.1]
        rfl
      · rw [Cursor.coming, if_pos hdone.1]
        exact hending
      · rwa [hdone.2, ← hpage]
  | @page left count _ _ hleft hnonempty hhits hending =>
      refine .inr ⟨count, left, rfl, .inr hnonempty, h.size, h.bound, hknows, hrest.trans hhits,
        h.ending.trans hending, ?_, htied, hfailures⟩
      have hpos := List.length_pos_iff.2 hnonempty
      rw [hpage, List.length_nil] at hasked
      dsimp only
      omega

/-- **The loop comes to an end**, in a number of steps that allows for a page before every hit. -/
theorem Active.ends {steps : Nat} (h : Active service order ending asked taken rest s now log)
    (hsteps : 2 * (order.size.toNat - taken.length) ≤ steps + min 1 s.cursor.page.length) :
    Ends order (taken ++ rest) ending (s.run service.recorded steps (now, log)) := by
  -- a page takes a step and every hit on it does, so a page before each hit takes two for each hit
  induction steps generalizing asked taken rest s now log with
  | zero =>
      have hbound := h.bound
      exact h.enough (.inl (by omega))
  | succ steps ih =>
      rw [run]
      have hseen : s.sample.seen = taken.length := by
        rw [h.knows.seen, List.length_map]
      by_cases hgoes : s.goesOn = true
      · rw [hgoes, Bool.not_true, if_neg Bool.false_ne_true]
        simp only [goesOn, Bool.and_eq_true, decide_eq_true_eq, hseen, h.size] at hgoes
        cases hpage : s.cursor.page with
        | nil =>
            dsimp only
            by_cases hexhausted : s.cursor.exhausted = true
            · rw [if_pos hexhausted]
              exact h.enough (.inr (.inl (h.rest_of_exhausted hexhausted)))
            · rw [if_neg hexhausted]
              rcases hfetch : s.cursor.fetch service.recorded (now, log) with
                ⟨answer, c', later, log'⟩
              rcases h.fetch hgoes.1 hpage hfetch with
                ⟨e, rfl, hends⟩ | ⟨count, asked', rfl, hdone | hnonempty, hactive⟩
              · exact hends
              · dsimp only
                rw [run_of_exhausted _ _ hdone]
                exact hactive.enough (.inr (.inl (hactive.rest_of_exhausted hdone)))
              · have hpos := List.length_pos_iff.2 hnonempty
                rw [hpage, List.length_nil] at hsteps
                refine ih hactive ?_
                dsimp only
                omega
        | cons hit page =>
            obtain ⟨members, others, s', rfl, hlook, hpage', hactive⟩ := h.look hgoes.1 hpage
            rw [hpage, List.length_cons] at hsteps
            dsimp only
            rw [hlook, List.append_cons]
            refine ih hactive ?_
            rw [List.length_append, List.length_singleton]
            omega
      · -- either there were enough hits, or everything is known
        have hstop : taken.length = order.size.toNat ∨
            s.pending = [] ∧ s.sample.hasUnmapped = true := by
          have hbound := h.bound
          simp only [goesOn, Bool.and_eq_true, decide_eq_true_eq, hseen, h.size, not_and] at hgoes
          by_cases hsize : taken.length < order.size.toNat
          · exact .inr (by simpa using hgoes hsize)
          · exact .inl (by omega)
        have hfalse : s.goesOn = false := by simpa using hgoes
        rw [hfalse, Bool.not_false, if_pos rfl]
        exact h.enough (hstop.imp id .inr)

end Sampler

/-! ## Records leave samples alone -/

section Recorded

variable (service : ScrollService τ)

/-- A service that keeps a record serves the same feed. -/
theorem ScrollService.feed_recorded (scroll : String) (asked : Nat)
    (result : Except Error ScrollPage) (now : τ) (log : List Exchange) :
    service.recorded.feed scroll asked (result, now, log) =
      service.feed scroll asked (result, now) := by
  induction asked generalizing result now log with
  | zero => rfl
  | succ asked ih =>
      cases result with
      | error e => rfl
      | ok p =>
          obtain ⟨scrollId, hits⟩ := p
          cases hits with
          | nil => rfl
          | cons hit hits =>
              cases scrollId with
              | none => rfl
              | some id =>
                  have hrest : service.recorded.feed scroll asked
                      (service.recorded.next id scroll (now, log)) =
                        service.feed scroll asked (service.next id scroll now) := ih _ _ _
                  simp only [feed, hrest]

/-- A fetch does the same with a record. -/
theorem Cursor.fetch_recorded (c : Cursor) (now : τ) (log : List Exchange) :
    ∃ log', c.fetch service.recorded (now, log) =
      ((c.fetch service now).1, (c.fetch service now).2.1, (c.fetch service now).2.2, log') := by
  rw [fetch, fetch]
  split
  · exact ⟨_, rfl⟩
  · split
    · exact ⟨_, rfl⟩
    · cases c.scrollId with
      | none => exact ⟨_, rfl⟩
      | some id => exact ⟨_, rfl⟩

/-- Closing a cursor does the same with a record. -/
theorem Cursor.close_recorded (c : Cursor) (now : τ) (log : List Exchange) :
    ∃ log', c.close service.recorded (now, log) =
      ((c.close service now).1, (c.close service now).2.1, (c.close service now).2.2, log') := by
  rw [close, close]
  dsimp only
  split
  · exact ⟨_, rfl⟩
  · cases c.scrollId with
    | none => exact ⟨_, rfl⟩
    | some id =>
        rcases hrelease : service.release id now with ⟨e | done, later⟩
        · exact ⟨log ++ [.released id (.error e)], by simp [ScrollService.recorded, hrelease]⟩
        · exact ⟨log ++ [.released id (.ok done)], by simp [ScrollService.recorded, hrelease]⟩

/-- Looking at documents does the same with a record. -/
theorem Sampler.run_recorded (steps : Nat) (s : Sampler) (now : τ) (log : List Exchange) :
    ∃ log', s.run service.recorded steps (now, log) =
      ((s.run service steps now).1, (s.run service steps now).2.1, (s.run service steps now).2.2,
        log') := by
  induction steps generalizing s now log with
  | zero => exact ⟨log, rfl⟩
  | succ steps ih =>
      rw [run, run]
      split
      · exact ⟨log, rfl⟩
      · split
        · split
          · exact ⟨log, rfl⟩
          · obtain ⟨log', hfetch⟩ := s.cursor.fetch_recorded service now log
            rw [hfetch]
            rcases s.cursor.fetch service now with ⟨e | count, c', later⟩
            · exact ⟨log', rfl⟩
            · exact ih _ later log'
        · dsimp only
          split
          · exact ih _ now log
          · exact ⟨log, rfl⟩

/-- What the end of the sampling comes to is the same with a record, which it leaves alone. -/
theorem Sampler.tolerate_recorded (index : String) (seen : Nat) (now : τ) (log : List Exchange)
    (outcome : Except Error Unit) :
    tolerate service.recorded index seen (now, log) outcome =
      ((tolerate service index seen now outcome).1, (tolerate service index seen now outcome).2,
        log) := by
  cases outcome with
  | ok _ => rfl
  | error e =>
      rw [tolerate, tolerate]
      split
      · rfl
      · rfl

/-- A finished sample is the same with a record. -/
theorem Sampler.finish_recorded (s : Sampler) (now : τ) (log : List Exchange) :
    ∃ log', s.finish service.recorded (now, log) =
      ((s.finish service now).1, (s.finish service now).2, log') := by
  obtain ⟨ran, hrun⟩ := s.run_recorded service s.stepBound now log
  rw [finish, finish, hrun]
  rcases s.run service s.stepBound now with ⟨outcome, s', later⟩
  dsimp only
  rw [tolerate_recorded]
  rcases tolerate service s.cursor.search.index s'.sample.seen later outcome with ⟨outcome', mid⟩
  obtain ⟨closed, hclose⟩ := s'.cursor.close_recorded service mid ran
  dsimp only
  rw [hclose]
  rcases s'.cursor.close service mid with ⟨e | _, c', last⟩
  · exact ⟨closed, rfl⟩
  · cases outcome' with
    | error e => exact ⟨closed, rfl⟩
    | ok _ => exact ⟨closed, rfl⟩

/-- A service that releases quietly does so with a record. -/
theorem ScrollService.ReleasesQuietly.recorded {service : ScrollService τ}
    (h : service.ReleasesQuietly) : service.recorded.ReleasesQuietly :=
  fun id state => h id state.1

end Recorded

/-! ## Whole samples -/

/-- **What the loop comes to is what the sample comes to**, with a failure of the cluster left out, and
the scroll is released. -/
theorem Sampler.finish_of_run {service : ScrollService τ} (hquiet : service.ReleasesQuietly)
    {s s' : Sampler} {now later : τ} {log log' : List Exchange} {outcome : Except Error Unit}
    {search : Search}
    (hrun : s.run service.recorded s.stepBound (now, log) = (outcome, s', later, log'))
    (htied : s'.cursor.Tied search log') :
    ∃ last release, s.finish service.recorded (now, log) =
        ((tolerate service s.cursor.search.index s'.sample.seen later outcome).1.map fun _ =>
          s'.sample, last, log' ++ release) ∧
      Releases (lastId log') release := by
  rw [finish, hrun]
  dsimp only
  rw [tolerate_recorded]
  rcases tolerate service s.cursor.search.index s'.sample.seen later outcome with ⟨outcome', mid⟩
  obtain ⟨c', ⟨last, all⟩, hclose⟩ := s'.cursor.close_of_quiet hquiet.recorded (mid, log')
  obtain ⟨release, rfl, hreleases⟩ := htied.close hclose
  dsimp only
  rw [hclose]
  cases outcome' with
  | error e => exact ⟨last, release, rfl, hreleases⟩
  | ok _ => exact ⟨_, release, rfl, hreleases⟩

namespace SampleOrder

/-- The sampler that a sample begins with. -/
def sampler (order : SampleOrder) : Sampler :=
  { paths := .ofMapped order.mapped
    size := order.size.toNat
    pending := order.paths.eraseDups
    cursor := { search := order.search } }

/-- With documents and paths to look at, a sample is what its sampler comes to. -/
theorem take_eq {order : SampleOrder} (hsize : 0 < order.size) (hpaths : order.paths ≠ [])
    (service : ScrollService τ) : order.take service = order.sampler.finish service := by
  rw [take, if_neg]
  · rfl
  · simp [hpaths, hsize]

/-- What a sample comes to on the documents of a feed, with what the requests for pages failed with.
-/
inductive Samples (order : SampleOrder) (documents : List Json) (ending : FeedEnd) :
    List Error → Except Error Sample → Prop where
  /-- No request fails: what the documents reveal that were looked at, all of the first documents
  reveal, as many as were to be looked at. -/
  | whole {sample : Sample} (hdocuments : sample.seen ≤ documents.length)
      (hsize : sample.seen ≤ order.size.toNat)
      (hlooked : order.Reveals (documents.take sample.seen) sample)
      (hall : order.Reveals (documents.take order.size.toNat) sample) :
      Samples order documents ending [] (.ok sample)
  /-- A request fails because of the cluster: the sample says what the documents before reveal. -/
  | cutShort {e : Error} {sample : Sample}
      (hfamily : e.family = .transport ∨ e.family = .decode) (hending : ending = .failed e)
      (hdocuments : sample.seen = documents.length) (hsize : sample.seen < order.size.toNat)
      (hlooked : order.Reveals documents sample) :
      Samples order documents ending [e] (.ok sample)
  /-- A request fails for another reason, and the sample with it. -/
  | broken {e : Error} (hfamily : ¬ (e.family = .transport ∨ e.family = .decode))
      (hending : ending = .failed e) : Samples order documents ending [e] (.error e)

/-- The failures that only end the sampling are those of the cluster. -/
theorem isTolerated_iff {e : Error} :
    Sampler.isTolerated e = true ↔ e.family = .transport ∨ e.family = .decode := by
  rw [Sampler.isTolerated]
  split <;> simp_all

/-- A sample begins with a sampler at work on the whole feed. -/
theorem active_sampler {order : SampleOrder} {service : ScrollService τ} {state : τ} {asked : Nat}
    {hits : List (List (String × Json))} (hasked : order.size.toNat ≤ asked)
    (hhits : (order.feed service asked state).hits = hits.map .obj) :
    Sampler.Active service order (order.feed service asked state).ending asked [] hits order.sampler
      state [] := by
  have hcoming : order.sampler.cursor.coming service.recorded asked (state, []) =
      order.feed service asked state := service.feed_recorded order.scroll asked _ _ _
  refine ⟨rfl, Nat.zero_le _, ⟨rfl, rfl, ?_, ?_, ?_⟩, ?_, ?_, ?_, ?_, rfl⟩
  · simp [sampler]
  · simp [sampler]
  · simp [sampler]
  · rw [hcoming, hhits]
    rfl
  · rw [hcoming]
  · omega
  · exact ⟨rfl, rfl, .none, rfl, fun _ => rfl⟩

/-- **What the loop comes to is what a sample comes to**, once a failure of the cluster is left out. -/
theorem samples_of_ends {order : SampleOrder} {hits : List (List (String × Json))}
    {ending : FeedEnd} {outcome : Except Error Unit} {s : Sampler} {now : τ} {log : List Exchange}
    (h : Sampler.Ends order hits ending (outcome, s, now, log)) (service : ScrollService τ)
    (index : String) :
    order.Samples (hits.map RowDecoder.sourceOfHit) ending (failures log)
      ((Sampler.tolerate service index s.sample.seen now outcome).1.map fun _ => s.sample) := by
  cases h with
  | @enough taken rest _ _ _ hhits hbound hknows hall _ hfailures =>
      -- a document was looked at for each hit that was taken
      have hseen : s.sample.seen = taken.length := by
        rw [hknows.seen, List.length_map]
      rw [hfailures]
      refine .whole ?_ (hseen ▸ hbound) ?_ (List.map_take ▸ hall)
      · rw [hseen, hhits, List.length_map, List.length_append]
        exact Nat.le_add_right _ _
      · rw [hseen, hhits, ← List.map_take, List.take_left]
        exact hknows.reveals
  | @failed e _ _ _ hending hbound hknows _ hfailures =>
      have hseen : s.sample.seen = hits.length := by
        rw [hknows.seen, List.length_map]
      rw [hfailures, Sampler.tolerate]
      by_cases htolerated : Sampler.isTolerated e = true
      · rw [if_pos htolerated]
        refine .cutShort (isTolerated_iff.1 htolerated) hending ?_ (hseen ▸ hbound) hknows.reveals
        rw [hseen, List.length_map]
      · rw [if_neg htolerated]
        exact .broken (mt isTolerated_iff.2 htolerated) hending

/-- **What a sample reveals does not depend on pages or on an early stop.** On a feed of hits a sample
comes to what `Samples` says, whatever the pages are. Its requests are those of one search: fetches,
and then one release of the id that came last, if one came. -/
theorem take_samples {order : SampleOrder} {service : ScrollService τ} {state : τ} {asked : Nat}
    {hits : List (List (String × Json))} (hsize : 0 < order.size) (hpaths : order.paths ≠ [])
    (hquiet : service.ReleasesQuietly) (hasked : order.size.toNat ≤ asked)
    (hhits : (order.feed service asked state).hits = hits.map .obj) :
    ∃ outcome later fetches release,
      order.take service state = (outcome, later) ∧
      order.take service.recorded (state, []) = (outcome, later, fetches ++ release) ∧
      order.Samples (hits.map RowDecoder.sourceOfHit) (order.feed service asked state).ending
        (failures fetches) outcome ∧
      Fetches order.search fetches ∧ Releases (lastId fetches) release := by
  have hends : Sampler.Ends order hits (order.feed service asked state).ending
      (order.sampler.run service.recorded order.sampler.stepBound (state, [])) := by
    refine (active_sampler hasked hhits).ends ?_
    have hbound : order.sampler.stepBound = 2 * order.size.toNat + 3 := rfl
    omega
  rcases hrun : order.sampler.run service.recorded order.sampler.stepBound (state, []) with
    ⟨outcome, s, now, fetches⟩
  rw [hrun] at hends
  have htied := hends.tied
  obtain ⟨later, release, hfinish, hreleases⟩ := Sampler.finish_of_run hquiet hrun htied
  -- the same without a record
  obtain ⟨log, hrecorded⟩ := order.sampler.finish_recorded service state []
  rw [hfinish] at hrecorded
  obtain ⟨hresult, hrest⟩ := Prod.mk.inj hrecorded
  obtain ⟨hlater, -⟩ := Prod.mk.inj hrest
  have hsamples := samples_of_ends hends service order.sampler.cursor.search.index
  refine ⟨_, later, fetches, release, ?_, ?_, hsamples, htied.fetches, hreleases⟩
  · rw [take_eq hsize hpaths]
    exact Prod.ext hresult.symm hlater.symm
  · rw [take_eq hsize hpaths, hfinish]

/-- A page with an array, and a second page that is malformed: one document is looked at. -/
theorem take_samples_malformed_page :
    let hit : List (String × Json) := [("_source", .obj [("tags", .arr []), ("more", .null)])]
    let service : ScrollService Unit :=
      { start := fun _ => pure ⟨some "s", [.obj hit]⟩
        next := fun _ _ => throw .hitsNotArray
        release := fun _ => pure true
        log := fun _ state => state }
    let order : SampleOrder :=
      { index := "docs"
        paths := ["tags", "user"]
        mapped := ["tags", "user"]
        baseQuery := none
        size := 3
        pageSize := 1
        scroll := "1m" }
    let sample : Sample := { arrays := ["tags"], hasUnmapped := true, seen := 1 }
    order.take service () = (.ok sample, ()) ∧ ∃ fetches release,
      order.take service.recorded ((), []) = (.ok sample, (), fetches ++ release) ∧
      order.Samples [RowDecoder.sourceOfHit hit] (.failed .hitsNotArray) (failures fetches)
        (.ok sample) ∧
      Fetches order.search fetches ∧ Releases (lastId fetches) release := by
  intro hit service order sample
  have htake : order.take service () = (.ok sample, ()) := by
    dsimp only [order, service, hit, sample]
    rfl
  have hquiet : service.ReleasesQuietly := fun _ _ => ⟨true, rfl⟩
  have hhits : (order.feed service 3 ()).hits = [hit].map .obj := rfl
  obtain ⟨outcome, later, fetches, release, hplain, hrecorded, hsamples, hfetches, hreleases⟩ :=
    take_samples (by decide) (by decide) hquiet (by decide) hhits
  rw [htake] at hplain
  obtain ⟨rfl, -⟩ := Prod.mk.inj hplain
  exact ⟨htake, fetches, release, hrecorded, hsamples, hfetches, hreleases⟩

end SampleOrder

end SearchTables
