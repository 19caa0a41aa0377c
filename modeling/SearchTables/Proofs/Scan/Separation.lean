import SearchTables.Proofs.Scan.Lifecycle
import Mathlib.Data.Option.Defs
import Mathlib.Data.Set.Defs

/-! # Separation — scrolls with answers of their own

A service **separates** its scrolls when each of them has its own answers: a request for a page of one
scroll takes the next of its answers and leaves those of all others alone, and a scroll that is opened
gets an id that was not handed out before. Several scans may share such a service, each with its own
scroll. What one of them does then looks to it as if there were no other (`Scan.Held.advance`): its steps
are those of a scan on a service of one scroll (`ScrollService.sole`), but for the names of the ids, and
they leave the scrolls of the others alone (`Ledger.Goes`). -/

namespace SearchTables

variable {τ ι : Type}

/-! ## Answers -/

/-- What a scroll answers to the requests for its pages, one after the other: the hits of a page and
whether the scroll goes on, or a failure. -/
abbrev ScrollAnswers := Nat → Except Error (List Json × Bool)

/-- The answers after the first one. -/
def ScrollAnswers.rest (a : ScrollAnswers) : ScrollAnswers := fun n => a (n + 1)

namespace ScrollPage

/-- A page but for its id: the hits, and whether the scroll goes on. -/
def content (p : ScrollPage) : List Json × Bool := (p.hits, p.scrollId.isSome)

/-- A page under an id that tells nothing. -/
def anonymous (p : ScrollPage) : ScrollPage := ⟨p.scrollId.map fun _ => "", p.hits⟩

end ScrollPage

/-- The id under which a scroll goes on: that of the page, or the one it had when there is no page. -/
def goingId (old : Option String) : Except Error ScrollPage → Option String
  | .ok p => p.scrollId
  | .error _ => old

/-! ## Services that separate their scrolls -/

/-- A **ledger** reads off the state of a service which ids were handed out and which answers are left
for each of them, in the states that the service is ready in. -/
structure Ledger (τ : Type) where
  ready : τ → Prop
  known : τ → String → Prop
  left : τ → String → Option ScrollAnswers

namespace Ledger

variable (b : Ledger τ)

/-- A change of the state **spares** all ids but some: the answers of the others are left alone. -/
structure Spares (own : String → Prop) (state later : τ) : Prop where
  ready : b.ready later
  known : ∀ {id}, b.known state id → b.known later id
  left : ∀ {id}, ¬ own id → b.left later id = b.left state id

/-- A request for a page takes the first of some answers. The scroll goes on with the others, under the id
that it had or under a new one. -/
structure Answered (old : Option String) (a : ScrollAnswers) (state : τ)
    (answer : Except Error ScrollPage) (later : τ) : Prop where
  content : answer.map ScrollPage.content = a 0
  fresh : ∀ {id}, goingId old answer = some id → some id = old ∨ ¬ b.known state id
  known : ∀ {id}, goingId old answer = some id → b.known later id
  left : ∀ {id}, goingId old answer = some id → b.left later id = some a.rest
  spares : b.Spares (fun id => some id = old ∨ goingId old answer = some id) state later

/-- What spares all ids but some spares all but those and others. -/
theorem Spares.mono {b : Ledger τ} {own own' : String → Prop} {state later : τ}
    (h : b.Spares own state later) (hown : ∀ {id}, own id → own' id) : b.Spares own' state later :=
  ⟨h.ready, h.known, fun hid => h.left fun hmine => hid (hown hmine)⟩

/-- Two changes spare what each of them does. -/
theorem Spares.trans {b : Ledger τ} {own : String → Prop} {state mid later : τ}
    (h : b.Spares own state mid) (h' : b.Spares own mid later) : b.Spares own state later :=
  ⟨h'.ready, fun hid => h'.known (h.known hid), fun hid => (h'.left hid).trans (h.left hid)⟩

end Ledger

/-- A service **separates** its scrolls, for some searches: opening one gives answers that depend on the
search alone, and every request for a page takes the next answer of its scroll. Releasing a scroll comes
to the same whichever it is. -/
structure ScrollService.Separates (service : ScrollService τ) (b : Ledger τ) (searches : Set Search)
    (opening : Search → ScrollAnswers) (closing : Except Error Unit) : Prop where
  start : ∀ {q state answer later}, q ∈ searches → b.ready state →
    service.start q state = (answer, later) → b.Answered none (opening q) state answer later
  next : ∀ {q id a state answer later}, q ∈ searches → b.ready state → b.known state id →
    b.left state id = some a → service.next id q.scroll state = (answer, later) →
      b.Answered (some id) a state answer later
  release : ∀ {id state answer later}, b.ready state → b.known state id →
    service.release id state = (answer, later) →
      answer.map (fun _ => ()) = closing ∧ b.Spares (· = id) state later
  log : ∀ record {state}, b.ready state → b.Spares (fun _ => False) state (service.log record state)

/-! ## Records of who did what -/

/-- A service that is shared keeps, beside its state, a record of who made which exchange. -/
def ScrollService.recordedBy (service : ScrollService τ) (k : ι) :
    ScrollService (τ × List (ι × Exchange)) where
  start search := fun (state, log) =>
    let (answer, state) := service.start search state
    (answer, state, log ++ [(k, .started search answer)])
  next id keep := fun (state, log) =>
    let (answer, state) := service.next id keep state
    (answer, state, log ++ [(k, .continued id keep answer)])
  release id := fun (state, log) =>
    let (answer, state) := service.release id state
    (answer, state, log ++ [(k, .released id answer)])
  log record := fun (state, log) => (service.log record state, log)

namespace ScrollService

variable {service : ScrollService τ} {k : ι} {state later : τ} {l : List (ι × Exchange)}

/-- Opening a scroll is recorded. -/
theorem recordedBy_start {q : Search} {answer : Except Error ScrollPage}
    (h : service.start q state = (answer, later)) :
    (service.recordedBy k).start q (state, l) = (answer, later, l ++ [(k, .started q answer)]) := by
  simp only [recordedBy, h]

/-- Going on with a scroll is recorded. -/
theorem recordedBy_next {id keep : String} {answer : Except Error ScrollPage}
    (h : service.next id keep state = (answer, later)) :
    (service.recordedBy k).next id keep (state, l) =
      (answer, later, l ++ [(k, .continued id keep answer)]) := by
  simp only [recordedBy, h]

/-- Releasing a scroll is recorded. -/
theorem recordedBy_release {id : String} {answer : Except Error Bool}
    (h : service.release id state = (answer, later)) :
    (service.recordedBy k).release id (state, l) =
      (answer, later, l ++ [(k, .released id answer)]) := by
  simp only [recordedBy, h]

end ScrollService

/-- An id came to someone with a page. -/
def Issued (log : List (ι × Exchange)) (k : ι) (id : String) : Prop :=
  ∃ exchange, (k, exchange) ∈ log ∧ exchange.pageId? = some id

/-- One more exchange may bring one more id. -/
theorem issued_concat {log : List (ι × Exchange)} {k k' : ι} {exchange : Exchange} {id : String} :
    Issued (log ++ [(k', exchange)]) k id ↔
      Issued log k id ∨ k = k' ∧ exchange.pageId? = some id := by
  constructor
  · rintro ⟨found, hmem, hid⟩
    rcases List.mem_append.1 hmem with hmem | hmem
    · exact .inl ⟨found, hmem, hid⟩
    · obtain ⟨rfl, rfl⟩ := Prod.mk.inj (List.mem_singleton.1 hmem)
      exact .inr ⟨rfl, hid⟩
  · rintro (⟨found, hmem, hid⟩ | ⟨rfl, hid⟩)
    · exact ⟨found, List.mem_append_left _ hmem, hid⟩
    · exact ⟨exchange, by simp, hid⟩

namespace Ledger

variable {b : Ledger τ} {k : ι} {w w' w'' : τ × List (ι × Exchange)}

/-- A state and its record are **sound**: ids that came with pages are known, each came to one only, and
whoever released an id had it from a page. -/
structure Sound (b : Ledger τ) (w : τ × List (ι × Exchange)) : Prop where
  ready : b.ready w.1
  known : ∀ {k id}, Issued w.2 k id → b.known w.1 id
  unique : ∀ {k k' id}, Issued w.2 k id → Issued w.2 k' id → k' = k
  released : ∀ {k id answer}, (k, .released id answer) ∈ w.2 → Issued w.2 k id

/-- Nothing was done yet. -/
theorem sound_of_ready {state : τ} (h : b.ready state) : b.Sound (state, ([] : List (ι × Exchange))) where
  ready := h
  known := by rintro k id ⟨_, hmem, -⟩; cases hmem
  unique := by rintro k k' id ⟨_, hmem, -⟩; cases hmem
  released hmem := by cases hmem

/-- What **goes** on for someone leaves the state and the record sound and the scrolls of all others
alone. -/
structure Goes (b : Ledger τ) (k : ι) (w w' : τ × List (ι × Exchange)) : Prop where
  sound : b.Sound w'
  issued : ∀ {k' id}, Issued w.2 k' id → Issued w'.2 k' id
  left : ∀ {k' id}, k' ≠ k → Issued w.2 k' id → b.left w'.1 id = b.left w.1 id

/-- Nothing goes on. -/
theorem Goes.refl (h : b.Sound w) : b.Goes k w w := ⟨h, fun h => h, fun _ _ => rfl⟩

/-- One thing goes on after the other. -/
theorem Goes.trans (h : b.Goes k w w') (h' : b.Goes k w' w'') : b.Goes k w w'' where
  sound := h'.sound
  issued hid := h'.issued (h.issued hid)
  left hne hid := (h'.left hne (h.issued hid)).trans (h.left hne hid)

variable {state later : τ} {log : List (ι × Exchange)} {own : String → Prop} {exchange : Exchange}

/-- An exchange that spares the ids of all others goes on for the one who makes it. -/
theorem Sound.goes_concat (h : b.Sound (state, log)) (hspares : b.Spares own state later)
    (hown : ∀ {k' id}, own id → Issued log k' id → k' = k)
    (hknown : ∀ {id}, exchange.pageId? = some id → b.known later id)
    (hpage : ∀ {k' id}, exchange.pageId? = some id → Issued log k' id → k' = k)
    (hreleased : ∀ {id answer}, exchange = .released id answer → Issued log k id) :
    b.Goes k (state, log) (later, log ++ [(k, exchange)]) where
  sound :=
    -- an id came before, where nothing changed, or it comes with this exchange
    { ready := hspares.ready
      known := by
        intro k' id hid
        rcases issued_concat.1 hid with hid | ⟨-, hid⟩
        · exact hspares.known (h.known hid)
        · exact hknown hid
      unique := by
        intro k₁ k₂ id hfirst hsecond
        rcases issued_concat.1 hfirst with hbefore | ⟨rfl, hnow⟩
        · rcases issued_concat.1 hsecond with hbefore' | ⟨rfl, hnow⟩
          · exact h.unique hbefore hbefore'
          · exact (hpage hnow hbefore).symm
        · rcases issued_concat.1 hsecond with hbefore | ⟨rfl, -⟩
          · exact hpage hnow hbefore
          · rfl
      released := by
        intro k' id answer hmem
        refine issued_concat.2 (.inl ?_)
        rcases List.mem_append.1 hmem with hmem | hmem
        · exact h.released hmem
        · obtain ⟨rfl, hexchange⟩ := Prod.mk.inj (List.mem_singleton.1 hmem)
          exact hreleased hexchange.symm }
  issued hid := issued_concat.2 (.inl hid)
  left hne hid := hspares.left fun hmine => hne (hown hmine hid)

/-- A log record goes on for everyone. -/
theorem Sound.goes_of_spares (h : b.Sound (state, log))
    (hspares : b.Spares (fun _ => False) state later) : b.Goes k (state, log) (later, log) where
  sound := ⟨hspares.ready, fun hid => hspares.known (h.known hid), h.unique, h.released⟩
  issued hid := hid
  left _ _ := hspares.left fun hno => hno

/-- **A request for a page goes on for the one who makes it**, if the scroll is its own: the scroll goes
on under an id that came to no other. -/
theorem Sound.goes_of_answered (h : b.Sound (state, log)) {old : Option String} {a : ScrollAnswers}
    {answer : Except Error ScrollPage} (hanswered : b.Answered old a state answer later)
    (hold : ∀ {id}, old = some id → Issued log k id)
    (hpage : exchange.pageId? = answer.toOption.bind (·.scrollId))
    (hrequest : ∀ id answer, exchange ≠ .released id answer) :
    b.Goes k (state, log) (later, log ++ [(k, exchange)]) ∧
      ∀ {id}, goingId old answer = some id →
        Issued (log ++ [(k, exchange)]) k id ∧ b.left later id = some a.rest := by
  -- whoever else had the id before would have made it known
  have hmine : ∀ {k' id}, goingId old answer = some id → Issued log k' id → k' = k := by
    intro k' id hgoing hid
    rcases hanswered.fresh hgoing with hold' | hunknown
    · exact h.unique (hold hold'.symm) hid
    · exact absurd (h.known hid) hunknown
  have hgoing : ∀ {id}, exchange.pageId? = some id → goingId old answer = some id := by
    intro id hid
    cases answer with
    | error e => simp [hpage, Except.toOption] at hid
    | ok p => exact hpage.symm.trans hid
  refine ⟨h.goes_concat hanswered.spares ?_ (fun hid => hanswered.known (hgoing hid))
    (fun hid => hmine (hgoing hid)) fun hexchange => absurd hexchange (hrequest _ _), ?_⟩
  · rintro k' id (hown | hown) hid
    · exact h.unique (hold hown.symm) hid
    · exact hmine hown hid
  · intro id hid
    refine ⟨issued_concat.2 ?_, hanswered.left hid⟩
    cases answer with
    | error e => exact .inl (hold hid)
    | ok p => exact .inr ⟨rfl, hpage.trans hid⟩

end Ledger

/-! ## A service of one scroll -/

/-- The page that the first of some answers comes to, under an id that tells nothing. -/
def ScrollAnswers.take (a : ScrollAnswers) : Except Error ScrollPage × Option ScrollAnswers :=
  ((a 0).map fun (hits, goesOn) => ⟨if goesOn then some "" else none, hits⟩, some a.rest)

/-- A service of one scroll, whose state is the answers that it has left. Its ids tell nothing. -/
def ScrollService.sole (opening : Search → ScrollAnswers) (closing : Except Error Unit) :
    ScrollService (Option ScrollAnswers) where
  start q _ := (opening q).take
  next _ _ := fun
    | some a => a.take
    | none => (.error .badState, none)
  release _ u := (closing.map fun _ => true, u)
  log _ u := u

/-- The first of some answers, as it was given under an id. -/
theorem ScrollAnswers.take_eq {a : ScrollAnswers} {answer : Except Error ScrollPage}
    (h : answer.map ScrollPage.content = a 0) :
    a.take = (answer.map ScrollPage.anonymous, some a.rest) := by
  rw [take, ← h]
  cases answer with
  | error e => rfl
  | ok p =>
      obtain ⟨_ | id, hits⟩ := p <;> rfl

/-- Something makes requests on a shared service and, but for the names of ids, on a service of one
scroll: both come to the same, and what was held of it is held still. -/
inductive Simulates {α X : Type} (b : Ledger τ) (k : ι)
    (held : X → τ × List (ι × Exchange) → Option ScrollAnswers → Prop) (anonymous : X → X)
    (w : τ × List (ι × Exchange)) :
    α × X × τ × List (ι × Exchange) → α × X × Option ScrollAnswers → Prop where
  | intro {outcome : α} {x : X} {w' : τ × List (ι × Exchange)} {u : Option ScrollAnswers}
      (hheld : held x w' u) (hgoes : b.Goes k w w') :
      Simulates b k held anonymous w (outcome, x, w') (outcome, anonymous x, u)

/-- Requests that come after others that went on. -/
theorem Simulates.after {α X : Type} {b : Ledger τ} {k : ι}
    {held : X → τ × List (ι × Exchange) → Option ScrollAnswers → Prop} {anonymous : X → X}
    {w w' : τ × List (ι × Exchange)} {shared : α × X × τ × List (ι × Exchange)}
    {sole : α × X × Option ScrollAnswers} (h : Simulates b k held anonymous w' shared sole)
    (hgoes : b.Goes k w w') : Simulates b k held anonymous w shared sole := by
  obtain ⟨hheld, hgoes'⟩ := h
  exact .intro hheld (hgoes.trans hgoes')

/-! ## Cursors -/

namespace Cursor

/-- A cursor but for the name of its id. -/
def anonymous (c : Cursor) : Cursor := { c with scrollId := c.scrollId.map fun _ => "" }

/-- What the service has for a cursor: its id came to no one else, and as long as the cursor goes on the
answers left for the id are those of the sole scroll. -/
structure Held (b : Ledger τ) (searches : Set Search) (k : ι) (c : Cursor)
    (w : τ × List (ι × Exchange)) (u : Option ScrollAnswers) : Prop where
  search : c.search ∈ searches
  issued : ∀ {id}, c.scrollId = some id → Issued w.2 k id
  left : ∀ {id}, c.scrollId = some id → c.finished = false →
    ∃ a, u = some a ∧ b.left w.1 id = some a
  unopened : c.opened = false → c.scrollId = none

/-- A cursor takes a page but for the name of its id. -/
theorem anonymous_received (c : Cursor) (answer : Except Error ScrollPage) :
    c.anonymous.received (answer.map ScrollPage.anonymous) =
      ((c.received answer).1, (c.received answer).2.anonymous) := by
  cases answer with
  | error e => rfl
  | ok p =>
      obtain ⟨_ | id, hits⟩ := p
      · rfl
      · cases hid : c.scrollId <;>
          simp [received, receive, anonymous, ScrollPage.anonymous, Except.map, hid]

variable {b : Ledger τ} {searches : Set Search} {k : ι} {c : Cursor}
  {w w' : τ × List (ι × Exchange)} {u : Option ScrollAnswers}

/-- What one goes on with leaves alone what the service has for the cursors of others. -/
theorem Held.of_goes (h : c.Held b searches k w u) {k' : ι} (hne : k ≠ k') (hgoes : b.Goes k' w w') :
    c.Held b searches k w' u where
  search := h.search
  issued hid := hgoes.issued (h.issued hid)
  left hid hfinished := by
    obtain ⟨a, ha, hleft⟩ := h.left hid hfinished
    exact ⟨a, ha, (hgoes.left hne (h.issued hid)).trans hleft⟩
  unopened := h.unopened

/-- An answer leaves a cursor with the id under which its scroll goes on. -/
theorem Held.received (h : c.Held b searches k w u) (hgoes : b.Goes k w w') (hopened : c.opened = true)
    {answer : Except Error ScrollPage} {a : ScrollAnswers}
    (hgoing : ∀ {id}, goingId c.scrollId answer = some id →
      Issued w'.2 k id ∧ b.left w'.1 id = some a) :
    (c.received answer).2.Held b searches k w' (some a) := by
  cases answer with
  | error e =>
      exact ⟨h.search, fun hid => hgoes.issued (h.issued hid),
        fun hid _ => ⟨a, rfl, (hgoing hid).2⟩, h.unopened⟩
  | ok p =>
      obtain ⟨_ | id, hits⟩ := p
      · -- without an id the cursor keeps the one that it has, and is finished
        refine ⟨h.search, fun hid => hgoes.issued (h.issued hid), fun _ hfinished => ?_, ?_⟩
        · simp [Cursor.received, receive] at hfinished
        · exact h.unopened
      · refine ⟨h.search, fun hid => (hgoing hid).1, fun hid _ => ⟨a, rfl, (hgoing hid).2⟩, ?_⟩
        intro hunopened
        exact absurd (hopened.symm.trans hunopened) (by simp)

/-- A cursor that is finished needs no answers, so nothing of it is lost when it has its id or none. -/
theorem Held.of_finished (h : c.Held b searches k w u) (hgoes : b.Goes k w w') {d : Cursor}
    (hsearch : d.search = c.search) (hfinished : d.finished = true) (hopened : d.opened = c.opened)
    (hid : d.scrollId = c.scrollId ∨ d.scrollId = none) : d.Held b searches k w' u where
  search := hsearch ▸ h.search
  issued hissued := by
    rcases hid with hid | hid
    · exact hgoes.issued (h.issued (hid.symm.trans hissued))
    · exact absurd (hid.symm.trans hissued) (by simp)
  left _ hgoing := absurd (hfinished.symm.trans hgoing) (by simp)
  unopened hunopened := by
    rcases hid with hid | hid
    · exact hid.trans (h.unopened (hopened ▸ hunopened))
    · exact hid

section Separates

variable {service : ScrollService τ} {opening : Search → ScrollAnswers} {closing : Except Error Unit}

/-- A log record leaves alone what the service has for a cursor. -/
theorem Held.of_log (hs : service.Separates b searches opening closing)
    (h : c.Held b searches k w u) (hsound : b.Sound w) (record : LogRecord) :
    c.Held b searches k ((service.recordedBy k).log record w) u where
  search := h.search
  issued := h.issued
  left hid hfinished := by
    obtain ⟨a, ha, hleft⟩ := h.left hid hfinished
    exact ⟨a, ha, ((hs.log record hsound.ready).left not_false).trans hleft⟩
  unopened := h.unopened

/-- A fetch that goes on with a scroll. -/
theorem Held.fetch_next (hs : service.Separates b searches opening closing)
    (h : c.Held b searches k w u) (hsound : b.Sound w) (hgoing : c.finished = false)
    (hopened : c.opened = true) {id : String} (hid : c.scrollId = some id) :
    Simulates b k (Held b searches k) anonymous w (c.fetch (service.recordedBy k) w)
      (c.anonymous.fetch (.sole opening closing) u) := by
  obtain ⟨state, log⟩ := w
  obtain ⟨a, rfl, hleft⟩ := h.left hid hgoing
  rcases hnext : service.next id c.search.scroll state with ⟨answer, later⟩
  have hanswered := hs.next h.search hsound.ready (hsound.known (h.issued hid)) hleft hnext
  have hid' : c.anonymous.scrollId = some "" := by rw [anonymous, hid]; rfl
  rw [fetch_continues hgoing hopened hid (ScrollService.recordedBy_next hnext),
    fetch_continues (c := c.anonymous) hgoing hopened hid' (ScrollAnswers.take_eq hanswered.content),
    anonymous_received]
  obtain ⟨hgoes, hissued⟩ := hsound.goes_of_answered hanswered
    (fun hold => Option.some.inj hold ▸ h.issued hid)
    (Exchange.pageId?_continued id c.search.scroll answer) (by simp)
  exact .intro (h.received hgoes hopened (hid ▸ hissued)) hgoes

/-- A fetch that opens a scroll. -/
theorem Held.fetch_start (hs : service.Separates b searches opening closing)
    (h : c.Held b searches k w u) (hsound : b.Sound w) (hgoing : c.finished = false)
    (hunopened : c.opened = false) :
    Simulates b k (Held b searches k) anonymous w (c.fetch (service.recordedBy k) w)
      (c.anonymous.fetch (.sole opening closing) u) := by
  obtain ⟨state, log⟩ := w
  rcases hstart : service.start c.search state with ⟨answer, later⟩
  have hanswered := hs.start h.search hsound.ready hstart
  have hsole : (ScrollService.sole opening closing).start c.anonymous.search u =
      (answer.map ScrollPage.anonymous, some (opening c.search).rest) :=
    ScrollAnswers.take_eq hanswered.content
  have hreceived : { c.anonymous with opened := true }.received (answer.map ScrollPage.anonymous) =
      ((Cursor.received { c with opened := true } answer).1,
        (Cursor.received { c with opened := true } answer).2.anonymous) :=
    anonymous_received { c with opened := true } answer
  rw [fetch_opens hgoing hunopened (ScrollService.recordedBy_start hstart),
    fetch_opens (c := c.anonymous) hgoing hunopened hsole, hreceived]
  obtain ⟨hgoes, hissued⟩ := hsound.goes_of_answered hanswered (by simp)
    (Exchange.pageId?_started c.search answer) (by simp)
  -- a cursor that was not opened has no id yet
  have hheld : { c with opened := true }.Held b searches k (state, log) u :=
    ⟨h.search, h.issued, h.left, fun hno => by cases hno⟩
  have hnone : c.scrollId = none := h.unopened hunopened
  exact .intro (hheld.received hgoes rfl (hnone ▸ hissued)) hgoes

/-- **A fetch goes on as it would on a service of one scroll.** -/
theorem Held.fetch (hs : service.Separates b searches opening closing) (h : c.Held b searches k w u)
    (hsound : b.Sound w) :
    Simulates b k (Held b searches k) anonymous w (c.fetch (service.recordedBy k) w)
      (c.anonymous.fetch (.sole opening closing) u) := by
  -- a cursor is idle, it goes on with its scroll, or it opens one
  by_cases hdone : c.finished = true ∨ c.opened = true ∧ c.scrollId = none
  · have hdone' : c.anonymous.finished = true ∨
        c.anonymous.opened = true ∧ c.anonymous.scrollId = none :=
      hdone.imp_right fun ⟨hopened, hid⟩ => ⟨hopened, by rw [anonymous, hid]; rfl⟩
    rw [fetch_idle hdone, fetch_idle hdone']
    exact .intro ⟨h.search, h.issued, fun _ hfinished => (by cases hfinished), h.unopened⟩
      (.refl hsound)
  obtain ⟨hfinished, hid⟩ := not_or.1 hdone
  have hgoing : c.finished = false := by simpa using hfinished
  by_cases hopened : c.opened = true
  · obtain ⟨id, hid⟩ : ∃ id, c.scrollId = some id :=
      Option.ne_none_iff_exists'.1 fun hnone => hid ⟨hopened, hnone⟩
    exact h.fetch_next hs hsound hgoing hopened hid
  · exact h.fetch_start hs hsound hgoing (by simpa using hopened)

/-- **Closing a cursor comes to what it comes to on a service of one scroll**, and its own scroll is
released if any. -/
theorem Held.close (hs : service.Separates b searches opening closing) (h : c.Held b searches k w u)
    (hsound : b.Sound w) :
    Simulates b k (Held b searches k) anonymous w (c.close (service.recordedBy k) w)
      (c.anonymous.close (.sole opening closing) u) := by
  obtain ⟨state, log⟩ := w
  by_cases hclosed : c.closed = true
  · have hclosed' : c.anonymous.closed = true := hclosed
    rw [close_again hclosed, close_again hclosed']
    exact .intro (h.of_finished (.refl hsound) rfl rfl rfl (.inl rfl)) (.refl hsound)
  have hunclosed : c.closed = false := by simpa using hclosed
  rcases hid : c.scrollId with - | id
  · have hid' : c.anonymous.scrollId = none := by rw [anonymous, hid]; rfl
    rw [close_bare hunclosed hid, close_bare (c := c.anonymous) hunclosed hid']
    exact .intro (h.of_finished (.refl hsound) rfl rfl rfl (.inl rfl)) (.refl hsound)
  -- there is a scroll to release, and it came to no other
  have hid' : c.anonymous.scrollId = some "" := by rw [anonymous, hid]; rfl
  rcases hrelease : service.release id state with ⟨answer, later⟩
  have hissued := h.issued hid
  obtain ⟨hanswer, hspares⟩ := hs.release hsound.ready (hsound.known hissued) hrelease
  have hshared := ScrollService.recordedBy_release (k := k) (l := log) hrelease
  have hgoes : b.Goes k (state, log) (later, log ++ [(k, .released id answer)]) := by
    refine hsound.goes_concat hspares ?_ (by simp [Exchange.pageId?]) (by simp [Exchange.pageId?]) ?_
    · rintro k' _ rfl hissued'
      exact hsound.unique hissued hissued'
    · intro id' _ hexchange
      obtain ⟨rfl, -⟩ := Exchange.released.inj hexchange
      exact hissued
  cases answer with
  | ok done =>
      have hsole : (ScrollService.sole opening closing).release "" u = (.ok true, u) := by
        rw [ScrollService.sole, ← hanswer]; rfl
      rw [close_released hunclosed hid hshared, close_released (c := c.anonymous) hunclosed hid' hsole]
      exact .intro (h.of_finished hgoes rfl rfl rfl (.inr rfl)) hgoes
  | error e =>
      have hsole : (ScrollService.sole opening closing).release "" u = (.error e, u) := by
        rw [ScrollService.sole, ← hanswer]; rfl
      rw [close_unreleased hunclosed hid hshared, close_unreleased (c := c.anonymous) hunclosed hid' hsole]
      exact .intro (h.of_finished hgoes rfl rfl rfl (.inl rfl)) hgoes

end Separates

end Cursor

/-! ## Scans -/

namespace Scan

/-- A scan but for the name of the id in its cursor. -/
def anonymous (s : Scan) : Scan := { s with cursor := s.cursor.map Cursor.anonymous }

/-- Scans that are the same but for names of ids are the same if they have no ids. -/
theorem eq_of_anonymous_eq {s t : Scan} (h : s.anonymous = t.anonymous)
    (hid : ∀ {c}, s.cursor = some c → c.scrollId = none) : s = t := by
  obtain ⟨_, _, _, _, cursor, _, _, _, _⟩ := s
  obtain ⟨_, _, _, _, cursor', _, _, _, _⟩ := t
  obtain ⟨rfl, rfl, rfl, rfl, hcursor, rfl, rfl, rfl, rfl⟩ := Scan.mk.inj h
  suffices hsame : cursor = cursor' by rw [hsame]
  rcases cursor with - | ⟨_, id, _, _, _, _⟩ <;> rcases cursor' with - | ⟨_, id', _, _, _, _⟩
  · rfl
  · cases hcursor
  · cases hcursor
  · obtain rfl : id = none := hid rfl
    obtain ⟨rfl, hid', rfl, rfl, rfl, rfl⟩ := Cursor.mk.inj (Option.some.inj hcursor)
    obtain rfl : id' = none := Option.map_eq_none_iff.1 hid'.symm
    rfl

/-- What the service has for a scan is what it has for its cursor. -/
structure Held (b : Ledger τ) (searches : Set Search) (k : ι) (s : Scan)
    (w : τ × List (ι × Exchange)) (u : Option ScrollAnswers) : Prop where
  search : s.search ∈ searches
  cursor : ∀ {c}, s.cursor = some c → c.Held b searches k w u

variable {b : Ledger τ} {searches : Set Search} {k : ι} {s : Scan} {c : Cursor}
  {w w' : τ × List (ι × Exchange)} {u : Option ScrollAnswers}

/-- A scan without a cursor has none but for its name. -/
theorem cursor_anonymous_none (hcursor : s.cursor = none) : s.anonymous.cursor = none := by
  rw [anonymous, hcursor]
  rfl

/-- The cursor of a scan but for the name. -/
theorem cursor_anonymous_some (hcursor : s.cursor = some c) :
    s.anonymous.cursor = some c.anonymous := by
  rw [anonymous, hcursor]
  rfl

/-- What one goes on with leaves alone what the service has for the scans of others. -/
theorem Held.of_goes (h : s.Held b searches k w u) {k' : ι} (hne : k ≠ k') (hgoes : b.Goes k' w w') :
    s.Held b searches k w' u where
  search := h.search
  cursor hcursor := (h.cursor hcursor).of_goes hne hgoes

/-- What the service has for the cursor of a scan it has for the scan. -/
theorem held_of_cursor (hsearch : s.search ∈ searches) (hcursor : s.cursor = some c)
    (hc : c.Held b searches k w u) : s.Held b searches k w u where
  search := hsearch
  cursor hcursor' := Option.some.inj (hcursor.symm.trans hcursor') ▸ hc

section Separates

variable {service : ScrollService τ} {opening : Search → ScrollAnswers} {closing : Except Error Unit}

/-- A log record is all that goes on. -/
theorem goes_log (hs : service.Separates b searches opening closing) (hsound : b.Sound w)
    (record : LogRecord) : b.Goes k w ((service.recordedBy k).log record w) :=
  hsound.goes_of_spares (hs.log record hsound.ready)

/-- **The end of a scan comes to what it comes to on a service of one scroll.** -/
theorem Held.exhaust (hs : service.Separates b searches opening closing)
    (h : s.Held b searches k w u) (hsound : b.Sound w) :
    Simulates b k (Held b searches k) anonymous w (s.exhaust (service.recordedBy k) w)
      (s.anonymous.exhaust (.sole opening closing) u) := by
  by_cases hstate : s.state = .exhausted
  · rw [exhaust_finished hstate, exhaust_finished (s := s.anonymous) hstate]
    exact .intro h (.refl hsound)
  rcases hcursor : s.cursor with - | c
  · rw [exhaust_bare hstate hcursor,
      exhaust_bare (s := s.anonymous) hstate (cursor_anonymous_none hcursor)]
    have hgoes : b.Goes k w (s.finish (service.recordedBy k) w) := goes_log hs hsound _
    exact .intro ⟨h.search, fun hno => absurd (hcursor.symm.trans hno) (by simp)⟩ hgoes
  have hclose := (h.cursor hcursor).close hs hsound
  -- a cursor closes on both services alike, and the rest of the end follows its answer
  have hcursor' := cursor_anonymous_some hcursor
  rcases hshared : c.close (service.recordedBy k) w with ⟨answer, c', w'⟩
  rcases hsole : c.anonymous.close (.sole opening closing) u with ⟨answer', d, u'⟩
  rw [hshared, hsole] at hclose
  obtain ⟨hheld, hgoes⟩ := hclose
  cases answer with
  | error e =>
      rw [exhaust_failed hstate hcursor hshared,
        exhaust_failed (s := s.anonymous) hstate hcursor' hsole]
      exact .intro (held_of_cursor h.search rfl hheld) hgoes
  | ok done =>
      rw [exhaust_closed hstate hcursor hshared,
        exhaust_closed (s := s.anonymous) hstate hcursor' hsole]
      have hfinish : b.Goes k w' (s.finish (service.recordedBy k) w') := goes_log hs hgoes.sound _
      exact .intro (held_of_cursor h.search rfl (hheld.of_log hs hgoes.sound _)) (hgoes.trans hfinish)

/-- So does the end before it goes on. -/
theorem Held.exhaustThen (hs : service.Separates b searches opening closing)
    (h : s.Held b searches k w u) (hsound : b.Sound w) (turn : Turn) :
    Simulates b k (Held b searches k) anonymous w (s.exhaustThen (service.recordedBy k) turn w)
      (s.anonymous.exhaustThen (.sole opening closing) turn u) := by
  have hend := h.exhaust hs hsound
  rw [Scan.exhaustThen, Scan.exhaustThen]
  rcases hshared : s.exhaust (service.recordedBy k) w with ⟨answer, t, w'⟩
  rcases hsole : s.anonymous.exhaust (.sole opening closing) u with ⟨answer', t', u'⟩
  rw [hshared, hsole] at hend
  obtain ⟨hheld, hgoes⟩ := hend
  cases answer with
  | error e => exact .intro hheld hgoes
  | ok done => exact .intro hheld hgoes

/-- The start of a scan. -/
theorem Held.start (hs : service.Separates b searches opening closing)
    (h : s.Held b searches k w u) (hsound : b.Sound w) :
    Simulates b k (Held b searches k) anonymous w (s.start (service.recordedBy k) w)
      (s.anonymous.start (.sole opening closing) u) := by
  by_cases hlimit : s.request.limit = some 0
  · rw [Scan.start, Scan.start, if_pos hlimit, if_pos (by exact hlimit)]
    exact h.exhaustThen hs hsound .again
  · rw [Scan.start, Scan.start, if_neg hlimit, if_neg (by exact hlimit)]
    refine .intro (held_of_cursor h.search rfl ?_) (goes_log hs hsound _)
    exact ⟨h.search, fun hno => (by cases hno), fun hno => (by cases hno), fun _ => rfl⟩

/-- A page that is fetched. -/
theorem Held.fetchPage (hs : service.Separates b searches opening closing)
    (h : s.Held b searches k w u) (hsound : b.Sound w) (hcursor : s.cursor = some c) :
    Simulates b k (Held b searches k) anonymous w (s.fetchPage (service.recordedBy k) c w)
      (s.anonymous.fetchPage (.sole opening closing) c.anonymous u) := by
  have hfetch := (h.cursor hcursor).fetch hs hsound
  rw [Scan.fetchPage, Scan.fetchPage]
  rcases hshared : c.fetch (service.recordedBy k) w with ⟨answer, c', w'⟩
  rcases hsole : c.anonymous.fetch (.sole opening closing) u with ⟨answer', d, u'⟩
  rw [hshared, hsole] at hfetch
  obtain ⟨hheld, hgoes⟩ := hfetch
  have hfetched : { s with cursor := some c' }.Held b searches k w' u' :=
    held_of_cursor h.search rfl hheld
  cases answer with
  | error e => exact .intro hfetched hgoes
  | ok count =>
      -- whether a cursor is exhausted does not depend on the name of its id
      by_cases hexhausted : c'.exhausted = true
      · have hexhausted' : c'.anonymous.exhausted = true := hexhausted
        simp only [if_pos hexhausted, if_pos hexhausted']
        exact (hfetched.exhaustThen hs hgoes.sound .again).after hgoes
      · have hexhausted' : ¬ c'.anonymous.exhausted = true := hexhausted
        simp only [if_neg hexhausted, if_neg hexhausted']
        exact .intro (held_of_cursor h.search rfl hheld) hgoes

/-- What is decided about a hit. -/
theorem Held.take (hs : service.Separates b searches opening closing)
    (h : s.Held b searches k w u) (hsound : b.Sound w) (hit : Json) :
    Simulates b k (Held b searches k) anonymous w (s.take (service.recordedBy k) hit w)
      (s.anonymous.take (.sole opening closing) hit u) := by
  -- what a scan thinks of a hit has nothing to do with its cursor
  have hrejects : s.anonymous.rejects hit = s.rejects hit := rfl
  have hrefl : b.Goes k w w := .refl hsound
  rw [Scan.take, Scan.take, hrejects]
  cases s.rejects hit with
  | error e => exact .intro h hrefl
  | ok rejected =>
      cases rejected with
      | true => exact .intro ⟨h.search, h.cursor⟩ hrefl
      | false =>
          by_cases hskip : s.skipped < s.request.offset
          · have hskip' : s.anonymous.skipped < s.anonymous.request.offset := hskip
            simp only [if_pos hskip, if_pos hskip']
            exact .intro ⟨h.search, h.cursor⟩ hrefl
          · have hskip' : ¬ s.anonymous.skipped < s.anonymous.request.offset := hskip
            have hdecoder : s.anonymous.decoder = s.decoder := rfl
            simp only [if_neg hskip, if_neg hskip', hdecoder]
            cases s.decoder.decode hit with
            | error e => exact .intro h hrefl
            | ok row =>
                have hemitted : { s with emitted := s.emitted + 1 }.Held b searches k w u :=
                  ⟨h.search, h.cursor⟩
                dsimp only
                by_cases hlimit : { s with emitted := s.emitted + 1 }.atLimit = true
                · rw [if_pos hlimit, if_pos (by exact hlimit)]
                  exact hemitted.exhaustThen hs hsound (.row row)
                · rw [if_neg hlimit, if_neg (by exact hlimit)]
                  exact .intro hemitted hrefl

/-- **A step comes to what it comes to on a service of one scroll.** -/
theorem Held.advance (hs : service.Separates b searches opening closing)
    (h : s.Held b searches k w u) (hsound : b.Sound w) :
    Simulates b k (Held b searches k) anonymous w (s.advance (service.recordedBy k) w)
      (s.anonymous.advance (.sole opening closing) u) := by
  -- both are in the same state, and their cursors have the same page
  have hrefl : b.Goes k w w := .refl hsound
  cases hstate : s.state with
  | exhausted =>
      rw [advance_exhausted hstate, advance_exhausted (s := s.anonymous) hstate]
      exact .intro h hrefl
  | init =>
      rw [advance_init hstate, advance_init (s := s.anonymous) hstate]
      exact h.start hs hsound
  | fetching =>
      rcases hcursor : s.cursor with - | c
      · rw [advance_lost (.inl hstate) hcursor,
          advance_lost (s := s.anonymous) (.inl hstate) (cursor_anonymous_none hcursor)]
        exact .intro h hrefl
      · rw [advance_fetching hstate hcursor,
          advance_fetching (s := s.anonymous) hstate (cursor_anonymous_some hcursor)]
        exact h.fetchPage hs hsound hcursor
  | draining =>
      rcases hcursor : s.cursor with - | c
      · rw [advance_lost (.inr hstate) hcursor,
          advance_lost (s := s.anonymous) (.inr hstate) (cursor_anonymous_none hcursor)]
        exact .intro h hrefl
      have hcursor' := cursor_anonymous_some hcursor
      rcases hpage : c.page with - | ⟨hit, rest⟩
      · rw [advance_drained hstate hcursor hpage,
          advance_drained (s := s.anonymous) hstate hcursor' hpage]
        exact .intro ⟨h.search, h.cursor⟩ hrefl
      · rw [advance_draining hstate hcursor hpage,
          advance_draining (s := s.anonymous) hstate hcursor' hpage]
        have hc := h.cursor hcursor
        have hheld : { s with cursor := some { c with page := rest } }.Held b searches k w u :=
          held_of_cursor h.search rfl ⟨hc.search, hc.issued, hc.left, hc.unopened⟩
        exact hheld.take hs hsound hit

/-- **The steps of a call come to what they come to on a service of one scroll.** The induction is on the
steps. -/
theorem Held.run (hs : service.Separates b searches opening closing)
    (h : s.Held b searches k w u) (hsound : b.Sound w) (steps : Nat) :
    Option.Rel (Simulates b k (Held b searches k) anonymous w) (s.run (service.recordedBy k) steps w)
      (s.anonymous.run (.sole opening closing) steps u) := by
  induction steps generalizing s w u with
  | zero => exact .none
  | succ steps ih =>
      have hstep := h.advance hs hsound
      rw [Scan.run, Scan.run]
      rcases hshared : s.advance (service.recordedBy k) w with ⟨turn, t, w'⟩
      rcases hsole : s.anonymous.advance (.sole opening closing) u with ⟨turn', t', u'⟩
      rw [hshared, hsole] at hstep
      obtain ⟨hheld, hgoes⟩ := hstep
      cases turn with
      | again =>
          have hrest := ih hheld hgoes.sound
          dsimp only
          generalize t.run (service.recordedBy k) steps w' = shared at hrest ⊢
          generalize t.anonymous.run (.sole opening closing) steps u' = sole at hrest ⊢
          cases hrest with
          | none => exact .none
          | some hrest => exact .some (hrest.after hgoes)
      | row | finished | failed => exact .some (.intro hheld hgoes)

/-- A call that fails ends the scan, on either service. -/
theorem Held.settle (hs : service.Separates b searches opening closing)
    {shared : Turn × Scan × τ × List (ι × Exchange)} {sole : Turn × Scan × Option ScrollAnswers}
    (h : Simulates b k (Held b searches k) anonymous w shared sole) :
    Simulates b k (Held b searches k) anonymous w (Scan.settle (service.recordedBy k) shared)
      (Scan.settle (.sole opening closing) sole) := by
  obtain @⟨turn, _, _, _, hheld, hgoes⟩ := h
  cases turn with
  | failed e => exact (hheld.exhaustThen hs hgoes.sound (.failed e)).after hgoes
  | again | row | finished => exact .intro hheld hgoes

/-- **A call comes to what it comes to on a service of one scroll.** -/
theorem Held.next (hs : service.Separates b searches opening closing)
    (h : s.Held b searches k w u) (hsound : b.Sound w) (steps : Nat) :
    Option.Rel (Simulates b k (Held b searches k) anonymous w) (s.next (service.recordedBy k) steps w)
      (s.anonymous.next (.sole opening closing) steps u) := by
  have hrun := h.run hs hsound steps
  rw [Scan.next, Scan.next]
  generalize s.run (service.recordedBy k) steps w = shared at hrun ⊢
  generalize s.anonymous.run (.sole opening closing) steps u = sole at hrun ⊢
  cases hrun with
  | none => exact .none
  | some hrun => exact .some (Held.settle hs hrun)

end Separates

end Scan

end SearchTables
