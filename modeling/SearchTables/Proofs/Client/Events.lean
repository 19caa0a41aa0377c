import SearchTables.Proofs.Client.Answering

/-! # Events — what a client did stays on record

A link takes note of every request that is sent over it. Whatever a client is asked, the notes that were
there stay, and a client that is not closed stays open (`Client.grows_request`). A client that is open
sends what it is asked if that can be planned at all (`Client.sent_of_plan`). -/

namespace SearchTables

variable {σ : Type}

/-! ## Links that grow -/

/-- A link later on: it has every event of the one before, and it is closed if that was. -/
structure Link.Grows (link later : Link σ) : Prop where
  closed : later.closed = link.closed
  events : link.events <+: later.events

namespace Link

/-- A link grows from itself. -/
theorem Grows.refl (link : Link σ) : link.Grows link := ⟨rfl, List.prefix_rfl⟩

/-- A link grows step by step. -/
theorem Grows.trans {link mid later : Link σ} (h : link.Grows mid) (h' : mid.Grows later) :
    link.Grows later :=
  ⟨h'.closed.trans h.closed, h.events.trans h'.events⟩

/-- To grow is a matter of the events and of whether a link is closed. -/
theorem Grows.congr {link link' later : Link σ} (h : link.Grows later)
    (hclosed : link'.closed = link.closed) (hevents : link'.events = link.events) :
    link'.Grows later :=
  ⟨h.closed.trans hclosed.symm, hevents ▸ h.events⟩

/-- A note makes a link grow. -/
theorem grows_note (link : Link σ) (event : Event) : link.Grows (link.note event) :=
  ⟨rfl, List.prefix_append ..⟩

/-- A trace makes a link grow. -/
theorem grows_trace (link : Link σ) (sink : Option TraceSink) (t : Trace) :
    link.Grows (link.trace sink t) := by
  cases sink with
  | none => exact .refl link
  | some sink =>
      cases sink with
      | log | collector => exact link.grows_note _
      | failingCollector => exact (link.grows_note _).trans (grows_note ..)

/-- What is on record after a note was made later. -/
theorem Grows.exists_events {link later : Link σ} {event : Event}
    (h : (link.note event).Grows later) :
    ∃ more, later.events = link.events ++ event :: more := by
  obtain ⟨more, hmore⟩ := h.events
  refine ⟨more, hmore.symm.trans ?_⟩
  rw [note, List.append_assoc]
  rfl

end Link

namespace Client

variable {c : Client σ} {inquiry : Inquiry} {content : Option String} {link : Link σ}

/-! ## Attempts -/

/-- An exchange puts its first request on record. The induction is on the redirects that may be
followed. -/
theorem grows_exchange (peer : Peer σ) {hops : Nat} (hhops : 0 < hops) (r : HttpRequest)
    (link : Link σ) : (link.note (.sent r)).Grows (exchange peer hops r link).2 := by
  induction hops generalizing r link with
  | zero => cases hhops
  | succ hops ih =>
      have hrest : ∀ r' (next : Link σ), next.Grows (exchange peer hops r' next).2 := by
        intro r' next
        cases hops with
        | zero => exact .refl next
        | succ hops => exact (next.grows_note _).trans (ih hops.succ_pos r' next)
      rw [exchange]
      rcases peer r link.peer with ⟨response | f | e, state⟩
      · dsimp only
        rcases response.redirect? with - | location
        · exact ⟨rfl, List.prefix_rfl⟩
        · dsimp only
          rcases r.address.redirect location with fault | address
          · exact ⟨rfl, List.prefix_rfl⟩
          · -- the request that goes elsewhere comes after the first one
            exact (hrest _ _).congr rfl rfl
      · exact ⟨rfl, List.prefix_rfl⟩
      · exact ⟨rfl, List.prefix_rfl⟩

/-- An attempt of an open client puts its request on record. -/
theorem sent_of_attempt {address : Address} (hdestination : c.destination inquiry = .ok address)
    (hopen : link.closed = false) (content : Option String) :
    (link.note (.sent (c.firstRequest inquiry content link.cookies address))).Grows
      (c.attempt inquiry content link).2 := by
  have hsent := grows_exchange c.peer maxRedirects.succ_pos
    (c.firstRequest inquiry content link.cookies address) link
  rcases hexchange : exchange c.peer (maxRedirects + 1)
    (c.firstRequest inquiry content link.cookies address) link with ⟨delivery, mid⟩
  rw [hexchange] at hsent
  rw [attempt_of_open hdestination hopen hexchange]
  exact hsent.trans (mid.grows_trace ..)

/-- An attempt leaves on record what was. -/
theorem grows_attempt (c : Client σ) (inquiry : Inquiry) (content : Option String) (link : Link σ) :
    link.Grows (c.attempt inquiry content link).2 := by
  rcases hdestination : c.destination inquiry with e | address
  · rw [attempt_of_nowhere hdestination]
    exact .refl link
  · by_cases hclosed : link.closed = true
    · rw [attempt_of_closed hdestination content hclosed]
      exact link.grows_trace ..
    · exact (link.grows_note _).trans (sent_of_attempt hdestination (by simpa using hclosed) content)

/-! ## Requests -/

/-- A planned request makes its attempts. -/
theorem request_of_plan {address : Address} (hplan : c.plan inquiry = .ok (content, address)) :
    c.request inquiry link =
      c.retrying inquiry content (c.retryBudget inquiry) 0 c.firstWait link := by
  obtain ⟨hbody, hinterval, -⟩ := of_plan hplan
  exact request_eq_retrying hbody hinterval link

/-- An attempt that brought no success. -/
def Misses (outcome : Attempt) : Prop :=
  ∀ response, outcome = .answered response → isSuccess response.status = false

/-- An attempt that failed brought no success. -/
theorem misses_failed (f : NetworkFailure) : Misses (.failed f) := fun response h => by cases h

/-- An attempt whose answer is no success brought none. -/
theorem misses_answered {response : HttpResponse} (h : ¬ isSuccess response.status = true) :
    Misses (.answered response) := by
  intro response' heq
  obtain rfl := Attempt.answered.inj heq
  simpa using h

/-- The attempts of a request lead where the first one leads, if the ones after it and the notes
between them keep to that. A success is as good as its text, and a request is given up as badly as its
last attempt ended. The induction is on the retries that are left. -/
theorem leads_retrying {P Q : Link σ → Prop} {good : Attempt → Prop} {good' : Reply → Prop}
    {bad : Error → Prop} (hfirst : (c.attempt inquiry content).Leads P Q good bad)
    (hagain : (c.attempt inquiry content).Leads Q Q good bad)
    (hnote : ∀ link event, Q link → Q (link.note event))
    (htext : ∀ response text retries, good (.answered response) →
      Attempt.text response = .ok text → good' ⟨response.status, text, retries⟩)
    (hnone : ∀ response e, good (.answered response) → Attempt.text response = .error e → bad e)
    (hgive : ∀ outcome retries e, good outcome → Misses outcome →
      retrying.giveUp inquiry outcome retries = .error e → bad e) (left retries : Nat) (wait : Float) :
    (c.retrying inquiry content left retries wait).Leads P Q good' bad := by
  have hreply : ∀ (response : HttpResponse) (retries : Nat), good (.answered response) →
      Task.Leads Q Q good' bad
        (do return ⟨response.status, ← Attempt.text response, retries⟩ : Task (Link σ) Reply) := by
    intro response retries hgood link hlink
    rcases hfound : Attempt.text response with e | text
    · exact .error hlink (hnone response e hgood hfound)
    · exact .ok hlink (htext response text retries hgood hfound)
  have hgiven : ∀ (outcome : Attempt) (retries : Nat), good outcome → Misses outcome →
      Task.Leads Q Q good' bad
        (liftM (retrying.giveUp inquiry outcome retries) : Task (Link σ) Reply) := by
    intro outcome retries hgood hmisses link hlink
    obtain ⟨e, he⟩ := exists_giveUp inquiry outcome retries
    rw [he]
    exact .error hlink (hgive outcome retries e hgood hmisses he)
  -- `P` is left with the first attempt, and the others start from `Q`
  induction left generalizing P retries wait with
  | zero =>
      refine hfirst.bind (fun outcome hgood => ?_) fun _ h => h
      cases outcome with
      | failed f => exact hgiven _ _ hgood (misses_failed f)
      | answered response =>
          dsimp only
          split
          · exact hreply _ _ hgood
          · exact hgiven _ _ hgood (misses_answered ‹_›)
  | succ left ih =>
      refine hfirst.bind (fun outcome hgood => ?_) fun _ h => h
      have hmore : Misses outcome → Task.Leads Q Q good' bad
          (if outcome.isTransient then do
            modify fun link =>
              (link.log .client .warning ("retrying " ++ inquiry.method ++ " " ++ inquiry.path ++
                " after status " ++ toString outcome.status)).note (.waited wait)
            retrying c inquiry content left (retries + 1) (wait * c.connection.backoffFactor)
          else liftM (retrying.giveUp inquiry outcome retries) : Task (Link σ) Reply) := by
        intro hmisses
        split
        · exact fun link hlink => ih hagain _ _ _ (hnote _ _ (hnote _ _ hlink))
        · exact hgiven _ _ hgood hmisses
      cases outcome with
      | failed f => exact hmore (misses_failed f)
      | answered response =>
          dsimp only
          split
          · exact hreply _ _ hgood
          · exact hmore (misses_answered ‹_›)

/-- What the attempts of a request do to a link, whatever they come to. -/
theorem state_retrying {P Q : Link σ → Prop}
    (hfirst : ∀ link, P link → Q (c.attempt inquiry content link).2)
    (hagain : ∀ link, Q link → Q (c.attempt inquiry content link).2)
    (hnote : ∀ link event, Q link → Q (link.note event)) (left retries : Nat) (wait : Float)
    (hlink : P link) : Q (c.retrying inquiry content left retries wait link).2 := by
  have hleads : (c.retrying inquiry content left retries wait).Leads P Q (fun _ => True)
      fun _ => True :=
    leads_retrying (Task.leads_of_state hfirst) (Task.leads_of_state hagain) hnote
      (fun _ _ _ _ _ => trivial) (fun _ _ _ _ => trivial) (fun _ _ _ _ _ _ => trivial) left retries wait
  exact (hleads link hlink).state

/-- **A request leaves on record what was**, and does not close the client. -/
theorem grows_request (c : Client σ) (inquiry : Inquiry) (link : Link σ) :
    link.Grows (c.request inquiry link).2 := by
  rcases hplan : c.plan inquiry with e | ⟨content, address⟩
  · rw [request_of_unplanned hplan]
    exact .refl link
  · rw [request_of_plan hplan]
    have hattempt : ∀ mid, link.Grows mid → link.Grows (c.attempt inquiry content mid).2 :=
      fun mid h => h.trans (c.grows_attempt inquiry content mid)
    exact state_retrying hattempt hattempt (fun mid event h => h.trans (mid.grows_note event)) _ _ _
      (.refl link)

/-- **An open client sends what it is asked**, if that can be planned: the request of the first attempt is
on record afterwards. -/
theorem sent_of_plan {planned : Option String × Address} (hplan : c.plan inquiry = .ok planned)
    (hopen : link.closed = false) :
    ∃ r, c.Sends inquiry r ∧ (link.note (.sent r)).Grows (c.request inquiry link).2 := by
  obtain ⟨content, address⟩ := planned
  obtain ⟨-, -, hdestination⟩ := of_plan hplan
  refine ⟨_, sends_firstRequest hplan link.cookies, ?_⟩
  rw [request_of_plan hplan]
  -- the first attempt starts at the link, and the others only add to the record
  refine state_retrying (P := fun now => now = link) ?_ ?_ ?_ _ _ _ rfl
  · rintro now rfl
    exact sent_of_attempt hdestination hopen content
  · exact fun now h => h.trans (c.grows_attempt inquiry content now)
  · exact fun now event h => h.trans (now.grows_note event)

end Client

end SearchTables
