import SearchTables.Proofs.Client.Losses

/-! # Answers at once — requests that need one attempt

A request that cannot be sent at all fails in the same way every time, and leaves the client as it is. A
request whose first attempt is answered with success comes to the text of the response, and leaves the
client as it was but for its peer, its cookies and its events (`Client.request_of_gives`). -/

namespace SearchTables

variable {σ τ : Type}

/-! ## Responses -/

/-- A response that reports success sends the request nowhere else. -/
theorem HttpResponse.redirect?_of_success {r : HttpResponse} (h : isSuccess r.status = true) :
    r.redirect? = none := by
  have hstatus : redirectStatuses.contains r.status = false := by
    rw [isSuccess, Bool.and_eq_true, decide_eq_true_eq, decide_eq_true_eq] at h
    rw [redirectStatuses, List.contains_eq_mem, decide_eq_false_iff_not]
    simp only [List.mem_cons, List.not_mem_nil, or_false]
    omega
  rw [redirect?, hstatus]
  rfl

/-- The page in a response. -/
def HttpResponse.page (r : HttpResponse) : Except Error ScrollPage :=
  ((Attempt.text r).map (⟨r.status, ·, 0⟩)).bind Client.Reply.page

/-- A peer gives a response to a request, and it reports success. -/
def Peer.Gives (peer : Peer σ) (r : HttpRequest) (state : σ) (P : HttpResponse → σ → Prop) : Prop :=
  ∃ response later, peer r state = (.response response, later) ∧
    isSuccess response.status = true ∧ P response later

/-! ## Requests -/

namespace Client

/-- An exchange does not close the client. The induction is on the redirects that may be followed. -/
theorem closed_exchange (peer : Peer σ) (hops : Nat) (r : HttpRequest) (link : Link σ) :
    (exchange peer hops r link).2.closed = link.closed := by
  induction hops generalizing r link with
  | zero => rfl
  | succ hops ih =>
      rw [exchange]
      rcases peer r link.peer with ⟨response | f | e, state⟩
      · dsimp only
        rcases response.redirect? with - | location
        · rfl
        · dsimp only
          rcases r.address.redirect location with fault | address
          · rfl
          · exact ih ..
      · rfl
      · rfl

/-- A trace does not close the client. -/
theorem closed_trace (link : Link σ) (sink : Option TraceSink) (t : Trace) :
    (link.trace sink t).closed = link.closed := by
  cases sink with
  | none => rfl
  | some sink => cases sink <;> rfl

/-- Where an inquiry is sent, if a wait before another attempt could be told in seconds. -/
def way (c : Client σ) (inquiry : Inquiry) : Except Error Address :=
  if tooLong ≤ c.connection.retryInterval then .error .outOfRange else c.destination inquiry

/-- What an inquiry is sent with, and where: the text of its body and its address. -/
def plan (c : Client σ) (inquiry : Inquiry) : Except Error (Option String × Address) := do
  let content ← bodyText inquiry.body
  let address ← c.way inquiry
  pure (content, address)

variable {c : Client σ} {inquiry : Inquiry} {link : Link σ}

/-- A request without a way fails, and nothing is sent. -/
theorem request_of_error {content : Option String} {e : Error}
    (hbody : bodyText inquiry.body = .ok content) (hway : c.way inquiry = .error e) (link : Link σ) :
    c.request inquiry link = (.error e, link) := by
  refine (Task.bind_lift_of_ok hbody _).trans ?_
  rw [way] at hway
  dsimp only
  split at hway
  · rename_i hinterval
    obtain rfl := Except.error.inj hway
    rw [if_pos hinterval]
    exact Task.bind_of_error rfl
  · rename_i hinterval
    have hattempt := attempt_of_nowhere hway content link
    rw [if_neg hinterval]
    exact retrying_of_error hattempt ..

/-- A request that cannot be planned fails, and nothing is sent. -/
theorem request_of_unplanned {e : Error} (h : c.plan inquiry = .error e) (link : Link σ) :
    c.request inquiry link = (.error e, link) := by
  rw [plan] at h
  rcases hbody : bodyText inquiry.body with e' | content
  · rw [hbody] at h
    obtain rfl : e' = e := by simpa [bind, Except.bind] using h
    exact Task.bind_lift_of_error hbody _
  · rcases hway : c.way inquiry with e' | address
    · rw [hbody, hway] at h
      obtain rfl : e' = e := by simpa [bind, Except.bind] using h
      exact request_of_error hbody hway link
    · rw [hbody, hway] at h
      cases h

/-- What has a content and a way can be planned. -/
theorem plan_eq_ok {content : Option String} {address : Address}
    (hbody : bodyText inquiry.body = .ok content) (hway : c.way inquiry = .ok address) :
    c.plan inquiry = .ok (content, address) := by
  rw [plan, hbody, hway]
  rfl

/-- What has a content and a destination can be planned, if the interval can be told in seconds. -/
theorem exists_plan {content : Option String} (hbody : bodyText inquiry.body = .ok content)
    (hsoon : ¬ tooLong ≤ c.connection.retryInterval) (hgoes : (c.destination inquiry).isOk = true) :
    ∃ planned, c.plan inquiry = .ok planned := by
  rcases hdestination : c.destination inquiry with e | address
  · rw [hdestination] at hgoes
    cases hgoes
  · exact ⟨_, plan_eq_ok hbody ((if_neg hsoon).trans hdestination)⟩

/-- What can be planned has a content and a destination. -/
theorem of_plan {content : Option String} {address : Address}
    (h : c.plan inquiry = .ok (content, address)) :
    bodyText inquiry.body = .ok content ∧ ¬ tooLong ≤ c.connection.retryInterval ∧
      c.destination inquiry = .ok address := by
  obtain ⟨found, hbody, h⟩ := bind_eq_ok.1 h
  obtain ⟨address', hway, h⟩ := bind_eq_ok.1 h
  obtain ⟨rfl, rfl⟩ := Prod.mk.inj (pure_eq_ok.1 h)
  rw [way] at hway
  split at hway
  · cases hway
  · rename_i hinterval
    exact ⟨hbody, hinterval, hway⟩

/-- **A request that is answered at once** comes to the text of the response, and the client stays
open. -/
theorem request_of_response {content : Option String} {address : Address}
    (hplan : c.plan inquiry = .ok (content, address)) (hopen : link.closed = false)
    {r : HttpResponse} {state : σ}
    (hpeer : c.peer (c.firstRequest inquiry content link.cookies address) link.peer =
      (.response r, state)) (hsuccess : isSuccess r.status = true) :
    ∃ later, c.request inquiry link = ((Attempt.text r).map (⟨r.status, ·, 0⟩), later) ∧
      later.peer = state ∧ later.closed = false := by
  obtain ⟨hbody, hinterval, hdestination⟩ := of_plan hplan
  obtain ⟨mid, hexchange, hstate⟩ := exchange_of_response hpeer (HttpResponse.redirect?_of_success hsuccess)
    maxRedirects
  -- one exchange closes nothing, so the link is still open when its answer is read
  have hclosed := closed_exchange c.peer (maxRedirects + 1)
    (c.firstRequest inquiry content link.cookies address) link
  rw [hexchange] at hclosed
  have hattempt := attempt_of_open hdestination hopen hexchange
  have hrequest : c.request inquiry link = ((Attempt.text r).map (⟨r.status, ·, 0⟩),
      mid.trace c.sink (Trace.ofAttempt
        (c.firstRequest inquiry content link.cookies address) (some (.response r)))) := by
    rw [request_eq_retrying hbody hinterval]
    exact retrying_of_success hattempt hsuccess ..
  exact ⟨_, hrequest, (peer_trace ..).trans hstate, (closed_trace ..).trans (hclosed.trans hopen)⟩

/-- The request of a planned inquiry is one that the client sends to answer it. -/
theorem sends_firstRequest {content : Option String} {address : Address}
    (hplan : c.plan inquiry = .ok (content, address)) (cookies : CookieJar) :
    c.Sends inquiry (c.firstRequest inquiry content cookies address) := by
  obtain ⟨hbody, -, hdestination⟩ := of_plan hplan
  obtain ⟨hmethod, haddress, hcontent⟩ := c.firstRequest_fields inquiry content cookies address
  obtain ⟨hfound, -⟩ := address_of_destination hdestination
  exact ⟨hmethod, by rw [hfound, haddress], by rw [hbody, hcontent]⟩

/-- What a peer gives to a request is what the request comes to. -/
theorem request_of_gives {planned : Option String × Address} (hplan : c.plan inquiry = .ok planned)
    (hopen : link.closed = false) {P : HttpResponse → σ → Prop}
    (h : ∀ r, c.Sends inquiry r → c.peer.Gives r link.peer P) :
    ∃ response later, c.request inquiry link =
      ((Attempt.text response).map (⟨response.status, ·, 0⟩), later) ∧
        later.closed = false ∧ P response later.peer := by
  obtain ⟨content, address⟩ := planned
  obtain ⟨response, state, hpeer, hsuccess, hP⟩ := h _ (sends_firstRequest hplan link.cookies)
  obtain ⟨later, hrequest, hstate, hclosed⟩ := request_of_response hplan hopen hpeer hsuccess
  exact ⟨response, later, hrequest, hclosed, hstate ▸ hP⟩

end Client

end SearchTables
