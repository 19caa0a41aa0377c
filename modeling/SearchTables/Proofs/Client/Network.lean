import SearchTables.Proofs.Client.Attempts
import Mathlib.Data.List.Infix

/-! # Networks that lose messages

Between a client and its server a network may lose a request, or the response to a request that the
server has dealt with; the client sees a failure either way. The network keeps a record of what was
sent and of what became of it, and a request of a client only adds to the record (`sent_request`). -/

namespace SearchTables

variable {σ : Type}

/-! ## The network -/

/-- What becomes of an attempt on its way. -/
inductive Passage where
  | arrives
  | requestLost (failure : NetworkFailure)
  | responseLost (failure : NetworkFailure)

/-- A server behind a network, and the attempts that were made so far, with what became of each. -/
structure Wire (σ : Type) where
  server : σ
  sent : List (HttpRequest × Passage) := []

/-- A server behind a network that decides for each attempt, by its number, what becomes of it. -/
def Peer.lossy (server : Peer σ) (fate : Nat → Passage) : Peer (Wire σ) := fun r w =>
  let passage := fate w.sent.length
  let sent := w.sent ++ [(r, passage)]
  match passage with
  | .arrives =>
      let (delivery, state) := server r w.server
      (delivery, ⟨state, sent⟩)
  | .requestLost f => (.failure f, ⟨w.server, sent⟩)
  | .responseLost f => (.failure f, ⟨(server r w.server).2, sent⟩)

/-- What comes of a request on its way. -/
inductive Crosses (server : Peer σ) (r : HttpRequest) (w : Wire σ) : Delivery × Wire σ → Prop where
  | arrives {delivery : Delivery} {state : σ} (hserver : server r w.server = (delivery, state)) :
      Crosses server r w (delivery, ⟨state, w.sent ++ [(r, .arrives)]⟩)
  | requestLost (f : NetworkFailure) :
      Crosses server r w (.failure f, ⟨w.server, w.sent ++ [(r, .requestLost f)]⟩)
  | responseLost (f : NetworkFailure) :
      Crosses server r w
        (.failure f, ⟨(server r w.server).2, w.sent ++ [(r, .responseLost f)]⟩)

/-- What comes of a request is one of the cases of `Crosses`. -/
theorem crosses_lossy (server : Peer σ) (fate : Nat → Passage) (r : HttpRequest) (w : Wire σ) :
    Crosses server r w (server.lossy fate r w) := by
  rw [Peer.lossy]
  rcases fate w.sent.length with - | f | f
  · exact .arrives rfl
  · exact .requestLost f
  · exact .responseLost f

/-- A request is put on record. -/
theorem Crosses.exists_sent {server : Peer σ} {r : HttpRequest} {w : Wire σ}
    {outcome : Delivery × Wire σ} (h : Crosses server r w outcome) :
    ∃ p, outcome.2.sent = w.sent ++ [(r, p)] := by
  cases h with
  | arrives | requestLost | responseLost => exact ⟨_, rfl⟩

/-! ## Exchanges -/

namespace Client

/-- An exchange ends with a response that sends the request nowhere else. -/
theorem exchange_of_response {τ : Type} {peer : Peer τ} {r : HttpRequest} {link : Link τ}
    {response : HttpResponse} {state : τ} (hpeer : peer r link.peer = (.response response, state))
    (hdirect : response.redirect? = none) (hops : Nat) :
    ∃ later, exchange peer (hops + 1) r link = (.response response, later) ∧ later.peer = state := by
  rw [exchange]
  simp only [hpeer, hdirect]
  exact ⟨_, rfl, rfl⟩

/-- An exchange ends with a failure. -/
theorem exchange_of_failure {τ : Type} {peer : Peer τ} {r : HttpRequest} {link : Link τ}
    {f : NetworkFailure} {state : τ} (hpeer : peer r link.peer = (.failure f, state)) (hops : Nat) :
    ∃ later, exchange peer (hops + 1) r link = (.failure f, later) ∧ later.peer = state := by
  rw [exchange]
  simp only [hpeer]
  exact ⟨_, rfl, rfl⟩

/-- An exchange ends with its first request, or it goes on with another one. -/
theorem exchange_cases {τ : Type} (peer : Peer τ) (hops : Nat) (r : HttpRequest) (link : Link τ) :
    (exchange peer (hops + 1) r link).2.peer = (peer r link.peer).2 ∨
      ∃ r' next, next.peer = (peer r link.peer).2 ∧
        exchange peer (hops + 1) r link = exchange peer hops r' next := by
  rw [exchange]
  rcases peer r link.peer with ⟨response | f | e, state⟩
  · dsimp only
    rcases hredirect : response.redirect? with - | location
    · exact .inl rfl
    · dsimp only
      rcases r.address.redirect location with fault | address
      · exact .inl rfl
      · exact .inr ⟨_, _, rfl, rfl⟩
  · exact .inl rfl
  · exact .inl rfl

/-- An exchange over the network leaves on record what was. The induction is on the redirects that may
be followed. -/
theorem sent_exchange (server : Peer σ) (fate : Nat → Passage) (hops : Nat) (r : HttpRequest)
    (link : Link (Wire σ)) :
    link.peer.sent <+: (exchange (server.lossy fate) hops r link).2.peer.sent := by
  induction hops generalizing r link with
  | zero => exact List.prefix_rfl
  | succ hops ih =>
      obtain ⟨p, hsent⟩ := (crosses_lossy server fate r link.peer).exists_sent
      obtain hend | ⟨r', next, hnext, hmore⟩ := exchange_cases (server.lossy fate) hops r link
      · rw [hend, hsent]
        exact List.prefix_append ..
      · rw [hmore]
        refine List.IsPrefix.trans ?_ (ih r' next)
        rw [hnext, hsent]
        exact List.prefix_append ..

/-- An exchange over the network puts its first request on record; that is all when it is lost on the
way. -/
theorem exchange_lossy (server : Peer σ) (fate : Nat → Passage) (hops : Nat) (r : HttpRequest)
    (link : Link (Wire σ)) :
    link.peer.sent ++ [(r, .arrives)] <+:
        (exchange (server.lossy fate) (hops + 1) r link).2.peer.sent ∨
      ∃ p f, p ≠ .arrives ∧ (exchange (server.lossy fate) (hops + 1) r link).1 = .failure f ∧
        (exchange (server.lossy fate) (hops + 1) r link).2.peer.sent =
          link.peer.sent ++ [(r, p)] := by
  -- a loss on the way of the first request ends the exchange
  have hlost : ∀ {f w}, server.lossy fate r link.peer = (.failure f, w) →
      ∀ {p}, p ≠ .arrives → w.sent = link.peer.sent ++ [(r, p)] →
        ∃ p f, p ≠ .arrives ∧ (exchange (server.lossy fate) (hops + 1) r link).1 = .failure f ∧
          (exchange (server.lossy fate) (hops + 1) r link).2.peer.sent =
            link.peer.sent ++ [(r, p)] := by
    intro f w hpeer p hp hsent
    obtain ⟨later, hexchange, hlater⟩ := exchange_of_failure hpeer hops
    refine ⟨p, f, hp, ?_, ?_⟩
    · rw [hexchange]
    · rw [hexchange, hlater, hsent]
  rcases hcross : server.lossy fate r link.peer with ⟨delivery, w⟩
  have hcrosses := crosses_lossy server fate r link.peer
  rw [hcross] at hcrosses
  cases hcrosses with
  | requestLost f => exact .inr (hlost hcross (by simp) rfl)
  | responseLost f => exact .inr (hlost hcross (by simp) rfl)
  | arrives =>
      left
      obtain hend | ⟨r', next, hnext, hmore⟩ := exchange_cases (server.lossy fate) hops r link
      · rw [hend, hcross]
      · have hsent := sent_exchange server fate hops r' next
        rw [hnext, hcross] at hsent
        rw [hmore]
        exact hsent

/-! ## Attempts -/

/-- The requests that a client sends to answer an inquiry. -/
structure Sends {τ : Type} (c : Client τ) (inquiry : Inquiry) (r : HttpRequest) : Prop where
  method : r.method = Text.upper inquiry.method
  address : c.address inquiry.path inquiry.parameters = .ok r.address
  body : bodyText inquiry.body = .ok r.body

/-- An attempt over the network sends nothing, or it puts on record the request that it sends; that is all
when the request is lost on the way, and then the attempt fails. -/
theorem attempt_lossy {c : Client (Wire σ)} {server : Peer σ} {fate : Nat → Passage}
    (hpeer : c.peer = server.lossy fate) {inquiry : Inquiry} {content : Option String}
    (hbody : bodyText inquiry.body = .ok content) {link later : Link (Wire σ)}
    {outcome : Except Error Attempt}
    (h : c.attempt inquiry content link = (outcome, later)) :
    (∃ e, outcome = .error e ∧ later.peer = link.peer) ∨ ∃ r, c.Sends inquiry r ∧
      (link.peer.sent ++ [(r, .arrives)] <+: later.peer.sent ∨
        ∃ p f, p ≠ .arrives ∧ outcome = .ok (.failed f) ∧
          later.peer.sent = link.peer.sent ++ [(r, p)]) := by
  have hcase := attempts_attempt c inquiry content link
  rw [h] at hcase
  cases hcase with
  | unsent hlater => exact .inl ⟨_, rfl, hlater⟩
  | @sent r delivery mid _ hmethod haddress hcontent hexchange hlater =>
      refine .inr ⟨r, ⟨hmethod, haddress, by rw [hbody, hcontent]⟩, ?_⟩
      have hlossy := exchange_lossy server fate maxRedirects r link
      rw [← hpeer, hexchange, ← hlater] at hlossy
      obtain harrives | ⟨p, f, hp, rfl, hsent⟩ := hlossy
      · exact .inl harrives
      · exact .inr ⟨p, f, hp, rfl, hsent⟩

/-- An attempt leaves on record what was. -/
theorem sent_attempt {c : Client (Wire σ)} {server : Peer σ} {fate : Nat → Passage}
    (hpeer : c.peer = server.lossy fate) {inquiry : Inquiry} {content : Option String}
    (hbody : bodyText inquiry.body = .ok content) {link later : Link (Wire σ)}
    {outcome : Except Error Attempt}
    (h : c.attempt inquiry content link = (outcome, later)) :
    link.peer.sent <+: later.peer.sent := by
  obtain ⟨_, _, hlater⟩ | ⟨r, _, harrives | ⟨p, _, _, _, hlost⟩⟩ := attempt_lossy hpeer hbody h
  · rw [hlater]
  · exact (List.prefix_append ..).trans harrives
  · rw [hlost]
    exact List.prefix_append ..

/-- The attempts of a request leave on record what was. The induction is on the attempts. -/
theorem sent_retries {c : Client (Wire σ)} {server : Peer σ} {fate : Nat → Passage}
    (hpeer : c.peer = server.lossy fate) {inquiry : Inquiry} {content : Option String}
    (hbody : bodyText inquiry.body = .ok content) {left : Nat} {link : Link (Wire σ)}
    {result : Except Error Reply × Link (Wire σ)}
    (h : Retries c inquiry content left link result) :
    link.peer.sent <+: result.2.peer.sent := by
  induction h with
  | fails hattempt => exact sent_attempt hpeer hbody hattempt
  | succeeds hattempt => exact sent_attempt hpeer hbody hattempt
  | again hattempt _ hnext _ ih =>
      rw [hnext] at ih
      exact (sent_attempt hpeer hbody hattempt).trans ih

/-- A request leaves on record what was. -/
theorem sent_request {c : Client (Wire σ)} {server : Peer σ} {fate : Nat → Passage}
    (hpeer : c.peer = server.lossy fate) (inquiry : Inquiry) (link : Link (Wire σ)) :
    link.peer.sent <+: (c.request inquiry link).2.peer.sent := by
  obtain ⟨e, hfails⟩ | ⟨content, left, hbody, hretries⟩ := request_cases c inquiry link
  · rw [hfails]
  · exact sent_retries hpeer hbody hretries

end Client

end SearchTables
