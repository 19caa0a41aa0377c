import SearchTables.Proofs.Client.Network
import SearchTables.Proofs.Scan.Delivery
import SearchTables.Proofs.Scan.Feed

/-! # Losses — scrolls over a network that loses messages

A server hands out one page of a scroll for each request that it deals with, and a client whose attempt
met a failure makes another one. So a page is passed over when the response that carries it is lost
and a later request to go on with the scroll arrives. Unless that happens a client delivers the stream
of its server page by page (`delivers_of_lossy`), and a scan of all documents returns the rows of a
beginning of it (`rows_of_lossy`). -/

namespace SearchTables

variable {σ : Type}

/-! ## Pages -/

namespace Client

/-- The inquiry that opens a scroll. -/
def openInquiry (name : String) (q : Search) : Inquiry :=
  { method := "POST"
    path := "/" ++ name ++ "/_search"
    body := some q.body
    parameters := some [("scroll", .str q.scroll), ("size", .int q.size)]
    context := "Elasticsearch search failed" }

/-- The inquiry that goes on with a scroll. -/
def continueInquiry (id keep : String) : Inquiry :=
  { method := "POST"
    path := scrollPath
    body := some (.object [("scroll", .str keep), ("scroll_id", .str id)])
    context := "Elasticsearch scroll failed" }

/-- The page of a reply. -/
def Reply.page (reply : Reply) : Except Error ScrollPage := do ScrollPage.ofJson (← reply.json)

end Client

/-- A response carries a page: it reports success, sends the request nowhere else, and has the text of
the page. -/
structure HttpResponse.Carries (r : HttpResponse) (p : ScrollPage) : Prop where
  success : isSuccess r.status = true
  direct : r.redirect? = none
  page : ∃ text j, r.text? = some text ∧ Json.read? text = some j ∧ ScrollPage.ofJson j = .ok p

/-- A server that deals with a request hands out some hits, and its scroll has a rest left. -/
def Peer.Hands (server : Peer σ) (left : σ → String → Option (List Json)) (r : HttpRequest)
    (state : σ) (hits rest : List Json) : Prop :=
  ∃ response id later, server r state = (.response response, later) ∧
    response.Carries ⟨some id, hits⟩ ∧ left later id = some rest

/-- A server **serves a stream** to a client in pages of a size: for each request that it deals with it
hands out one page, the first one to a search, and the next one of a scroll that has something left
to a request that goes on with it. -/
structure Peer.Serves {τ : Type} (server : Peer σ) (c : Client τ) (q : Search) (stream : List Json)
    (size : Nat) (left : σ → String → Option (List Json)) : Prop where
  opens : ∀ {name r}, Http.escapeIndex? q.index = some name → c.Sends (Client.openInquiry name q) r →
    ∀ state, server.Hands left r state (stream.take size) (stream.drop size)
  continues : ∀ {id r}, c.Sends (Client.continueInquiry id q.scroll) r → ∀ {state rest},
    left state id = some rest → server.Hands left r state (rest.take size) (rest.drop size)

namespace Client

variable {c : Client (Wire σ)} {server : Peer σ} {fate : Nat → Passage}
  {left : σ → String → Option (List Json)} {inquiry : Inquiry} {content : Option String}
  {hits rest : List Json} {link later : Link (Wire σ)} {outcome : Except Error Attempt}

/-- A response brings the hits that were handed out, and the scroll has the rest left. -/
def Brings (left : σ → String → Option (List Json)) (hits rest : List Json)
    (response : HttpResponse) (w : Wire σ) : Prop :=
  ∃ id, response.Carries ⟨some id, hits⟩ ∧ left w.server id = some rest

/-- What an attempt can come to when the server hands out hits for it. -/
inductive Comes (c : Client (Wire σ)) (left : σ → String → Option (List Json)) (inquiry : Inquiry)
    (hits rest : List Json) (w w' : Wire σ) : Except Error Attempt → Prop where
  | unsent {e : Error} (hwire : w' = w) : Comes c left inquiry hits rest w w' (.error e)
  | arrives {response : HttpResponse} (hbrings : Brings left hits rest response w') :
      Comes c left inquiry hits rest w w' (.ok (.answered response))
  | requestLost {f : NetworkFailure} (hserver : w'.server = w.server) :
      Comes c left inquiry hits rest w w' (.ok (.failed f))
  | responseLost {r : HttpRequest} {f : NetworkFailure} (hsends : c.Sends inquiry r)
      (hsent : w'.sent = w.sent ++ [(r, .responseLost f)]) :
      Comes c left inquiry hits rest w w' (.ok (.failed f))

/-- An attempt is one of the cases of `Comes`. -/
theorem comes_attempt (hpeer : c.peer = server.lossy fate)
    (hbody : bodyText inquiry.body = .ok content)
    (hhands : ∀ r, c.Sends inquiry r → server.Hands left r link.peer.server hits rest)
    (h : c.attempt inquiry content link = (outcome, later)) :
    Comes c left inquiry hits rest link.peer later.peer outcome := by
  have hcase := attempts_attempt c inquiry content link
  rw [h] at hcase
  cases hcase with
  | unsent hlater => exact .unsent hlater
  | @sent r delivery mid _ hmethod haddress hcontent hexchange hlater =>
      have hsends : c.Sends inquiry r := ⟨hmethod, haddress, by rw [hbody, hcontent]⟩
      obtain ⟨response, id, state, hanswer, hcarries, hleft⟩ := hhands r hsends
      rcases hcross : c.peer r link.peer with ⟨found, w'⟩
      have hcrosses := crosses_lossy server fate r link.peer
      rw [← hpeer, hcross] at hcrosses
      -- only a request that arrives moves the server, and only then its page comes back
      cases hcrosses with
      | arrives hserver =>
          rw [hanswer] at hserver
          obtain ⟨rfl, rfl⟩ := Prod.mk.inj hserver
          obtain ⟨end', hend, hstate⟩ := exchange_of_response hcross hcarries.direct maxRedirects
          rw [hend] at hexchange
          obtain ⟨rfl, rfl⟩ := Prod.mk.inj hexchange
          refine .arrives ⟨id, hcarries, ?_⟩
          rw [hlater, hstate]
          exact hleft
      | requestLost f =>
          obtain ⟨end', hend, hstate⟩ := exchange_of_failure hcross maxRedirects
          rw [hend] at hexchange
          obtain ⟨rfl, rfl⟩ := Prod.mk.inj hexchange
          refine .requestLost ?_
          rw [hlater, hstate]
      | responseLost f =>
          obtain ⟨end', hend, hstate⟩ := exchange_of_failure hcross maxRedirects
          rw [hend] at hexchange
          obtain ⟨rfl, rfl⟩ := Prod.mk.inj hexchange
          refine .responseLost hsends ?_
          rw [hlater, hstate]

/-- **The attempts of a request bring what each of them brings**, or the request fails. Something holds
as long as no answer came; what is safe later was safe before. The induction is on the attempts. -/
theorem retries_brings (holds safe : Wire σ → Prop)
    (hstep : ∀ {link later : Link (Wire σ)} {outcome : Except Error Attempt}, holds link.peer →
      c.attempt inquiry content link = (outcome, later) → safe later.peer →
        ((∀ r, outcome ≠ .ok (.answered r)) ∧ holds later.peer) ∨
          ∃ r, outcome = .ok (.answered r) ∧ Brings left hits rest r later.peer)
    (hpeer : c.peer = server.lossy fate) (hbody : bodyText inquiry.body = .ok content)
    (hearlier : ∀ {w w' : Wire σ}, w.sent <+: w'.sent → safe w' → safe w) {retries : Nat}
    {result : Except Error Reply × Link (Wire σ)}
    (h : Retries c inquiry content retries link result) (hholds : holds link.peer)
    (hsafe : safe result.2.peer) :
    (∃ e, result.1 = .error e ∧ holds result.2.peer) ∨
      ∃ reply id, result.1 = .ok reply ∧ Reply.page reply = .ok ⟨some id, hits⟩ ∧
        left result.2.peer.server id = some rest := by
  induction h with
  | @fails _ _ later outcome e hattempt houtcome =>
      obtain ⟨-, hlater⟩ | ⟨r, rfl, id, hcarries, -⟩ := hstep hholds hattempt hsafe
      · exact .inl ⟨e, rfl, hlater⟩
      · -- what carries a page is a success with a text
        obtain ⟨text, j, htext, -⟩ := hcarries.page
        rcases houtcome r rfl with hstatus | hnone
        · rw [hcarries.success] at hstatus
          cases hstatus
        · rw [htext] at hnone
          cases hnone
  | @succeeds _ retries _ later r text hattempt htext =>
      obtain ⟨hnone, -⟩ | ⟨r', hr, id, hcarries, hleft⟩ := hstep hholds hattempt hsafe
      · exact absurd rfl (hnone r)
      · obtain rfl : r = r' := by simpa using hr
        obtain ⟨text', j, htext', hjson, hpage⟩ := hcarries.page
        obtain rfl : text = text' := Option.some.inj (htext.symm.trans htext')
        refine .inr ⟨_, id, rfl, ?_, hleft⟩
        rw [Reply.page, Reply.json, hjson]
        exact hpage
  | @again _ _ mid next outcome result hattempt houtcome hnext hrest ih =>
      -- what was sent stays on record, so what is safe in the end was safe after this attempt
      have hsent : mid.peer.sent <+: result.2.peer.sent := by
        rw [← hnext]
        exact sent_retries hpeer hbody hrest
      obtain ⟨-, hmid⟩ | ⟨r, hr, id, hcarries, -⟩ :=
        hstep hholds hattempt (hearlier hsent hsafe)
      · rw [← hnext] at hmid
        exact ih hmid hsafe
      · -- an answer with a page is a success, which is not tried again
        have hstatus := houtcome r (by simpa using hr)
        rw [hcarries.success] at hstatus
        cases hstatus

/-! ## The requests of a scroll -/

section Requests

variable {τ : Type} (c : Client τ)

/-- The page of an inquiry is that of its reply. -/
theorem page_of_request (inquiry : Inquiry) (link : Link τ) :
    (do
      let reply ← c.request inquiry
      ScrollPage.ofJson (← reply.json) : Task (Link τ) ScrollPage) link =
      ((c.request inquiry link).1.bind Reply.page, (c.request inquiry link).2) := by
  rcases hrequest : c.request inquiry link with ⟨e | reply, later⟩
  · exact Task.bind_of_error hrequest
  · refine (Task.bind_of_ok hrequest).trans ?_
    rcases hjson : reply.json with e | j
    · refine (Task.bind_lift_of_error rfl _).trans ?_
      rw [Except.bind, Reply.page, hjson]
      rfl
    · refine (Task.bind_lift_of_ok rfl _).trans ?_
      rw [Except.bind, Reply.page, hjson]
      rfl

/-- An index without a name in a path has no scroll. -/
theorem openScroll_of_unnamed {q : Search} (hname : Http.escapeIndex? q.index = none)
    (link : Link τ) : c.openScroll q link = (.error .notEncodable, link) := by
  refine Task.bind_of_error ?_
  rw [indexPath, hname]
  rfl

/-- Opening a scroll answers its inquiry. -/
theorem openScroll_of_named {q : Search} {name : String}
    (hname : Http.escapeIndex? q.index = some name) (link : Link τ) :
    c.openScroll q link =
      ((c.request (openInquiry name q) link).1.bind Reply.page,
        (c.request (openInquiry name q) link).2) := by
  refine Eq.trans (Task.bind_of_ok ?_) (c.page_of_request (openInquiry name q) link)
  rw [indexPath, hname]
  rfl

/-- Opening a scroll answers its inquiry, if its index has a name in a path. -/
theorem openScroll_cases (q : Search) (link : Link τ) :
    (∃ e, c.openScroll q link = (.error e, link)) ∨
      ∃ name, Http.escapeIndex? q.index = some name ∧
        c.openScroll q link =
          ((c.request (openInquiry name q) link).1.bind Reply.page,
            (c.request (openInquiry name q) link).2) := by
  rcases hname : Http.escapeIndex? q.index with - | name
  · exact .inl ⟨.notEncodable, c.openScroll_of_unnamed hname link⟩
  · exact .inr ⟨name, rfl, c.openScroll_of_named hname link⟩

/-- Going on with a scroll answers its inquiry. -/
theorem continueScroll_eq (id keep : String) (link : Link τ) :
    c.continueScroll id keep link =
      ((c.request (continueInquiry id keep) link).1.bind Reply.page,
        (c.request (continueInquiry id keep) link).2) :=
  c.page_of_request (continueInquiry id keep) link

end Requests

/-- No request to go on with a scroll arrived again after its response had been lost, with nothing but lost
attempts in between. -/
def Unresumed {τ : Type} (c : Client τ) (w : Wire σ) : Prop :=
  ∀ id keep before r f lost r' after, c.Sends (continueInquiry id keep) r →
    c.Sends (continueInquiry id keep) r' → (∀ x ∈ lost, x.2 ≠ .arrives) →
      w.sent ≠ before ++ (r, .responseLost f) :: lost ++ (r', .arrives) :: after

/-- What was not resumed later was not resumed before. -/
theorem Unresumed.of_prefix {τ : Type} {c : Client τ} {w w' : Wire σ} (hsent : w.sent <+: w'.sent)
    (h : c.Unresumed w') : c.Unresumed w := by
  intro id keep before r f lost r' after hr hr' hlost heq
  obtain ⟨more, hmore⟩ := hsent
  refine h id keep before r f lost r' (after ++ more) hr hr' hlost ?_
  rw [← hmore, heq, List.append_assoc]
  rfl

/-- A scroll is ready with a rest: that is what the server has left for it, or the response to a
request to go on with it was lost and nothing has arrived since. -/
def Ready (c : Client (Wire σ)) (left : σ → String → Option (List Json)) (keep : String)
    (w : Wire σ) (id : String) (rest : List Json) : Prop :=
  left w.server id = some rest ∨
    ∃ before r f lost, c.Sends (continueInquiry id keep) r ∧ (∀ x ∈ lost, x.2 ≠ .arrives) ∧
      w.sent = before ++ (r, .responseLost f) :: lost

variable {q : Search} {stream : List Json} {size : Nat}

/-- **A request that opens a scroll brings the first page** or fails. -/
theorem openScroll_brings (hpeer : c.peer = server.lossy fate)
    (hserves : server.Serves c q stream size left) {answer : Except Error ScrollPage}
    (h : c.openScroll q link = (answer, later)) :
    (∃ e, answer = .error e) ∨ ∃ id, answer = .ok ⟨some id, stream.take size⟩ ∧
      left later.peer.server id = some (stream.drop size) := by
  obtain ⟨e, hfails⟩ | ⟨name, hname, hopens⟩ := openScroll_cases c q link
  · rw [h] at hfails
    obtain ⟨rfl, -⟩ := Prod.mk.inj hfails
    exact .inl ⟨e, rfl⟩
  rw [h] at hopens
  obtain ⟨rfl, rfl⟩ := Prod.mk.inj hopens
  obtain ⟨e, hfails⟩ | ⟨content, retries, hbody, hretries⟩ :=
    request_cases c (openInquiry name q) link
  · rw [hfails]
    exact .inl ⟨e, rfl⟩
  -- every attempt that arrives opens a scroll of its own, so losses do no harm
  have hstep : ∀ {link later : Link (Wire σ)} {outcome : Except Error Attempt}, True →
      c.attempt (openInquiry name q) content link = (outcome, later) → True →
        ((∀ r, outcome ≠ .ok (.answered r)) ∧ True) ∨ ∃ r, outcome = .ok (.answered r) ∧
          Brings left (stream.take size) (stream.drop size) r later.peer := by
    intro link later outcome _ hattempt _
    have hcomes := comes_attempt hpeer hbody
      (fun r hr => hserves.opens hname hr link.peer.server) hattempt
    cases hcomes with
    | unsent | requestLost | responseLost => exact .inl ⟨(fun _ h => by cases h), trivial⟩
    | arrives hbrings => exact .inr ⟨_, rfl, hbrings⟩
  obtain ⟨e, hfails, -⟩ | ⟨reply, id, hreply, hpage, hleft⟩ :=
    retries_brings (fun _ => True) (fun _ => True) hstep hpeer hbody (fun _ _ => trivial) hretries
      trivial trivial
  · rw [hfails]
    exact .inl ⟨e, rfl⟩
  · rw [hreply]
    exact .inr ⟨id, hpage, hleft⟩

/-- **A request that goes on with a scroll brings the next page** or fails, and then the scroll is still
ready. -/
theorem continueScroll_brings (hpeer : c.peer = server.lossy fate)
    (hserves : server.Serves c q stream size left) {id : String} {rest : List Json}
    (hready : c.Ready left q.scroll link.peer id rest) {answer : Except Error ScrollPage}
    (h : c.continueScroll id q.scroll link = (answer, later)) (hsafe : c.Unresumed later.peer) :
    (∃ e, answer = .error e ∧ c.Ready left q.scroll later.peer id rest) ∨
      ∃ id', answer = .ok ⟨some id', rest.take size⟩ ∧
        left later.peer.server id' = some (rest.drop size) := by
  rw [continueScroll_eq] at h
  obtain ⟨rfl, rfl⟩ := Prod.mk.inj h
  obtain ⟨e, hfails⟩ | ⟨content, retries, hbody, hretries⟩ :=
    request_cases c (continueInquiry id q.scroll) link
  · rw [hfails]
    exact .inl ⟨e, rfl, hready⟩
  -- an attempt brings the page, or the scroll stays ready for it, at worst with the response lost
  have hstep : ∀ {link later : Link (Wire σ)} {outcome : Except Error Attempt},
      c.Ready left q.scroll link.peer id rest →
      c.attempt (continueInquiry id q.scroll) content link = (outcome, later) →
      c.Unresumed later.peer →
        ((∀ r, outcome ≠ .ok (.answered r)) ∧ c.Ready left q.scroll later.peer id rest) ∨
          ∃ r, outcome = .ok (.answered r) ∧
            Brings left (rest.take size) (rest.drop size) r later.peer := by
    rintro link later outcome (hleft | ⟨before, r, f, lost, hr, hlost, hsent⟩) hattempt hsafe
    · have hcomes := comes_attempt hpeer hbody (fun r hr => hserves.continues hr hleft) hattempt
      cases hcomes with
      | unsent hwire =>
          refine .inl ⟨(fun _ h => by cases h), ?_⟩
          rw [hwire]
          exact .inl hleft
      | requestLost hserver =>
          refine .inl ⟨(fun _ h => by cases h), .inl ?_⟩
          rw [hserver]
          exact hleft
      | responseLost hr hsent =>
          exact .inl ⟨(fun _ h => by cases h), .inr ⟨_, _, _, [], hr, by simp, hsent⟩⟩
      | arrives hbrings => exact .inr ⟨_, rfl, hbrings⟩
    · -- after the response was lost no other attempt can have arrived
      obtain ⟨e, rfl, hlater⟩ | ⟨r', hr', harrives | ⟨p, f', hp, rfl, hmore⟩⟩ :=
        attempt_lossy hpeer hbody hattempt
      · refine .inl ⟨(fun _ h => by cases h), ?_⟩
        rw [hlater]
        exact .inr ⟨before, r, f, lost, hr, hlost, hsent⟩
      · -- it would have resumed the scroll a second time
        obtain ⟨after, hafter⟩ := harrives
        refine absurd ?_ (hsafe id q.scroll before r f lost r' after hr hr' hlost)
        rw [← hafter, hsent, List.append_assoc, List.append_assoc]
        simp
      · -- one more request that did not arrive
        refine .inl ⟨(fun _ h => by cases h), .inr ?_⟩
        refine ⟨before, r, f, lost ++ [(r', p)], hr, ?_, ?_⟩
        · intro x hx
          rcases List.mem_append.mp hx with hx | hx
          · exact hlost x hx
          · rw [List.mem_singleton.mp hx]
            exact hp
        · rw [hmore, hsent, List.append_assoc]
          rfl
  obtain ⟨e, hfails, hready⟩ | ⟨reply, id', hreply, hpage, hleft⟩ :=
    retries_brings (c.Ready left q.scroll · id rest) c.Unresumed hstep hpeer hbody
      Unresumed.of_prefix hretries hready hsafe
  · rw [hfails]
    exact .inl ⟨e, rfl, hready⟩
  · rw [hreply]
    exact .inr ⟨id', hpage, hleft⟩

/-- The requests of a scroll and its log records leave on record what was. -/
theorem scrolls_moves_sent (hpeer : c.peer = server.lossy fate) :
    c.scrolls.Moves fun link later => link.peer.sent <+: later.peer.sent where
  refl _ := List.prefix_rfl
  trans := List.IsPrefix.trans
  start {q link answer later} h := by
    obtain ⟨e, hfails⟩ | ⟨name, -, hopens⟩ := openScroll_cases c q link
    · obtain ⟨-, rfl⟩ := Prod.mk.inj (hfails.symm.trans h)
      exact List.prefix_rfl
    · obtain ⟨-, rfl⟩ := Prod.mk.inj (hopens.symm.trans h)
      exact sent_request hpeer _ link
  next {id keep link answer later} h := by
    obtain ⟨-, rfl⟩ := Prod.mk.inj ((continueScroll_eq c id keep link).symm.trans h)
    exact sent_request hpeer _ link
  release {id link answer later} h := by
    have hsent := sent_request hpeer (releaseInquiry id) link
    rcases hrequest : c.request (releaseInquiry id) link with ⟨result, mid⟩
    rw [hrequest] at hsent
    have hclear := (clearScroll_eq hrequest).symm.trans h
    split at hclear
    · obtain ⟨-, rfl⟩ := Prod.mk.inj hclear
      exact hsent
    · -- the log record of a release that was given up
      obtain ⟨-, rfl⟩ := Prod.mk.inj hclear
      exact hsent
    · obtain ⟨-, rfl⟩ := Prod.mk.inj hclear
      exact hsent
  log _ _ := List.prefix_rfl

/-- **A client delivers the stream of its server page by page**, as long as no request to go on with a
scroll arrives again after its response was lost. -/
theorem delivers_of_lossy (hpeer : c.peer = server.lossy fate)
    (hserves : server.Serves c q stream size left) :
    c.scrolls.Delivers q stream size (fun link => c.Unresumed link.peer)
      fun link => c.Ready left q.scroll link.peer where
  start h := by
    obtain hfails | ⟨id, hpage, hleft⟩ := openScroll_brings hpeer hserves h
    · exact .inl hfails
    · exact .inr ⟨id, hpage, .inl hleft⟩
  next hready h hsafe := by
    obtain hfails | ⟨id, hpage, hleft⟩ := continueScroll_brings hpeer hserves hready h hsafe
    · exact .inl hfails
    · exact .inr ⟨id, hpage, .inl hleft⟩
  earlier :=
    have hmoves := scrolls_moves_sent hpeer
    { refl := fun _ hsafe => hsafe
      trans := fun hfirst hsecond hsafe => hfirst (hsecond hsafe)
      start := fun h => Unresumed.of_prefix (hmoves.start h)
      next := fun h => Unresumed.of_prefix (hmoves.next h)
      release := fun h => Unresumed.of_prefix (hmoves.release h)
      log := fun record link => Unresumed.of_prefix (hmoves.log record link) }

/-- **The rows of a scan without filter, offset and limit are those of a beginning of the stream**, at every
moment, as long as no request to go on with a scroll arrives again after its response was lost. -/
theorem rows_of_lossy (hpeer : c.peer = server.lossy fate) {r : ScanRequest} {schema : Schema}
    {s : Scan} (hcreate : Scan.create r schema = .ok s) (hplain : Scan.Plain r)
    (hserves : server.Serves c s.search stream size left) {rows : List Row} {t : Scan}
    (hreaches : s.Reaches c.scrolls link rows t later) (hsafe : c.Unresumed later.peer) :
    ∃ hits, hits <+: stream ∧
      List.Forall₂ (fun hit row => s.decoder.decode hit = .ok row) hits rows := by
  obtain ⟨rfl, hinit, -⟩ := Scan.fresh_of_create hcreate
  have hdelivers := delivers_of_lossy hpeer hserves
  exact Scan.rows_of_delivers hdelivers hplain hinit hreaches hsafe

end Client

/-! ## Three documents, one on a page -/

namespace Singles

/-- The hit of a document. -/
def hit (id : String) : Json := .obj [("_id", .str id)]

/-- The hits of the documents. -/
def stream : List Json := ["1", "2", "3"].map hit

/-- The text of the page with the hit of a number; behind the last one the page is empty. -/
def text : Nat → String
  | 0 => "\x7b\"_scroll_id\":\"a\",\"hits\":\x7b\"hits\":[\x7b\"_id\":\"1\"\x7d]\x7d\x7d"
  | 1 => "\x7b\"_scroll_id\":\"a\",\"hits\":\x7b\"hits\":[\x7b\"_id\":\"2\"\x7d]\x7d\x7d"
  | 2 => "\x7b\"_scroll_id\":\"a\",\"hits\":\x7b\"hits\":[\x7b\"_id\":\"3\"\x7d]\x7d\x7d"
  | _ => "\x7b\"_scroll_id\":\"a\",\"hits\":\x7b\"hits\":[]\x7d\x7d"

/-- The response with this page. -/
def response (n : Nat) : HttpResponse := ⟨200, [], (text n).toList.map Char.toNat⟩

/-- A server with one scroll. Its state is the number of the hit that comes next. -/
def server : Peer Nat := fun r n =>
  if r.address.path = Client.scrollPath then (.response (response n), n + 1)
  else (.response (response 0), 1)

/-- What the server has left of the scroll. -/
def left (n : Nat) (_ : String) : Option (List Json) := some (stream.drop n)

/-- A client of the server, over a network. -/
def client (fate : Nat → Passage) : Client (Wire Nat) :=
  { connection := {}
    base := ⟨"http", "", "localhost", some 9200, "/", none, none⟩
    sink := none
    peer := server.lossy fate }

/-- A request for the ids of all documents. -/
def request : ScanRequest :=
  { index := "documents"
    query := .matchAll
    projection := .nothing
    columns := ["_id"]
    pageSize := 1
    scroll := "5m"
    limit := none
    offset := 0
    fullyPushed := true
    rowFilter := none }

/-- The scan of the request. -/
def scan : Scan :=
  { request
    body := request.body
    decoder := ⟨[("_id", .id)], .ofMapped [], []⟩
    filterDecoder := none }

/-- The text of a response. -/
theorem text_response (n : Nat) : (response n).text? = some (text n) := by
  match n with
  | 0 | 1 | 2 => rfl
  | _ + 3 =>
      rw [response, text]
      · rfl
      all_goals simp

/-- What the text says. -/
theorem read_text (n : Nat) :
    Json.read? (text n) = some (.obj [("_scroll_id", .str "a"),
      ("hits", .obj [("hits", .arr ((stream.drop n).take 1))])]) := by
  match n with
  | 0 | 1 | 2 => cbv
  | n + 3 =>
      rw [List.drop_of_length_le (Nat.le_add_left 3 n)]
      cbv

/-- A response carries its page. -/
theorem carries_response (n : Nat) : (response n).Carries ⟨some "a", (stream.drop n).take 1⟩ :=
  ⟨rfl, rfl, _, _, text_response n, read_text n, rfl⟩

/-- The path of a request that opens the scroll. -/
theorem path_opens {fate : Nat → Passage} {r : HttpRequest}
    (h : (client fate).Sends (Client.openInquiry "documents" scan.search) r) :
    r.address.path = "/documents/_search" := by
  have hpath : ((client fun _ => .arrives).address "/documents/_search"
      (some [("scroll", .str "5m"), ("size", .int 1)])).map (·.path) =
        .ok "/documents/_search" := by rfl
  -- an address is a matter of the base alone
  have haddress : (client fun _ => .arrives).address "/documents/_search"
      (some [("scroll", .str "5m"), ("size", .int 1)]) = .ok r.address := h.address
  rw [haddress] at hpath
  exact Except.ok.inj hpath

/-- The path of a request that goes on with the scroll. -/
theorem path_continues {fate : Nat → Passage} {id keep : String} {r : HttpRequest}
    (h : (client fate).Sends (Client.continueInquiry id keep) r) :
    r.address.path = Client.scrollPath := by
  have hpath : ((client fun _ => .arrives).address Client.scrollPath none).map (·.path) =
      .ok Client.scrollPath := by rfl
  have haddress : (client fun _ => .arrives).address Client.scrollPath none = .ok r.address :=
    h.address
  rw [haddress] at hpath
  exact Except.ok.inj hpath

/-- The server serves the documents one by one. -/
theorem serves (fate : Nat → Passage) :
    server.Serves (client fate) scan.search stream 1 left where
  opens {name r} hname hsends n := by
    have hescape : Http.escapeIndex? "documents" = some "documents" := by rfl
    obtain rfl : "documents" = name := Option.some.inj (hescape.symm.trans hname)
    refine ⟨response 0, "a", 1, ?_, carries_response 0, rfl⟩
    rw [server, if_neg]
    rw [path_opens hsends]
    decide
  continues {id r} hsends {n rest} hleft := by
    obtain rfl := Option.some.inj hleft
    refine ⟨response n, "a", n + 1, ?_, carries_response n, ?_⟩
    · rw [server, if_pos (path_continues hsends)]
    · rw [left, List.drop_drop]

/-- The id in a row. -/
def idOf (row : Row) : Option String :=
  match row.lookup "_id" with
  | some (.str id) => some id
  | _ => none

/-- Whether an attempt to go on with the scroll lost its response. -/
def isLoss : HttpRequest × Passage → Bool
  | (r, .responseLost _) => r.address.path == Client.scrollPath
  | _ => false

/-- The ids of all rows that the scan returns, and whether an attempt to go on with the scroll lost its
response on the way. -/
def outcome (fate : Nat → Passage) : Option (Option (List (Option String)) × Bool) :=
  (scan.rows (client fate).scrolls 20 5 { peer := { server := 0 } }).map
    fun (answer, _, link) => (answer.toOption.map (·.map idOf), link.peer.sent.any isLoss)

/-- What the scan returned is what can be reached. -/
theorem reaches_of_outcome (fate : Nat → Passage) (ids : List (Option String)) (lossy : Bool)
    (h : outcome fate = some (some ids, lossy)) :
    ∃ rows t link, scan.Reaches (client fate).scrolls { peer := { server := 0 } } rows t link ∧
      rows.map idOf = ids ∧ link.peer.sent.any isLoss = lossy := by
  rw [outcome] at h
  rcases hrows : scan.rows (client fate).scrolls 20 5 { peer := { server := 0 } } with
    - | ⟨e | found, t, link⟩
  · simp [hrows] at h
  · simp [hrows, Except.toOption] at h
  · obtain ⟨rows, hreaches, hfound⟩ := Scan.Reaches.rows .start hrows
    obtain rfl := hfound found rfl
    simp only [hrows, Option.map_some, Except.toOption, Option.some.injEq, Prod.mk.injEq] at h
    exact ⟨found, t, link, hreaches, h⟩

/-- Without such an attempt none arrived again. -/
theorem unresumed_of_any {fate : Nat → Passage} {w : Wire Nat} (h : w.sent.any isLoss = false) :
    (client fate).Unresumed w := by
  intro id keep before r f lost r' after hr _ _ hsent
  have hloss : isLoss (r, .responseLost f) = true := by
    rw [isLoss, path_continues hr]
    rfl
  have hmem : (r, .responseLost f) ∈ w.sent := by
    rw [hsent]
    simp
  exact List.any_eq_false.mp h _ hmem hloss

/-- Rows of a beginning of the stream have the ids of a beginning of the documents. -/
theorem ids_of_prefix {hits : List Json} {rows : List Row} (hbegins : hits <+: stream)
    (hrows : List.Forall₂ (fun hit row => scan.decoder.decode hit = .ok row) hits rows) :
    rows.map idOf <+: ["1", "2", "3"].map some := by
  obtain ⟨ids, hids, rfl⟩ := List.prefix_map_iff.mp hbegins
  suffices hall : rows.map idOf = ids.map some by
    rw [hall]
    exact hids.map some
  clear hids hbegins
  induction ids generalizing rows with
  | nil =>
      cases hrows
      rfl
  | cons id ids ih =>
      rcases hrows with - | ⟨hrow, hrest⟩
      obtain rfl := Except.ok.inj hrow
      rw [List.map_cons, List.map_cons, ih hrest]
      rfl

/-- The response to the search is lost, and later a request to go on with the scroll. -/
def harmless : Nat → Passage
  | 0 => .responseLost ⟨"ReadTimeout", ""⟩
  | 2 => .requestLost ⟨"ConnectError", ""⟩
  | _ => .arrives

/-- Neither of these losses keeps a row from coming. -/
theorem rows_of_lossy_harmless :
    ∃ rows t link, scan.Reaches (client harmless).scrolls { peer := { server := 0 } } rows t link ∧
      rows.map idOf = [some "1", some "2", some "3"] ∧
      ∃ hits, hits <+: stream ∧
        List.Forall₂ (fun hit row => scan.decoder.decode hit = .ok row) hits rows := by
  obtain ⟨rows, t, link, hreaches, hids, hsafe⟩ :=
    reaches_of_outcome harmless [some "1", some "2", some "3"] false (by decide +kernel)
  have hpeer : (client harmless).peer = server.lossy harmless := rfl
  have hcreate : Scan.create request { columns := [] } = .ok scan := rfl
  have hunresumed : (client harmless).Unresumed link.peer := unresumed_of_any hsafe
  exact ⟨rows, t, link, hreaches, hids,
    Client.rows_of_lossy hpeer hcreate ⟨rfl, rfl, rfl⟩ (serves harmless) hreaches hunresumed⟩

/-- The response to the first request to go on with the scroll is lost. -/
def harmful : Nat → Passage
  | 1 => .responseLost ⟨"ReadTimeout", ""⟩
  | _ => .arrives

/-- **A page is passed over**: the response to a request to go on is lost and the request is made again,
so the second document is missing between the rows of the first and the third one. -/
theorem passes_over_lost_page :
    ¬ ∀ {c : Client (Wire Nat)} {server : Peer Nat} {fate : Nat → Passage},
      c.peer = server.lossy fate → ∀ {r : ScanRequest} {schema : Schema} {s : Scan},
        Scan.create r schema = .ok s → Scan.Plain r →
          ∀ {stream : List Json} {size : Nat} {left : Nat → String → Option (List Json)},
            server.Serves c s.search stream size left →
              ∀ {link link' : Link (Wire Nat)} {rows : List Row} {t : Scan},
                s.Reaches c.scrolls link rows t link' →
                  ∃ hits, hits <+: stream ∧
                    List.Forall₂ (fun hit row => s.decoder.decode hit = .ok row) hits rows := by
  intro hall
  obtain ⟨rows, t, link, hreaches, hids, -⟩ :=
    reaches_of_outcome harmful [some "1", some "3"] true (by decide +kernel)
  have hpeer : (client harmful).peer = server.lossy harmful := rfl
  have hcreate : Scan.create request { columns := [] } = .ok scan := rfl
  obtain ⟨hits, hbegins, hrows⟩ := hall hpeer hcreate ⟨rfl, rfl, rfl⟩ (serves harmful) hreaches
  have hbad := ids_of_prefix hbegins hrows
  rw [hids] at hbad
  revert hbad
  decide

end Singles

end SearchTables
