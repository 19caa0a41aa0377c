import SearchTables.Proofs.Client.Events
import SearchTables.Proofs.Mapping.Faults

/-! # Bodies — what a client makes of the texts that it is sent

A peer may send any text as the body of any response. If its responses can be read at all, a request over
an open link comes to the text of one or is given up (`Client.request_ends`), and a text that is no mapping
or no page is a failure of the cluster like any other (`Client.cluster_answers`). What is asked of the
peer about hits is what the hits of its pages are like. -/

namespace SearchTables

variable {σ : Type} {kind : Json → Prop}

/-! ## Peers -/

/-- A response **reads** as hits of a kind: its body is a text, and if that is a page, its hits are of the
kind. -/
structure HttpResponse.Reads (response : HttpResponse) (kind : Json → Prop) : Prop where
  text : ∃ text, response.text? = some text
  hits : ∀ p, response.page = .ok p → ∀ hit ∈ p.hits, kind hit

/-- What can be delivered for a request to be read. -/
inductive Delivery.Readable (kind : Json → Prop) (r : HttpRequest) : Delivery → Prop where
  | failure (f : NetworkFailure) : Readable kind r (.failure f)
  | response {response : HttpResponse} (hdirect : response.redirect? = none)
      (hreads : response.Reads kind) : Readable kind r (.response response)
  /-- The request goes elsewhere, or it is lost there. -/
  | redirect {response : HttpResponse} {location : String}
      (hredirect : response.redirect? = some location)
      (hlost : ∀ fault, r.address.redirect location = .error fault →
        ∃ f, Delivery.ofRedirectFault fault = .failure f) : Readable kind r (.response response)

/-- A peer **answers readably** when what it delivers can be read: its bodies are texts, whatever these
are, and the hits of its pages are of a kind. -/
def Peer.AnswersReadably (peer : Peer σ) (kind : Json → Prop) : Prop :=
  ∀ r state, (peer r state).1.Readable kind r

namespace Client

/-- An attempt that was answered brought a body that can be read. -/
def Heeds (kind : Json → Prop) (outcome : Attempt) : Prop :=
  ∀ response, outcome = .answered response → response.Reads kind

/-- A reply whose page has hits of a kind, if it has one. -/
def Reply.Brings (kind : Json → Prop) (reply : Reply) : Prop :=
  ∀ p, Reply.page reply = .ok p → ∀ hit ∈ p.hits, kind hit

/-- A link over which requests can be sent. -/
def Open (link : Link σ) : Prop := link.closed = false

/-! ## Requests -/

variable {c : Client σ} {inquiry : Inquiry} {content : Option String}

/-- An exchange with a peer that answers readably can be read. The induction is on the redirects that may
be followed. -/
theorem attempt_of_readable {peer : Peer σ} (hpeer : peer.AnswersReadably kind) (hops : Nat)
    (r : HttpRequest) (link : Link σ) :
    ∃ outcome, (exchange peer hops r link).1.attempt = .ok outcome ∧ Heeds kind outcome := by
  induction hops generalizing r link with
  | zero => exact ⟨_, rfl, fun response h => by cases h⟩
  | succ hops ih =>
      have hreadable := hpeer r link.peer
      rw [exchange]
      rcases hdelivery : peer r link.peer with ⟨delivery, state⟩
      rw [hdelivery] at hreadable
      cases hreadable with
      | failure f => exact ⟨_, rfl, fun response h => by cases h⟩
      | @response response hdirect hreads =>
          simp only [hdirect]
          refine ⟨_, rfl, fun response' h => ?_⟩
          obtain rfl := Attempt.answered.inj h
          exact hreads
      | redirect hredirect hlost =>
          simp only [hredirect]
          -- a location that is no address ends the exchange, any other one takes the next hop
          rcases haddress : r.address.redirect _ with fault | address
          · obtain ⟨f, hf⟩ := hlost fault haddress
            dsimp only
            rw [hf]
            exact ⟨_, rfl, fun response h => by cases h⟩
          · exact ih ..

/-- An attempt over an open link does not break down. -/
theorem attempt_ends (hpeer : c.peer.AnswersReadably kind) {address : Address}
    (hdestination : c.destination inquiry = .ok address) :
    (c.attempt inquiry content).Ends Open (Heeds kind) Error.GivenUp := by
  intro link hopen
  have hclosed := (c.grows_attempt inquiry content link).closed
  obtain ⟨outcome, hattempt, hheeds⟩ := attempt_of_readable hpeer (maxRedirects + 1)
    (c.firstRequest inquiry content link.cookies address) link
  rcases hexchange : exchange c.peer (maxRedirects + 1)
    (c.firstRequest inquiry content link.cookies address) link with ⟨delivery, mid⟩
  rw [hexchange] at hattempt
  rw [attempt_of_open hdestination hopen hexchange, hattempt] at hclosed ⊢
  exact .ok (hclosed.trans hopen) hheeds

/-- The text of a response that can be read is as good as a reply. -/
theorem brings_of_reads {response : HttpResponse} (hreads : response.Reads kind) {text : String}
    (htext : Attempt.text response = .ok text) (retries : Nat) :
    Reply.Brings kind ⟨response.status, text, retries⟩ := by
  intro p hpage
  refine hreads.hits p ?_
  rw [HttpResponse.page, htext]
  exact hpage

/-- A response that can be read has a text. -/
theorem exists_text_of_reads {response : HttpResponse} (hreads : response.Reads kind) :
    ∃ text, Attempt.text response = .ok text := by
  obtain ⟨text, htext⟩ := hreads.text
  rw [Attempt.text, htext]
  exact ⟨text, rfl⟩

/-- An attempt without success is given up with a report, if its answer can be read. -/
theorem givenUp_of_heeds {outcome : Attempt} (h : Heeds kind outcome) (hmisses : Misses outcome)
    {retries : Nat} {e : Error} (hgive : retrying.giveUp inquiry outcome retries = .error e) :
    e.GivenUp := by
  rw [retrying.giveUp] at hgive
  cases outcome with
  | failed f =>
      obtain rfl := Except.error.inj hgive
      exact ⟨_, rfl, fun code reason body hlast => by cases hlast⟩
  | answered response =>
      obtain ⟨text, htext⟩ := exists_text_of_reads (h response rfl)
      rw [Attempt.report, htext] at hgive
      obtain rfl := Except.error.inj hgive
      refine ⟨_, rfl, fun code reason body hlast => ?_⟩
      obtain ⟨rfl, -, -⟩ := FailedAttempt.status.inj hlast
      exact hmisses response rfl

/-- **A planned request comes to a reply, or it is given up.** -/
theorem request_ends (hpeer : c.peer.AnswersReadably kind) {planned : Option String × Address}
    (hplan : c.plan inquiry = .ok planned) :
    (c.request inquiry).Ends Open (Reply.Brings kind) Error.GivenUp := by
  obtain ⟨content, address⟩ := planned
  obtain ⟨-, -, hdestination⟩ := of_plan hplan
  have hattempt : (c.attempt inquiry content).Ends Open (Heeds kind) Error.GivenUp :=
    attempt_ends hpeer hdestination
  intro link hopen
  rw [request_of_plan hplan]
  refine leads_retrying hattempt hattempt (fun _ _ h => h) ?_ ?_ ?_ _ _ _ link hopen
  · exact fun response text retries hheeds htext => brings_of_reads (hheeds response rfl) htext retries
  · intro response e hheeds hfails
    obtain ⟨text, htext⟩ := exists_text_of_reads (hheeds response rfl)
    rw [htext] at hfails
    cases hfails
  · exact fun outcome retries e hheeds hmisses hgive => givenUp_of_heeds hheeds hmisses hgive

/-! ## Bodies -/

/-- A reply whose body is no JSON has one of a wrong shape. -/
theorem Reply.decode_of_json {reply : Reply} {e : Error} (h : reply.json = .error e) :
    e.family = .decode := by
  unfold Reply.json at h
  split at h
  · cases h
  · obtain rfl := Except.error.inj h
    rfl

/-- A reply without a page has a body of a wrong shape. -/
theorem Reply.decode_of_page {reply : Reply} {e : Error} (h : Reply.page reply = .error e) :
    e.family = .decode := by
  obtain hjson | ⟨j, -, h⟩ := bind_eq_error.1 h
  · exact Reply.decode_of_json hjson
  · unfold ScrollPage.ofJson at h
    split at h
    · obtain rfl := Except.error.inj h
      rfl
    · cases h
    · obtain rfl := Except.error.inj h
      rfl

/-- What is made of the reply to a request for a page. -/
theorem ended_page {outcome : Except Error Reply × Link σ}
    (h : Task.Ended Open (Reply.Brings kind) Error.GivenUp outcome) :
    Task.Ended Open (fun p => ∀ hit ∈ p.hits, kind hit) Error.OfCluster
      (outcome.1.bind Reply.page, outcome.2) := by
  cases h with
  | error hopen hgiven => exact .error hopen (.inl hgiven)
  | @ok reply later hopen hbrings =>
      rcases hpage : Reply.page reply with e | p
      · simp only [Except.bind, hpage]
        exact .error hopen (.inr (Reply.decode_of_page hpage))
      · simp only [Except.bind, hpage]
        exact .ok hopen (hbrings p hpage)

/-- The inquiry for a mapping. -/
def mappingInquiry (name : String) : Inquiry :=
  { method := "GET"
    path := "/" ++ name ++ "/_mapping"
    context := "Failed to get Elasticsearch mapping" }

/-- Whether a client can plan the requests of a scroll. -/
structure CanScroll (c : Client σ) (q : Search) : Prop where
  opens : ∃ name planned, Http.escapeIndex? q.index = some name ∧
    c.plan (openInquiry name q) = .ok planned
  continues : ∀ id, ∃ planned, c.plan (continueInquiry id q.scroll) = .ok planned
  releases : ∀ id, ∃ planned, c.plan (releaseInquiry id) = .ok planned

/-- Whether a client can plan the requests of a resolution. -/
structure CanResolve (c : Client σ) (index : String) (baseQuery : Option Json)
    (settings : ScanSettings) : Prop where
  maps : ∃ name planned, Http.escapeIndex? index = some name ∧
    c.plan (mappingInquiry name) = .ok planned
  scrolls : c.CanScroll (sampleSearch index baseQuery settings)

/-- Opening a scroll fails only because of the cluster. -/
theorem openScroll_ends (hpeer : c.peer.AnswersReadably kind) {q : Search} (hcan : c.CanScroll q) :
    (c.openScroll q).Ends Open (fun p => ∀ hit ∈ p.hits, kind hit) Error.OfCluster := by
  obtain ⟨name, planned, hname, hplan⟩ := hcan.opens
  intro link hopen
  rw [c.openScroll_of_named hname]
  exact ended_page (request_ends hpeer hplan link hopen)

/-- Going on with a scroll fails only because of the cluster. -/
theorem continueScroll_ends (hpeer : c.peer.AnswersReadably kind) {q : Search} (hcan : c.CanScroll q)
    (id : String) :
    (c.continueScroll id q.scroll).Ends Open (fun p => ∀ hit ∈ p.hits, kind hit) Error.OfCluster := by
  obtain ⟨planned, hplan⟩ := hcan.continues id
  intro link hopen
  rw [c.continueScroll_eq]
  exact ended_page (request_ends hpeer hplan link hopen)

/-- Releasing a scroll does not fail. -/
theorem clearScroll_ends (hpeer : c.peer.AnswersReadably kind) {q : Search} (hcan : c.CanScroll q)
    (id : String) : (c.clearScroll id).Ends Open (fun _ => True) fun _ => False := by
  obtain ⟨planned, hplan⟩ := hcan.releases id
  intro link hopen
  have hended := request_ends hpeer hplan link hopen
  rcases hrequest : c.request (releaseInquiry id) link with ⟨answer, later⟩
  rw [hrequest] at hended
  rw [clearScroll_eq hrequest]
  cases hended with
  | ok hlater => exact .ok hlater trivial
  | error hlater hgiven =>
      obtain ⟨failure, rfl, -⟩ := hgiven
      exact .ok hlater trivial

/-- **A scroll fails only because of the cluster**, and its pages have hits of the kind. -/
theorem scrolls_answer (hpeer : c.peer.AnswersReadably kind) {q : Search} (hcan : c.CanScroll q) :
    c.scrolls.Answers Open kind q where
  start := openScroll_ends hpeer hcan
  next := continueScroll_ends hpeer hcan
  release := clearScroll_ends hpeer hcan
  log _ _ hopen := hopen

/-- A mapping fails only because of the cluster. -/
theorem mapping_ends (hpeer : c.peer.AnswersReadably kind) {index name : String}
    (hname : Http.escapeIndex? index = some name) {planned : Option String × Address}
    (hplan : c.plan (mappingInquiry name) = .ok planned) :
    (c.mapping index).Ends Open (fun _ => True) Error.OfCluster := by
  intro link hopen
  have hpath : indexPath (σ := σ) index "/_mapping" link = (.ok ("/" ++ name ++ "/_mapping"), link) := by
    rw [indexPath, hname]
    rfl
  have hrequest : (c.request (mappingInquiry name)).Ends Open (fun _ => True) Error.OfCluster :=
    fun link hopen => (request_ends hpeer hplan link hopen).mono (fun _ _ => trivial)
      fun _ => .inl
  rw [mapping, Task.bind_of_ok hpath]
  refine hrequest.bind (fun reply _ => ?_) link hopen
  intro mid hmid
  rcases hjson : reply.json with e | j
  · exact .error hmid (.inr (Reply.decode_of_json hjson))
  · rw [Task.bind_lift_of_ok rfl]
    split
    · exact .ok hmid trivial
    · exact .error hmid (.inr rfl)

/-- **A resolution gets answers from a peer that answers readably.** -/
theorem cluster_answers (hpeer : c.peer.AnswersReadably kind) {index : String} {baseQuery : Option Json}
    {settings : ScanSettings} (hcan : c.CanResolve index baseQuery settings) :
    c.cluster.Answers Open kind index baseQuery settings where
  mapping := by
    obtain ⟨name, planned, hname, hplan⟩ := hcan.maps
    exact mapping_ends hpeer hname hplan
  scrolls := scrolls_answer hpeer hcan.scrolls

end Client

end SearchTables
