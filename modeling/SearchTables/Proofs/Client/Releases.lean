import SearchTables.Proofs.Client.Events
import SearchTables.Proofs.Scan.Lifecycle
import SearchTables.Proofs.Scan.Views

/-! # Releases — which scroll a client releases

A reply to a request for a page offers an id under which the scroll goes on. A client takes it only
from a reply that is a page: when the rest of the body is not that of one, the request fails and the
id is forgotten. So the scroll that a scan releases when it has ended is the one of the last page, and
it is the one that was offered last as long as no reply offers an id without being a page
(`Client.releases_last_page`). -/

namespace SearchTables

variable {σ : Type}

/-! ## Offers -/

namespace Client

/-- The id that a reply offers, if its body is an object with such a text. -/
def Reply.offer? (reply : Reply) : Option String :=
  (reply.json.toOption.bind (·.get? "_scroll_id")).bind Json.str?

/-- The id of a page is what its reply offers. -/
theorem Reply.scrollId_of_page {reply : Reply} {p : ScrollPage} (h : Reply.page reply = .ok p) :
    p.scrollId = Reply.offer? reply := by
  obtain ⟨j, hj, hp⟩ := bind_eq_ok.1 h
  rw [Reply.offer?, hj]
  rw [ScrollPage.ofJson] at hp
  split at hp
  · cases hp
  · obtain rfl := Except.ok.inj hp
    rfl
  · cases hp

/-- The reply to a search. -/
def search (c : Client σ) (q : Search) : Task (Link σ) Reply :=
  match Http.escapeIndex? q.index with
  | some name => c.request (openInquiry name q)
  | none => throw .notEncodable

/-- Opening a scroll reads the page in the reply to its search. -/
theorem openScroll_eq (c : Client σ) (q : Search) (link : Link σ) :
    c.openScroll q link = Prod.map (·.bind Reply.page) id (c.search q link) := by
  rcases hname : Http.escapeIndex? q.index with - | name
  · rw [c.openScroll_of_unnamed hname, search, hname]
    rfl
  · rw [c.openScroll_of_named hname, search, hname]
    rfl

/-- The reply to a search leaves on record what was. -/
theorem grows_search (c : Client σ) (q : Search) (link : Link σ) :
    link.Grows (c.search q link).2 := by
  rcases hname : Http.escapeIndex? q.index with - | name
  · rw [search, hname]
    exact .refl link
  · rw [search, hname]
    exact c.grows_request _ link

end Client

/-! ## What a client hears -/

/-- A request for a scroll, with the reply to it. -/
inductive Heard where
  | opened (search : Search) (answer : Except Error Reply)
  | continued (id keep : String) (answer : Except Error Reply)
  | released (id : String) (answer : Except Error Bool)

namespace Heard

/-- What a service is taken to have answered. -/
def exchange : Heard → Exchange
  | opened search answer => .started search (answer.bind Client.Reply.page)
  | continued id keep answer => .continued id keep (answer.bind Client.Reply.page)
  | released id answer => .released id answer

/-- The reply to a request for a page. -/
def reply? : Heard → Option Reply
  | opened _ answer | continued _ _ answer => answer.toOption
  | released _ _ => none

/-- The id that was offered for the scroll to go on. -/
def offer? (heard : Heard) : Option String := heard.reply?.bind Client.Reply.offer?

/-- Whether an id comes with a page if it is offered at all. -/
def OffersPages (heard : Heard) : Prop :=
  ∀ reply, heard.reply? = some reply → Client.Reply.offer? reply ≠ none →
    ∃ p, Client.Reply.page reply = .ok p

/-- The id that was offered last. -/
def lastOffer? (record : List Heard) : Option String :=
  record.foldl (fun found heard => heard.offer?.or found) none

/-- The id of the last page that had one. -/
def lastPageId? (record : List Heard) : Option String := lastId (record.map exchange)

/-- The id of a release. -/
def releasedId? : Heard → Option String
  | released id _ => some id
  | _ => none

/-- The ids of the scrolls that were released, in order. -/
def releasedIds (record : List Heard) : List String := record.filterMap releasedId?

/-- What was offered last comes before what was offered earlier. -/
theorem lastOffer?_concat (record : List Heard) (heard : Heard) :
    lastOffer? (record ++ [heard]) = heard.offer?.or (lastOffer? record) := by
  rw [lastOffer?, List.foldl_append]
  rfl

/-- The id of a page is what was offered. -/
theorem pageId?_exchange {heard : Heard} (h : heard.OffersPages) :
    heard.exchange.pageId? = heard.offer? := by
  have hpage : ∀ answer : Except Error Reply,
      (∀ reply, answer = .ok reply → Client.Reply.offer? reply ≠ none →
        ∃ p, Client.Reply.page reply = .ok p) →
      (answer.bind Client.Reply.page).toOption.bind (·.scrollId) =
        answer.toOption.bind Client.Reply.offer? := by
    intro answer hreads
    rcases answer with e | reply
    · rfl
    · rcases hfound : Client.Reply.page reply with e | p
      · -- no page, so nothing was offered
        have hnone : Client.Reply.offer? reply = none := by
          by_contra hoffer
          obtain ⟨p, hp⟩ := hreads reply rfl hoffer
          rw [hfound] at hp
          cases hp
        simp [Except.bind, hfound, Except.toOption, hnone]
      · simp [Except.bind, hfound, Except.toOption, Client.Reply.scrollId_of_page hfound]
  cases heard with
  | opened q answer =>
      rw [exchange, Exchange.pageId?_started, hpage answer fun reply hreply => ?_]
      · rfl
      · exact h reply (by rw [reply?, hreply]; rfl)
  | continued id keep answer =>
      rw [exchange, Exchange.pageId?_continued, hpage answer fun reply hreply => ?_]
      · rfl
      · exact h reply (by rw [reply?, hreply]; rfl)
  | released id answer => rfl

/-- **The id that was offered last is that of the last page**, as long as ids come with pages. The
induction is on the record, from its end. -/
theorem lastPageId?_eq_lastOffer? {record : List Heard} (h : ∀ heard ∈ record, heard.OffersPages) :
    lastPageId? record = lastOffer? record := by
  induction record using List.reverseRecOn with
  | nil => rfl
  | append_singleton record heard ih =>
      have hlast : heard.OffersPages := h heard (by simp)
      have hrest := ih fun x hx => h x (by simp [hx])
      rw [lastPageId?] at hrest ⊢
      rw [List.map_append, List.map_singleton, lastId_concat, lastOffer?_concat,
        pageId?_exchange hlast, hrest]

end Heard

/-- The id of a release. -/
def Exchange.releasedId? : Exchange → Option String
  | .released id _ => some id
  | _ => none

/-- A release is taken to be one. -/
theorem Heard.releasedIds_eq (record : List Heard) :
    releasedIds record = (record.map exchange).filterMap Exchange.releasedId? := by
  rw [releasedIds, List.filterMap_map]
  congr 1
  funext heard
  cases heard <;> rfl

/-- Fetches release nothing. The induction is on the fetches. -/
theorem Fetches.releasedIds_eq_nil {q : Search} {log : List Exchange} (h : Fetches q log) :
    log.filterMap Exchange.releasedId? = [] := by
  induction h with
  | none => rfl
  | started answer => rfl
  | continued _ _ answer ih =>
      rw [List.filterMap_append, ih]
      rfl

/-- What is released after fetches is the last id. -/
theorem Releases.releasedIds_eq {fetches release : List Exchange} {q : Search}
    (hfetches : Fetches q fetches) (h : Releases (lastId fetches) release) :
    (fetches ++ release).filterMap Exchange.releasedId? =
      (lastId (fetches ++ release)).toList := by
  rw [List.filterMap_append, hfetches.releasedIds_eq_nil]
  generalize hlast : lastId fetches = last at h
  cases h with
  | none => simp [hlast]
  | once id answer =>
      rw [lastId_concat, hlast]
      rfl

namespace Client

/-- The scrolls of a client, with a record of what it hears. -/
def heard (c : Client σ) : ScrollService (Link σ × List Heard) where
  start q := fun (link, record) =>
    let (answer, link) := c.search q link
    (answer.bind Reply.page, link, record ++ [.opened q answer])
  next id keep := fun (link, record) =>
    let (answer, link) := c.request (continueInquiry id keep) link
    (answer.bind Reply.page, link, record ++ [.continued id keep answer])
  release id := fun (link, record) =>
    let (answer, link) := c.clearScroll id link
    (answer, link, record ++ [.released id answer])
  log entry := fun (link, record) => (c.scrolls.log entry link, record)

/-- With the record left out these are the scrolls of the client. -/
theorem heard_seenAs_scrolls (c : Client σ) : c.heard.SeenAs Prod.fst c.scrolls where
  start q now := c.openScroll_eq q now.1
  next id keep now := c.continueScroll_eq id keep now.1
  release _ _ := rfl
  log _ _ := rfl

/-- What is heard is the record of the exchanges. -/
theorem heard_seenAs_recorded (c : Client σ) :
    c.heard.SeenAs (fun now => (now.1, now.2.map Heard.exchange)) c.scrolls.recorded where
  start q := by
    rintro ⟨link, record⟩
    have hopens : c.scrolls.start q link = _ := c.openScroll_eq q link
    rcases hreply : c.search q link with ⟨answer, later⟩
    rw [hreply] at hopens
    simp only [ScrollService.recorded, heard, hopens, hreply]
    simp [Heard.exchange]
  next id keep := by
    rintro ⟨link, record⟩
    have hgoes : c.scrolls.next id keep link = _ := c.continueScroll_eq id keep link
    rcases hreply : c.request (continueInquiry id keep) link with ⟨answer, later⟩
    rw [hreply] at hgoes
    simp only [ScrollService.recorded, heard, hgoes, hreply]
    simp [Heard.exchange]
  release id := by
    rintro ⟨link, record⟩
    have hends : c.scrolls.release id link = c.clearScroll id link := rfl
    rcases hreply : c.clearScroll id link with ⟨answer, later⟩
    rw [hreply] at hends
    simp only [ScrollService.recorded, heard, hends, hreply]
    simp [Heard.exchange]
  log _ _ := rfl

/-! ## Releases on record -/

/-- Releasing a scroll leaves on record what its request does. -/
theorem grows_clearScroll (c : Client σ) (id : String) (link : Link σ) :
    (c.request (releaseInquiry id) link).2.Grows (c.clearScroll id link).2 := by
  rcases hrequest : c.request (releaseInquiry id) link with ⟨answer, later⟩
  rw [clearScroll_eq hrequest]
  split
  · exact .refl later
  · exact later.grows_note _
  · exact .refl later

/-- What becomes of a client that hears of its scrolls: what it did stays on record, and it sends a
request for each release that can be planned. -/
structure Tells (c : Client σ) (now later : Link σ × List Heard) : Prop where
  grows : now.1.Grows later.1
  adds : ∃ events record, later.1.events = now.1.events ++ events ∧ later.2 = now.2 ++ record ∧
    (now.1.closed = false → ∀ id ∈ Heard.releasedIds record,
      ∀ planned, c.plan (releaseInquiry id) = .ok planned →
        ∃ r, c.Sends (releaseInquiry id) r ∧ .sent r ∈ events)

/-- A request that is no release adds to the record. -/
theorem tells_of_grows {c : Client σ} {link later : Link σ} (h : link.Grows later)
    (record : List Heard) {heard : Heard} (hheard : heard.releasedId? = none) :
    c.Tells (link, record) (later, record ++ [heard]) := by
  obtain ⟨events, hevents⟩ := h.events
  refine ⟨h, events, [heard], hevents.symm, rfl, fun _ id hmem => ?_⟩
  simp [Heard.releasedIds, hheard] at hmem

/-- **What a client did for its scrolls is on record**, the requests of its releases as well. -/
theorem heard_moves (c : Client σ) : c.heard.Moves c.Tells where
  refl now := ⟨.refl now.1, [], [], by simp, by simp, by simp [Heard.releasedIds]⟩
  trans {now mid later} h h' := by
    obtain ⟨hgrows, events, record, hevents, hrecord, hsent⟩ := h
    obtain ⟨hgrows', events', record', hevents', hrecord', hsent'⟩ := h'
    refine ⟨hgrows.trans hgrows', events ++ events', record ++ record', ?_, ?_, ?_⟩
    · rw [hevents', hevents, List.append_assoc]
    · rw [hrecord', hrecord, List.append_assoc]
    · intro hopen id hmem planned hplan
      -- what was released was released in the one part or in the other
      rw [Heard.releasedIds, List.filterMap_append] at hmem
      rcases List.mem_append.1 hmem with hmem | hmem
      · obtain ⟨r, hr, hfound⟩ := hsent hopen id hmem planned hplan
        exact ⟨r, hr, List.mem_append_left _ hfound⟩
      · obtain ⟨r, hr, hfound⟩ := hsent' (hgrows.closed.trans hopen) id hmem planned hplan
        exact ⟨r, hr, List.mem_append_right _ hfound⟩
  start {q now answer later} h := by
    obtain rfl := congrArg Prod.snd h
    exact tells_of_grows (c.grows_search q now.1) now.2 rfl
  next {id keep now answer later} h := by
    obtain rfl := congrArg Prod.snd h
    exact tells_of_grows (c.grows_request (continueInquiry id keep) now.1) now.2 rfl
  release {id now answer later} h := by
    obtain rfl := congrArg Prod.snd h
    have hgrows := (c.grows_request (releaseInquiry id) now.1).trans (c.grows_clearScroll id now.1)
    obtain ⟨events, hevents⟩ := hgrows.events
    refine ⟨hgrows, events, [_], hevents.symm, rfl, fun hopen id' hmem planned hplan => ?_⟩
    obtain rfl : id' = id := List.mem_singleton.1 hmem
    -- its request is sent before anything is noted about how it went
    obtain ⟨r, hsends, hsent⟩ := sent_of_plan hplan hopen
    obtain ⟨more, hmore⟩ := (hsent.trans (c.grows_clearScroll id' now.1)).exists_events
    refine ⟨r, hsends, ?_⟩
    rw [List.append_cancel_left (hevents.trans hmore)]
    exact List.mem_cons_self
  log entry now := by
    have hgrows := now.1.grows_note (.logged entry)
    obtain ⟨events, hevents⟩ := hgrows.events
    exact ⟨hgrows, events, [], hevents.symm, (List.append_nil _).symm, by simp [Heard.releasedIds]⟩

/-- **The scroll of the last page is released.** For every client, every scan and all calls of it in any
order, whatever the replies are: there is a record of what was heard, and when the scan has ended,
what was released according to it is the id of the last page that had one, once, and nothing else. So
the id that was offered last is released, unless it came with a reply that is no page. A release is a
request that is sent, if the client is open and it can be planned. -/
theorem releases_last_page (c : Client σ) {r : ScanRequest} {schema : Schema} {s : Scan}
    (hcreate : Scan.create r schema = .ok s) {link link' : Link σ} {rows : List Row} {t : Scan}
    (hreaches : s.Reaches c.scrolls link rows t link') (hended : t.state = .exhausted) :
    (∃ record, s.Reaches c.heard (link, []) rows t (link', record)) ∧
    ∀ record, s.Reaches c.heard (link, []) rows t (link', record) →
      Heard.releasedIds record = (Heard.lastPageId? record).toList ∧
      ((∀ heard ∈ record, heard.OffersPages) → ∀ id, Heard.lastOffer? record = some id →
        id ∈ Heard.releasedIds record) ∧
      (link.closed = false → ∀ id ∈ Heard.releasedIds record,
        ∀ planned, c.plan (releaseInquiry id) = .ok planned →
          ∃ events request, link'.events = link.events ++ events ∧
            c.Sends (releaseInquiry id) request ∧ .sent request ∈ events) := by
  constructor
  · obtain ⟨⟨_, record⟩, rfl, hheard⟩ := hreaches.exists_seen c.heard_seenAs_scrolls (link, [])
    exact ⟨record, hheard⟩
  intro record hheard
  -- the record is one of exchanges, and the life cycle of a scan says what it releases on such a record
  have hreleased : Heard.releasedIds record = (Heard.lastPageId? record).toList := by
    have hrecorded := hheard.seen c.heard_seenAs_recorded
    obtain ⟨⟨fetches, release, hlog, hfetches, -, hends⟩, -⟩ :=
      (Scan.scroll_lifecycle c.scrolls hcreate link).1 _ _ _ _ hrecorded
    rw [Heard.releasedIds_eq, Heard.lastPageId?, hlog]
    exact (hends hended).releasedIds_eq hfetches
  refine ⟨hreleased, fun hpages id hoffer => ?_, fun hopen id hrelease planned hplan => ?_⟩
  · rw [hreleased, Heard.lastPageId?_eq_lastOffer? hpages, hoffer]
    exact List.mem_singleton.2 rfl
  · obtain ⟨-, events, heard, hevents, hadded, hsent⟩ := c.heard_moves.reaches hheard
    obtain rfl : record = heard := hadded
    obtain ⟨request, hsends, hfound⟩ := hsent hopen id hrelease planned hplan
    exact ⟨events, request, hevents, hsends, hfound⟩

end Client

/-! ## One answer to everything -/

namespace OneAnswer

/-- A client of a server that gives one answer to every request. -/
def client (text : String) : Client Unit :=
  { connection := {}
    base := ⟨"http", "", "localhost", some 9200, "/", none, none⟩
    sink := none
    peer := fun _ _ => (.response ⟨200, [], text.toList.map Char.toNat⟩, ()) }

/-- What comes of asking a scan of all documents for a row: where the scan stands, the id that was offered
last, and those of the releases. -/
def outcome (text : String) : Option (ScanState × Option String × List String) :=
  (Singles.scan.next (client text).heard 5 ({ peer := () }, [])).map
    fun (_, t, _, record) => (t.state, Heard.lastOffer? record, Heard.releasedIds record)

/-- What came of it can be reached. -/
theorem reaches_of_outcome (text : String) (state : ScanState) (offer : Option String)
    (released : List String) (h : outcome text = some (state, offer, released)) :
    ∃ rows t link record,
      Singles.scan.Reaches (client text).heard ({ peer := () }, []) rows t (link, record) ∧
        t.state = state ∧ Heard.lastOffer? record = offer ∧ Heard.releasedIds record = released := by
  rw [outcome, Option.map_eq_some_iff] at h
  obtain ⟨⟨turn, t, link, record⟩, hnext, h⟩ := h
  obtain ⟨rfl, rfl, rfl⟩ := h
  exact ⟨_, t, link, record, .next .start hnext, rfl, rfl, rfl⟩

/-- A page without hits is the last one, and a request releases its scroll. -/
theorem releases_last_page_empty :
    let c := client "\x7b\"_scroll_id\":\"a\",\"hits\":\x7b\"hits\":[]\x7d\x7d"
    ∃ rows t link record,
      Singles.scan.Reaches c.heard ({ peer := () }, []) rows t (link, record) ∧
        Heard.lastOffer? record = some "a" ∧ Heard.lastPageId? record = some "a" ∧
        ∃ request, c.Sends (Client.releaseInquiry "a") request ∧ .sent request ∈ link.events := by
  intro c
  obtain ⟨rows, t, link, record, hreaches, hended, hoffer, hreleased⟩ :=
    reaches_of_outcome "\x7b\"_scroll_id\":\"a\",\"hits\":\x7b\"hits\":[]\x7d\x7d" .exhausted (some "a")
      ["a"] (by decide +kernel)
  have hcreate : Scan.create Singles.request { columns := [] } = .ok Singles.scan := rfl
  obtain ⟨-, hrecord⟩ :=
    c.releases_last_page hcreate (hreaches.seen c.heard_seenAs_scrolls) hended
  obtain ⟨hids, -, hsent⟩ := hrecord record hreaches
  have hpage : Heard.lastPageId? record = some "a" := by
    rw [hreleased] at hids
    exact Option.toList_eq_singleton_iff.1 hids.symm
  obtain ⟨planned, hplan⟩ : ∃ planned, c.plan (Client.releaseInquiry "a") = .ok planned :=
    Client.exists_plan rfl (by decide +kernel) (by decide +kernel)
  have hmem : "a" ∈ Heard.releasedIds record := by simp [hreleased]
  obtain ⟨events, request, hevents, hsends, hfound⟩ := hsent rfl "a" hmem planned hplan
  refine ⟨rows, t, link, record, hreaches, hoffer, hpage, request, hsends, ?_⟩
  rw [hevents]
  exact List.mem_append_right _ hfound

/-- **An id without hits is forgotten**: the body offers an id and nothing else, so it is no page, the
scan ends, and no scroll is released. -/
theorem not_released_without_hits :
    ¬ ∀ {c : Client Unit} {r : ScanRequest} {schema : Schema} {s : Scan},
      Scan.create r schema = .ok s → ∀ {link link' : Link Unit} {rows : List Row} {t : Scan}
        {record : List Heard}, s.Reaches c.heard (link, []) rows t (link', record) →
          t.state = .exhausted → ∀ id, Heard.lastOffer? record = some id →
            id ∈ Heard.releasedIds record := by
  intro hall
  obtain ⟨rows, t, link, record, hreaches, hended, hoffer, hreleased⟩ :=
    reaches_of_outcome "\x7b\"_scroll_id\":\"a\"\x7d" .exhausted (some "a") [] (by decide +kernel)
  have hcreate : Scan.create Singles.request { columns := [] } = .ok Singles.scan := rfl
  have hmem := hall hcreate hreaches hended "a" hoffer
  rw [hreleased] at hmem
  cases hmem

end OneAnswer

end SearchTables
