import SearchTables.Proofs.Client.MemoryScrolls
import SearchTables.Proofs.Scan.Interleaving

/-! # Shared clients — scans that share a client

Scans that share a client share what it knows between requests, its record of events and the server. If
the server answers every scroll from a **stream** of its own, and no attempt fails on its way, the scrolls
of the client are separate (`Client.separates_scrolls`). So what the scans return, and how they end, does
not depend on the order in which they are called, or on there being others at all
(`Client.interleave_scrolls_eq_alone`). -/

namespace SearchTables

variable {σ τ ι : Type}

/-! ## Servers with a stream for each scroll -/

/-- A server **streams** to a client when it answers every scroll from a stream of its own, whatever else
it was asked before: a search opens a scroll under an id that was not known, and has the first answer of
a stream that depends on the search alone; a request to go on with a scroll has the next answer; and
releasing one leaves the others alone. -/
structure Peer.Streams (server : Peer σ) (c : Client τ) (b : Ledger σ) (searches : Set Search)
    (streams : Search → ScrollAnswers) : Prop where
  opens : ∀ {q name r state}, q ∈ searches → Http.escapeIndex? q.index = some name →
    c.Sends (Client.openInquiry name q) r → b.ready state → server.Gives r state fun response later =>
      b.Answered none (streams q) state response.page later
  continues : ∀ {q id a r state}, q ∈ searches → c.Sends (Client.continueInquiry id q.scroll) r →
    b.ready state → b.known state id → b.left state id = some a →
      server.Gives r state fun response later => b.Answered (some id) a state response.page later
  releases : ∀ {id r state}, c.Sends (Client.releaseInquiry id) r → b.ready state →
    b.known state id → server.Gives r state fun response later =>
      (∃ text, response.text? = some text) ∧ b.Spares (· = id) state later

namespace Client

variable {c : Client σ} {inquiry : Inquiry} {link : Link σ}

/-- The answers to the requests of a client to go on with a scroll: those of the scroll, if it can send
them at all. -/
def resumed (c : Client σ) (a : ScrollAnswers) : ScrollAnswers :=
  match c.way (continueInquiry "" "") with
  | .ok _ => a
  | .error e => fun _ => .error e

/-- The answers that a client gets when it opens a scroll and goes on with it. -/
def opening (c : Client σ) (streams : Search → ScrollAnswers) (q : Search) : ScrollAnswers :=
  match Http.escapeIndex? q.index with
  | none => fun _ => .error .notEncodable
  | some name =>
      match c.plan (openInquiry name q) with
      | .error e => fun _ => .error e
      | .ok _ => fun
          | 0 => streams q 0
          | n + 1 => c.resumed (streams q).rest n

/-- What a failed request to release a scroll comes to: one that was given up is of no concern. -/
def ofUnreleased : Error → Except Error Bool
  | .requestFailed _ => .ok false
  | e => .error e

/-- A release fails as its request does, unless that was given up. -/
theorem clearScroll_of_error {id : String} {link' : Link σ} {e : Error}
    (h : c.request (releaseInquiry id) link = (.error e, link')) :
    ∃ later, c.clearScroll id link = (ofUnreleased e, later) ∧ later.peer = link'.peer ∧
      later.closed = link'.closed := by
  rw [clearScroll_eq h]
  cases e <;> exact ⟨_, rfl, rfl, rfl⟩

/-- What releasing a scroll comes to. -/
def closing (c : Client σ) : Except Error Unit :=
  match c.way (releaseInquiry "") with
  | .ok _ => .ok ()
  | .error e => (ofUnreleased e).map fun _ => ()

end Client

/-- The ledger of a server, for those who reach it over a client that is open. -/
def Ledger.linked (b : Ledger σ) (c : Client σ) : Ledger (Link σ) where
  ready link := link.closed = false ∧ b.ready link.peer
  known link := b.known link.peer
  left link id := (b.left link.peer id).map c.resumed

namespace Ledger

/-- A state spares all ids of itself. -/
theorem Spares.refl {b : Ledger τ} {state : τ} (hready : b.ready state) (own : String → Prop) :
    b.Spares own state state :=
  ⟨hready, fun h => h, fun _ => rfl⟩

/-- A request that fails at once is answered so, if all requests for the scroll are. -/
theorem answered_error {b : Ledger τ} {state : τ} (hready : b.ready state) {old : Option String}
    (e : Error) (hold : ∀ {id}, old = some id →
      b.known state id ∧ b.left state id = some fun _ => .error e) :
    b.Answered old (fun _ => .error e) state (.error e) state where
  content := rfl
  fresh hid := .inl hid.symm
  known hid := (hold hid).1
  left hid := (hold hid).2
  spares := .refl hready _

variable {b : Ledger σ} {c : Client σ} {link later : Link σ}

/-- What a server spares is spared over a client. -/
theorem Spares.linked {own : String → Prop} (h : b.Spares own link.peer later.peer)
    (hopen : later.closed = false) : (b.linked c).Spares own link later where
  ready := ⟨hopen, h.ready⟩
  known := h.known
  left hid := congrArg (Option.map c.resumed) (h.left hid)

/-- What a server answers is answered over a client, which may be unable to go on. -/
theorem Answered.linked {old : Option String} {a a' : ScrollAnswers} {answer : Except Error ScrollPage}
    (h : b.Answered old a link.peer answer later.peer) (hopen : later.closed = false)
    (hfirst : a' 0 = a 0) (hrest : a'.rest = c.resumed a.rest) :
    (b.linked c).Answered old a' link answer later where
  content := h.content.trans hfirst.symm
  fresh := h.fresh
  known := h.known
  left hid := by
    rw [hrest]
    exact congrArg (Option.map c.resumed) (h.left hid)
  spares := h.spares.linked hopen

end Ledger

namespace Client

variable {c : Client σ} {b : Ledger σ} {searches : Set Search} {streams : Search → ScrollAnswers}

/-- The text that goes on with a scroll. -/
theorem bodyText_continueInquiry (id keep : String) : bodyText (continueInquiry id keep).body =
    .ok (some ((Json.obj [("scroll", .str keep), ("scroll_id", .str id)]).render .spaced)) := rfl

/-- The text that releases a scroll. -/
theorem bodyText_releaseInquiry (id : String) : bodyText (releaseInquiry id).body =
    .ok (some ((Json.obj [("scroll_id", .str id)]).render .spaced)) := rfl

/-- A scroll that is opened has the first answer of its stream, or the request for it cannot be sent. -/
theorem answered_openScroll (h : c.peer.Streams c b searches streams) {q : Search} (hq : q ∈ searches)
    {link later : Link σ} (hready : (b.linked c).ready link) {answer : Except Error ScrollPage}
    (hopens : c.openScroll q link = (answer, later)) :
    (b.linked c).Answered none (c.opening streams q) link answer later := by
  -- a request that fails at once leaves the client as it is
  have hfails : ∀ e, c.openScroll q link = (.error e, link) →
      (b.linked c).Answered none (fun _ => .error e) link answer later := by
    intro e he
    obtain ⟨rfl, rfl⟩ := Prod.mk.inj (he.symm.trans hopens)
    exact Ledger.answered_error hready e (fun hno => by cases hno)
  rw [opening]
  rcases hname : Http.escapeIndex? q.index with - | name
  · exact hfails _ (c.openScroll_of_unnamed hname link)
  rw [c.openScroll_of_named hname] at hopens hfails
  rcases hplan : c.plan (openInquiry name q) with e | planned
  · dsimp only
    rw [hplan]
    exact hfails e (by rw [request_of_unplanned hplan]; rfl)
  · dsimp only
    rw [hplan]
    obtain ⟨response, mid, hrequest, hopen, hanswered⟩ :=
      request_of_gives hplan hready.1 fun r hr => h.opens hq hname hr hready.2
    rw [hrequest] at hopens
    obtain ⟨rfl, rfl⟩ := Prod.mk.inj hopens
    exact hanswered.linked hopen rfl rfl

/-- A scroll that is gone on with has the next answer of its stream, or the request for it cannot be
sent. -/
theorem answered_continueScroll (h : c.peer.Streams c b searches streams) {q : Search}
    (hq : q ∈ searches) {id : String} {link later : Link σ} (hready : (b.linked c).ready link)
    (hknown : (b.linked c).known link id) {a : ScrollAnswers} (hleft : (b.linked c).left link id = some a)
    {answer : Except Error ScrollPage} (hcontinues : c.continueScroll id q.scroll link = (answer, later)) :
    (b.linked c).Answered (some id) a link answer later := by
  rw [continueScroll_eq] at hcontinues
  obtain ⟨a', ha', rfl⟩ := Option.map_eq_some_iff.1 hleft
  -- the ways of all scrolls are one
  rcases hway : c.way (continueInquiry "" "") with e | address
  · rw [request_of_error (bodyText_continueInquiry id q.scroll) hway link] at hcontinues
    obtain ⟨rfl, rfl⟩ := Prod.mk.inj hcontinues
    have hresumed : c.resumed a' = fun _ => .error e := by
      rw [resumed, hway]
    rw [hresumed] at hleft ⊢
    refine Ledger.answered_error hready e fun hold => ?_
    obtain rfl := Option.some.inj hold
    exact ⟨hknown, hleft⟩
  · have hresumed : ∀ a, c.resumed a = a := by
      intro a
      rw [resumed, hway]
    obtain ⟨response, mid, hrequest, hopen, hanswered⟩ :=
      request_of_gives (plan_eq_ok (bodyText_continueInquiry id q.scroll) hway) hready.1 fun r hr =>
        h.continues hq hr hready.2 hknown ha'
    rw [hrequest] at hcontinues
    obtain ⟨rfl, rfl⟩ := Prod.mk.inj hcontinues
    rw [hresumed]
    exact hanswered.linked hopen rfl (hresumed _).symm

/-- Releasing a scroll comes to the same whichever it is, and spares the others. -/
theorem spares_clearScroll (h : c.peer.Streams c b searches streams) {id : String}
    {link later : Link σ} (hready : (b.linked c).ready link) (hknown : (b.linked c).known link id)
    {answer : Except Error Bool} (hclears : c.clearScroll id link = (answer, later)) :
    answer.map (fun _ => ()) = c.closing ∧ (b.linked c).Spares (· = id) link later := by
  rw [closing]
  rcases hway : c.way (releaseInquiry "") with e | address
  · obtain ⟨mid, hclear, hpeer, hclosed⟩ :=
      clearScroll_of_error (request_of_error (bodyText_releaseInquiry id) hway link)
    obtain ⟨rfl, rfl⟩ := Prod.mk.inj (hclear.symm.trans hclears)
    have hspares : b.Spares (· = id) link.peer mid.peer := by
      rw [hpeer]
      exact .refl hready.2 _
    exact ⟨rfl, hspares.linked (hclosed.trans hready.1)⟩
  · obtain ⟨response, mid, hrequest, hopen, ⟨text, htext⟩, hspares⟩ :=
      request_of_gives (plan_eq_ok (bodyText_releaseInquiry id) hway) hready.1 fun r hr =>
        h.releases hr hready.2 hknown
    have hreads : Attempt.text response = .ok text := by
      rw [Attempt.text, htext]
    rw [hreads] at hrequest
    obtain ⟨rfl, rfl⟩ := Prod.mk.inj ((clearScroll_eq hrequest).symm.trans hclears)
    exact ⟨rfl, hspares.linked hopen⟩

/-- **The scrolls of a client are separate** when its server streams to it. -/
theorem separates_scrolls (h : c.peer.Streams c b searches streams) :
    c.scrolls.Separates (b.linked c) searches (c.opening streams) c.closing where
  start hq hready hstart := answered_openScroll h hq hready hstart
  next hq hready hknown hleft hnext := answered_continueScroll h hq hready hknown hleft hnext
  release hready hknown hrelease := spares_clearScroll h hready hknown hrelease
  log _ _ hready := ⟨hready, fun h => h, fun _ => rfl⟩

/-- **Scans that share a client do not disturb each other.** Any number of scans send their requests over
one client, and their calls for rows and to close come in any order; the server streams to the client. Then
the calls of each scan come to what they come to when this scan alone is called, its rows in their order
among it. It ends in the same state but for the name of its scroll, which depends on who opened one
before, and in the very same state once it has no scroll. A scroll is released by no one but the scan that
its id came to. And if the calls do not all come to an end within their steps, then neither do those of
one of the scans alone. -/
theorem interleave_scrolls_eq_alone [DecidableEq ι] {requests : ι → ScanRequest}
    {schemas : ι → Schema} {scans : ι → Scan}
    (hcreate : ∀ k, Scan.create (requests k) (schemas k) = .ok (scans k))
    (hstreams : c.peer.Streams c b {q | ∃ k, (scans k).search = q} streams) {link link' : Link σ}
    (hopen : link.closed = false) (hready : b.ready link.peer) (hopen' : link'.closed = false)
    (hready' : b.ready link'.peer) (calls : List (ι × Scan.Call)) :
    (Scan.interleave c.scrolls calls scans (link, []) = none →
      ∃ k, (scans k).callAll (c.scrolls.recordedBy k) (share k calls) (link', []) = none) ∧
    ∀ {outcomes scans' w}, Scan.interleave c.scrolls calls scans (link, []) = some (outcomes, scans', w) →
      (∀ k, ∃ s w', (scans k).callAll (c.scrolls.recordedBy k) (share k calls) (link', []) =
        some (share k outcomes, s, w') ∧ s.anonymous = (scans' k).anonymous ∧
          ((∀ {c}, s.cursor = some c → c.scrollId = none) → s = scans' k)) ∧
      ∀ {k id answer}, (k, .released id answer) ∈ w.2 → ∀ k', Issued w.2 k' id ↔ k' = k :=
  Scan.interleave_eq_alone (separates_scrolls hstreams) (fun k => ⟨k, rfl⟩)
    (fun k => (Scan.fresh_of_create (hcreate k)).2.2) ⟨hopen, hready⟩ ⟨hopen', hready'⟩ calls

end Client

/-! ## Two scans of one cluster -/

namespace TwoScans

/-- The documents. -/
def documents : List Json := ["1", "2"].map Singles.hit

/-- A cluster in memory with one document on a page. -/
def server : Peer MemoryCluster := fun r cluster =>
  if r.address.path ≠ Client.scrollPath then
    let (response, cluster) := cluster.startScroll 1
    (.response response, cluster)
  else if r.method = "DELETE" then
    (.response (MemoryCluster.respond 200 (.obj [("succeeded", .bool true)])), cluster)
  else
    let (response, cluster) := cluster.nextPage (MemoryCluster.scrollId r)
    (.response response, cluster)

/-- The client that is shared. -/
def client : Client MemoryCluster :=
  { connection := {}
    base := ⟨"http", "", "localhost", some 9200, "/", none, none⟩
    sink := none
    peer := server }

/-- What the client starts with. -/
def link : Link MemoryCluster := { peer := { documents } }

/-- One scan may return all rows and the other one a single row. -/
def scan (single : Bool) : Scan :=
  { Singles.scan with request := { Singles.request with limit := if single then some 1 else none } }

/-- The first scan returns two rows, the other one its row in between, and the first one is closed. -/
def calls : List (Bool × Scan.Call) :=
  [(false, .next 20), (true, .next 20), (false, .next 20), (false, .close)]

/-- What is shown of a call: the id in its row, if it has one. -/
def shown : Scan.Outcome → Option (Option String)
  | .turn (.row row) => some (Singles.idOf row)
  | _ => none

/-- Who released which id. -/
def release? : Bool × Exchange → Option (Bool × String)
  | (k, .released id _) => some (k, id)
  | _ => none

/-- The ids in the rows of either scan, and who released what. -/
def outcome :
    Option (List (Option (Option String)) × List (Option (Option String)) × List (Bool × String)) :=
  (Scan.interleave client.scrolls calls scan (link, [])).map fun (outcomes, _, _, log) =>
    ((share false outcomes).map shown, (share true outcomes).map shown, log.filterMap release?)

/-- A request that opens a scroll goes to the index. -/
theorem path_opens {name : String} {r : HttpRequest} (hname : Http.escapeIndex? "documents" = some name)
    (h : client.Sends (Client.openInquiry name Singles.scan.search) r) :
    r.address.path ≠ Client.scrollPath := by
  have hescape : Http.escapeIndex? "documents" = some "documents" := by rfl
  obtain rfl : "documents" = name := Option.some.inj (hescape.symm.trans hname)
  have hsends : (Singles.client fun _ => .arrives).Sends
      (Client.openInquiry "documents" Singles.scan.search) r := ⟨h.method, h.address, h.body⟩
  rw [Singles.path_opens hsends]
  decide

/-- The other requests go to the scrolls. -/
theorem path_scroll {r : HttpRequest} (h : client.address Client.scrollPath none = .ok r.address) :
    r.address.path = Client.scrollPath := by
  have hpath : (client.address Client.scrollPath none).map (·.path) = .ok Client.scrollPath := by rfl
  rw [h] at hpath
  exact Except.ok.inj hpath

/-- The documents are plain. -/
theorem plain_of_mem : ∀ d ∈ documents, d.Plain := by
  have hname : Json.PlainText "_id" := by decide
  have hhit : ∀ id, Json.PlainText id → (Singles.hit id).Plain := fun id hid =>
    .obj (List.forall_mem_singleton.2 hname) (by simp) (List.forall_mem_singleton.2 (.str hid))
  exact List.forall_mem_cons.2 ⟨hhit "1" (by decide), List.forall_mem_singleton.2 (hhit "2" (by decide))⟩

/-- The server streams the documents. -/
theorem streams : server.Streams client (MemoryCluster.ledger documents)
    {q | ∃ k, (scan k).search = q} fun _ => MemoryScroll.answers ⟨documents, 1⟩ where
  opens {q name r cluster} hq hname hsends hready := by
    obtain ⟨k, rfl⟩ := hq
    -- both scans ask for the same documents
    have hsearch : (scan k).search = Singles.scan.search := rfl
    rw [hsearch] at hname hsends
    obtain ⟨hsuccess, hanswered⟩ := MemoryCluster.answered_startScroll plain_of_mem hready 1
    refine ⟨_, _, ?_, hsuccess, hanswered⟩
    rw [server, if_pos (path_opens hname hsends)]
  continues {q id a r cluster} hq hsends hready hknown hleft := by
    obtain ⟨k, rfl⟩ := hq
    obtain ⟨s, hlookup⟩ := hknown
    obtain ⟨⟨n, -, rfl⟩, -⟩ := hready.2 hlookup
    obtain rfl : s.answers = a :=
      Option.some.inj ((congrArg (Option.map MemoryScroll.answers) hlookup).symm.trans hleft)
    obtain ⟨hsuccess, -, hanswered⟩ := MemoryCluster.answered_nextPage plain_of_mem hready hlookup
    refine ⟨_, _, ?_, hsuccess, hanswered⟩
    have hkeep : Json.PlainText (scan k).search.scroll := show Json.PlainText "5m" by decide
    have hid := MemoryCluster.scrollId_of_sends hsends (MemoryCluster.plainText_idOf n) hkeep
    -- going on and releasing have one path, so the server tells them apart by the method
    have hpost : Text.upper "POST" ≠ "DELETE" := by decide
    have hmethod : r.method ≠ "DELETE" := fun h => hpost (hsends.method.symm.trans h)
    rw [server, if_neg (not_not_intro (path_scroll hsends.address)), if_neg hmethod, hid]
  releases {id r cluster} hsends hready hknown := by
    refine ⟨_, _, ?_, rfl, MemoryCluster.text?_released, .refl hready _⟩
    have hdelete : Text.upper "DELETE" = "DELETE" := by decide
    have hmethod : r.method = "DELETE" := hsends.method.trans hdelete
    rw [server, if_neg (not_not_intro (path_scroll hsends.address)), if_pos hmethod]

/-- What comes of the calls. -/
theorem outcome_eq : outcome = some ([some (some "1"), some (some "2"), none], [some (some "1")],
    [(true, "scroll-2"), (false, "scroll-1")]) := by
  decide +kernel

/-- Of two scans of one cluster the one that goes on returns both documents and the one that stops
returns the first, as each of them does alone, and each releases its own scroll. -/
theorem interleave_scrolls_two : ∃ outcomes scans' w,
    Scan.interleave client.scrolls calls scan (link, []) = some (outcomes, scans', w) ∧
      ((share false outcomes).map shown = [some (some "1"), some (some "2"), none] ∧
        (share true outcomes).map shown = [some (some "1")] ∧
        w.2.filterMap release? = [(true, "scroll-2"), (false, "scroll-1")]) ∧
      (∀ k, ∃ s w', (scan k).callAll (client.scrolls.recordedBy k) (share k calls) (link, []) =
        some (share k outcomes, s, w') ∧ s.anonymous = (scans' k).anonymous ∧
          ((∀ {c}, s.cursor = some c → c.scrollId = none) → s = scans' k)) ∧
      ∀ {k id answer}, (k, .released id answer) ∈ w.2 → ∀ k', Issued w.2 k' id ↔ k' = k := by
  have houtcome := outcome_eq
  rw [outcome, Option.map_eq_some_iff] at houtcome
  obtain ⟨⟨outcomes, scans', w⟩, hrun, hshown⟩ := houtcome
  have hready : (MemoryCluster.ledger documents).ready link.peer := ⟨rfl, fun h => by cases h⟩
  have hcreate : ∀ k, Scan.create (scan k).request { columns := [] } = .ok (scan k) := fun _ => rfl
  obtain ⟨halone, hreleased⟩ :=
    (Client.interleave_scrolls_eq_alone hcreate streams rfl hready rfl hready calls).2 hrun
  simp only [Prod.mk.injEq] at hshown
  exact ⟨outcomes, scans', w, hrun, hshown, halone, hreleased⟩

end TwoScans

end SearchTables
