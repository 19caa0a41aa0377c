import SearchTables.Client.Memory
import SearchTables.Proofs.Client.Answering
import SearchTables.Proofs.Json.PlainText
import SearchTables.Proofs.Scan.Separation

/-! # The scrolls of a cluster in memory

A cluster in memory keeps, for each of its scrolls, the documents that it has not handed out yet. So every
scroll is answered from a stream of its own: all documents in order, page by page. A new scroll is named by
how many there were before, so its id is new (`MemoryCluster.answered_startScroll`), and a page of one
scroll leaves the others alone (`MemoryCluster.answered_nextPage`). -/

namespace SearchTables

/-- What a scroll answers to the requests for its pages: the documents that are left, page by page. It always
goes on, with empty pages behind the last document. -/
def MemoryScroll.answers (s : MemoryScroll) : ScrollAnswers := fun n =>
  .ok ((s.left.drop (n * s.size)).take s.size, true)

namespace MemoryScroll

/-- The first answer is the next page. -/
theorem answers_zero (s : MemoryScroll) : s.answers 0 = .ok (s.page.1, true) := by
  rw [answers, Nat.zero_mul, List.drop_zero, page]

/-- The other answers are those of the scroll after that page. -/
theorem rest_answers (s : MemoryScroll) : s.answers.rest = s.page.2.answers := by
  funext n
  rw [ScrollAnswers.rest, answers, answers, page, List.drop_drop, Nat.add_mul, Nat.one_mul, Nat.add_comm]

end MemoryScroll

namespace MemoryCluster

/-! ## Responses -/

/-- The text of a response is what was printed of a plain value. -/
theorem text?_respond {j : Json} (h : j.Plain) (status : Nat) :
    (respond status j).text? = some (j.render .spaced) := by
  have hascii : ∀ c ∈ (j.render .spaced).toList, c.toNat < 0x80 := Json.lt_of_mem_chars h
  have hbody : (respond status j).body = (j.render .spaced).toList.map Char.toNat := by
    rw [respond, Text.codePoints, Text.codesOf_of_ascii hascii, List.flatMap_map]
    refine (List.flatMap_congr fun c hc => ?_).trans List.map_eq_flatMap.symm
    exact if_pos (hascii c hc)
  obtain ⟨c, cs, hchars, -⟩ := Json.exists_chars_eq_cons h
  have hempty : (respond status j).body.isEmpty = false := by
    rw [hbody, show (j.render .spaced).toList = c :: cs from hchars]
    rfl
  have hdecoded : (Http.MediaType.charset ((respond status j).headers.get? "content-type")).decode?
      (respond status j).body = some ((j.render .spaced).toList.map Char.toNat) := by
    rw [hbody]
    exact congrArg some (Text.decodeUtf8_of_ascii (by simpa using hascii))
  rw [HttpResponse.text?, hempty, hdecoded]
  simp only [Bool.false_eq_true, if_false, Option.map_some, Text.ofCodePoints,
    Text.writtenAll_of_ascii hascii, String.ofList_toList]

/-- The value of a page with an id. -/
def pageOf (id : String) (hits : List Json) : Json :=
  .obj [("_scroll_id", .str id), ("hits", .obj [("hits", .arr hits)])]

/-- A page of plain hits is plain. -/
theorem plain_pageOf {id : String} {hits : List Json} (hid : Json.PlainText id)
    (hhits : ∀ hit ∈ hits, hit.Plain) : (pageOf id hits).Plain := by
  have hname : Json.PlainText "hits" := by decide
  have hinner : (Json.obj [("hits", .arr hits)]).Plain :=
    .obj (List.forall_mem_singleton.2 hname) (by simp)
      (List.forall_mem_singleton.2 (.arr hhits))
  have hidName : Json.PlainText "_scroll_id" := by decide
  exact .obj (List.forall_mem_cons.2 ⟨hidName, List.forall_mem_singleton.2 hname⟩) (by simp)
    (List.forall_mem_cons.2 ⟨.str hid, List.forall_mem_singleton.2 hinner⟩)

/-- The page in the response with it. -/
theorem page_respond {id : String} {hits : List Json} (hid : Json.PlainText id)
    (hhits : ∀ hit ∈ hits, hit.Plain) :
    (respond 200 (pageOf id hits)).page = .ok ⟨some id, hits⟩ := by
  have hplain := plain_pageOf hid hhits
  have hreply : Client.Reply.page ⟨200, (pageOf id hits).render .spaced, 0⟩ = .ok ⟨some id, hits⟩ := by
    rw [Client.Reply.page, Reply.json, Json.read?_render_of_plain hplain]
    rfl
  have hstatus : (respond 200 (pageOf id hits)).status = 200 := rfl
  rw [HttpResponse.page, Attempt.text, text?_respond hplain, hstatus]
  simp only [Except.map, Except.bind, hreply]

/-- The response to the release of a scroll has a text. -/
theorem text?_released : ∃ text, (respond 200 (.obj [("succeeded", .bool true)])).text? = some text :=
  ⟨_, text?_respond (.obj (List.forall_mem_singleton.2 (by decide)) (by simp)
    (List.forall_mem_singleton.2 (.bool true))) 200⟩

/-- The id in a request to go on with a scroll is found. -/
theorem scrollId_of_sends {τ : Type} {c : Client τ} {id keep : String} {r : HttpRequest}
    (h : c.Sends (Client.continueInquiry id keep) r) (hid : Json.PlainText id)
    (hkeep : Json.PlainText keep) : scrollId r = id := by
  have hkeepName : Json.PlainText "scroll" := by decide
  have hidName : Json.PlainText "scroll_id" := by decide
  have hplain : (Json.obj [("scroll", .str keep), ("scroll_id", .str id)]).Plain :=
    .obj (List.forall_mem_cons.2 ⟨hkeepName, List.forall_mem_singleton.2 hidName⟩) (by simp)
      (List.forall_mem_cons.2 ⟨.str hkeep, List.forall_mem_singleton.2 (.str hid)⟩)
  have hbody : r.body = some ((Json.obj [("scroll", .str keep), ("scroll_id", .str id)]).render .spaced) :=
    (Except.ok.inj h.body).symm
  rw [scrollId, hbody, Option.bind_some, Json.read?_render_of_plain hplain]
  rfl

/-! ## Pages -/

/-- The id of a scroll, by how many were opened when it was. -/
def idOf (opened : Nat) : String := "scroll-" ++ toString opened

/-- Scrolls have ids of their own. -/
theorem idOf_inj {m n : Nat} (h : idOf m = idOf n) : m = n := by
  have hint : toString (m : Int) = toString (n : Int) := (String.append_right_inj _).1 h
  exact Int.ofNat.inj (toString_int_inj hint)

/-- The id of a scroll is plain. -/
theorem plainText_idOf (n : Nat) : Json.PlainText (idOf n) := by
  intro c hc
  rw [idOf, String.toList_append, List.mem_append] at hc
  rcases hc with hc | hc
  · have hscroll : Json.PlainText "scroll-" := by decide
    exact hscroll c hc
  · have hwhole : isWholeChar c = true := isWholeChar_of_mem (n := n) hc
    rw [isWholeChar, Bool.or_eq_true, beq_iff_eq] at hwhole
    rcases hwhole with hdigit | rfl
    · obtain ⟨hlow, hhigh⟩ := Char.isDigit_iff_toNat.1 hdigit
      have hzero : '0'.toNat = 0x30 := rfl
      have hnine : '9'.toNat = 0x39 := rfl
      refine ⟨by omega, by omega, ?_, ?_⟩ <;> rintro rfl <;> cases hdigit
    · decide

/-- What a cluster with some documents has for its scrolls. Only ids that were handed out are known, and what
is left of a scroll is an end of the documents. -/
def ledger (documents : List Json) : Ledger MemoryCluster where
  ready c := c.documents = documents ∧ ∀ {id s}, c.scrolls.lookup id = some s →
    (∃ n ≤ c.opened, id = idOf n) ∧ s.left <:+ documents
  known c id := ∃ s, c.scrolls.lookup id = some s
  left c id := (c.scrolls.lookup id).map MemoryScroll.answers

variable {documents : List Json} {c : MemoryCluster} {id : String}

/-- A cluster in which a scroll has something else left. -/
def put (c : MemoryCluster) (id : String) (s : MemoryScroll) : MemoryCluster :=
  { c with scrolls := insertMember id s c.scrolls }

/-- What is put for a scroll is there. -/
theorem lookup_put_self (c : MemoryCluster) (id : String) (s : MemoryScroll) :
    (c.put id s).scrolls.lookup id = some s :=
  lookup_insertMember_self ..

/-- Nothing changes for the other scrolls. -/
theorem lookup_put_of_ne {id' : String} (h : id' ≠ id) (s : MemoryScroll) :
    (c.put id s).scrolls.lookup id' = c.scrolls.lookup id' :=
  lookup_insertMember_of_ne h ..

/-- A scroll that has an end of the documents left may be put, and that spares the others. -/
theorem spares_put (hready : (ledger documents).ready c) {n : Nat} (hn : n ≤ c.opened)
    {s : MemoryScroll} (hleft : s.left <:+ documents) :
    (ledger documents).Spares (· = idOf n) c (c.put (idOf n) s) where
  ready := by
    refine ⟨hready.1, fun {id' s'} hlookup => ?_⟩
    by_cases hid : id' = idOf n
    · subst hid
      obtain rfl : s = s' := Option.some.inj ((lookup_put_self ..).symm.trans hlookup)
      exact ⟨⟨n, hn, rfl⟩, hleft⟩
    · rw [lookup_put_of_ne hid] at hlookup
      exact hready.2 hlookup
  known {id'} hknown := by
    by_cases hid : id' = idOf n
    · subst hid
      exact ⟨s, lookup_put_self ..⟩
    · obtain ⟨s', hs'⟩ := hknown
      exact ⟨s', (lookup_put_of_ne hid s).trans hs'⟩
  left hid := congrArg (Option.map MemoryScroll.answers) (lookup_put_of_ne hid s)

/-- **A page of a scroll is the next answer of its stream**, and leaves the other scrolls alone. -/
theorem answered_nextPage (hplain : ∀ d ∈ documents, d.Plain) (hready : (ledger documents).ready c)
    {s : MemoryScroll} (hlookup : c.scrolls.lookup id = some s) :
    isSuccess (c.nextPage id).1.status = true ∧
      (c.nextPage id).1.page = .ok ⟨some id, s.page.1⟩ ∧
      (ledger documents).Answered (some id) s.answers c (c.nextPage id).1.page (c.nextPage id).2 := by
  obtain ⟨⟨n, hn, rfl⟩, hleft⟩ := hready.2 hlookup
  have hhits : ∀ hit ∈ s.page.1, hit.Plain := fun hit hmem =>
    hplain hit (hleft.subset (List.mem_of_mem_take hmem))
  -- the scroll is put back under its id without the documents of the page
  have hpage : c.nextPage (idOf n) =
      (respond 200 (pageOf (idOf n) s.page.1), c.put (idOf n) s.page.2) := by
    rw [nextPage, hlookup]
    rfl
  rw [hpage, page_respond (plainText_idOf n) hhits]
  have hrest : s.page.2.left <:+ documents := (List.drop_suffix s.size s.left).trans hleft
  have hspares := spares_put hready hn hrest
  refine ⟨rfl, rfl, ?_⟩
  exact
    { content := s.answers_zero.symm
      fresh := fun hid => .inl hid.symm
      known := by
        intro id hid
        obtain rfl := Option.some.inj hid
        exact ⟨_, lookup_put_self ..⟩
      left := by
        intro id hid
        obtain rfl := Option.some.inj hid
        rw [s.rest_answers]
        exact congrArg (Option.map MemoryScroll.answers) (lookup_put_self ..)
      spares := hspares.mono fun hid => .inl (congrArg some hid) }

/-- **A scroll that is opened has a new id**, and its stream are all documents. -/
theorem answered_startScroll (hplain : ∀ d ∈ documents, d.Plain)
    (hready : (ledger documents).ready c) (size : Nat) :
    isSuccess (c.startScroll size).1.status = true ∧
      (ledger documents).Answered none (MemoryScroll.answers ⟨documents, size⟩) c
        (c.startScroll size).1.page (c.startScroll size).2 := by
  obtain ⟨rfl, hknown⟩ := hready
  -- the scroll is there before its first page is taken off it
  let opened : MemoryCluster := { c with opened := c.opened + 1 }
  have hopened : (ledger c.documents).ready opened :=
    ⟨rfl, fun hlookup =>
      (hknown hlookup).imp_left fun ⟨n, hn, hid⟩ => ⟨n, Nat.le_succ_of_le hn, hid⟩⟩
  have hspares := spares_put hopened (Nat.le_refl (c.opened + 1))
    (List.suffix_refl (MemoryScroll.mk c.documents size).left)
  obtain ⟨hsuccess, hpage, hanswered⟩ := answered_nextPage hplain hspares.ready
    (lookup_put_self opened (idOf (c.opened + 1)) ⟨c.documents, size⟩)
  have hstart : c.startScroll size =
      (opened.put (idOf (c.opened + 1)) ⟨c.documents, size⟩).nextPage (idOf (c.opened + 1)) := rfl
  rw [hstart]
  refine ⟨hsuccess, ?_⟩
  rw [hpage] at hanswered ⊢
  have hfresh : ¬ (ledger c.documents).known c (idOf (c.opened + 1)) := by
    rintro ⟨s, hs⟩
    obtain ⟨⟨n, hn, hid⟩, -⟩ := hknown hs
    have := idOf_inj hid
    omega
  have hopens : (ledger c.documents).Spares (· = idOf (c.opened + 1)) c opened :=
    ⟨hopened, fun h => h, fun _ => rfl⟩
  have htakes : (ledger c.documents).Spares (· = idOf (c.opened + 1)) _ _ :=
    hanswered.spares.mono fun hid =>
      hid.elim Option.some.inj fun hid => (Option.some.inj hid).symm
  exact
    { content := hanswered.content
      fresh := fun hid => .inr (Option.some.inj hid ▸ hfresh)
      known := hanswered.known
      left := hanswered.left
      spares := ((hopens.trans hspares).trans htakes).mono fun hid => .inr (congrArg some hid.symm) }

end MemoryCluster

end SearchTables
