import SearchTables.Session
import SearchTables.Proofs.Client.Bodies

/-! # Faults of a session — what bodies can do to a bind and to a scan

A bind, and a call of a scan that shows texts, fails because of the cluster, on a conflict of mappings, or
on a hit that is no object; and on such a hit it does fail, since nobody checks what is among the hits of a
page before a hit is asked for its members (`Session.faults_of_bodies`). -/

namespace SearchTables

variable {σ τ : Type}

/-! ## Binds -/

namespace Session

/-- What can go wrong with a bind of an index, on hits of a kind. -/
structure BindFaults (s : Session) (service : ClusterService τ) (kind : Json → Prop) (index : String)
    (query : Json) (baseQuery : Option Json) (cache : SchemaCache) (now : τ) : Prop where
  /-- The cluster, a conflict, or a hit that is no object is at fault. -/
  fault : ∀ e, (s.bind service index query cache now).1 = .error e → ResolutionFault kind e
  /-- Once the mappings are merged only such a hit is, whatever the requests of the sample come to. -/
  sample : ∀ response mappings m, (service.mapping index now).1 = .ok response →
    IndexMapping.ofResponse response = .ok mappings → mergeMappings mappings = .ok m →
      ∀ e, (s.bind service index query cache now).1 = .error e → Bare kind e
  /-- A sample that starts with such a hit fails. -/
  bare : ∀ response mappings m mid, cache.get? (s.key index baseQuery) = none →
    service.mapping index now = (.ok response, mid) →
    IndexMapping.ofResponse response = .ok mappings → mergeMappings mappings = .ok m →
    m.columns ≠ [] → m.trackablePaths ≠ [] → 0 < s.settings.sampleSize →
      ∀ p hit rest,
        (service.scrolls.start (sampleSearch index baseQuery s.settings) mid).1 = .ok p →
        p.hits = hit :: rest → ¬ hit.IsObject →
          (s.bind service index query cache now).1 = .error .noMembers

variable {s : Session} {service : ClusterService τ} {index : String} {query : Json}
  {baseQuery : Option Json} {cache : SchemaCache} {now : τ}

/-- A bind of an index fails as the resolution of its schema does. -/
theorem unresolved_of_bind (hindex : Text.isBlankText index = false)
    (hquery : readBaseQuery query = .ok baseQuery) {e : Error}
    (h : (s.bind service index query cache now).1 = .error e) :
    (resolveSchema service index baseQuery s.settings now).1 = .error e := by
  rw [bind, if_neg (by simp [hindex]), hquery] at h
  dsimp only at h
  rw [bindChecked] at h
  split at h
  · cases h
  · split at h
    · rename_i hresolve
      rw [hresolve]
      exact congrArg Except.error (Except.error.inj h)
    · cases h

/-- A bind of an index that is not in the cache fails if the resolution of its schema does. -/
theorem bind_of_unresolved (hindex : Text.isBlankText index = false)
    (hquery : readBaseQuery query = .ok baseQuery)
    (hmiss : cache.get? (s.key index baseQuery) = none) {e : Error} {later : τ}
    (h : resolveSchema service index baseQuery s.settings now = (.error e, later)) :
    (s.bind service index query cache now).1 = .error e := by
  rw [bind, if_neg (by simp [hindex]), hquery]
  dsimp only
  rw [bindChecked, hmiss]
  dsimp only
  rw [h]

/-- **Faults of a bind**: they are those of the resolution. -/
theorem bindFaults_of_answers {ready : τ → Prop} {kind : Json → Prop}
    (hindex : Text.isBlankText index = false) (hquery : readBaseQuery query = .ok baseQuery)
    (hservice : service.Answers ready kind index baseQuery s.settings) (cache : SchemaCache)
    (hnow : ready now) : s.BindFaults service kind index query baseQuery cache now where
  fault e he :=
    (resolveSchema_ends hservice now hnow).bad_of_error (unresolved_of_bind hindex hquery he)
  sample response mappings m hresponse hmappings hm e he := by
    have hmapping : service.mapping index now = (.ok response, (service.mapping index now).2) :=
      Prod.ext hresponse rfl
    have hended := schema_ends hservice.scrolls hmappings hm hmapping (hservice.mapping now hnow).state
    exact hended.bad_of_error (unresolved_of_bind hindex hquery he)
  bare response mappings m mid hmiss hmapping hmappings hm hcolumns hpaths hsize p hit rest hstart hhits
      hbare := by
    have hmapped := (hservice.mapping now hnow).state
    rw [hmapping] at hmapped
    obtain ⟨last, hresolve⟩ := resolveSchema_of_bare hservice.scrolls hmappings hm hcolumns hpaths hsize
      hmapping hmapped (Prod.ext hstart rfl) hhits hbare
    exact bind_of_unresolved hindex hquery hmiss hresolve

end Session

/-! ## Calls -/

namespace Scan

/-- What a call of a scan without a row filter can come to, on hits of a kind. -/
structure CallFaults (service : ScrollService τ) (kind : Json → Prop) (d : RowDecoder) (t : Scan)
    (now : τ) : Prop where
  /-- It comes to a row, to the end or to a fault; with texts only, the cluster or a hit that is no object
  is at fault. -/
  returns : ∃ turn t' later, t.Returns service now (turn, t', later) ∧ turn ≠ .again ∧
    ∀ e, turn = .failed e → Fault kind d e ∧ (d.ShowsText → e.OfCluster ∨ Bare kind e)
  /-- A hit that is no object fails when it is to be returned. -/
  bare : ∀ c hit rest, t.state = .draining → t.cursor = some c → c.page = hit :: rest →
    ¬ hit.IsObject → ¬ t.skipped < t.request.offset → d.columns ≠ [] →
      ∃ t' later, t.Returns service now (.failed .noMembers, t', later)

/-- Texts are not at fault. -/
theorem Fault.of_showsText {kind : Json → Prop} {d : RowDecoder} {e : Error} (h : Fault kind d e)
    (htext : d.ShowsText) : e.OfCluster ∨ Bare kind e := by
  cases h with
  | cluster h => exact .inl h
  | bare h => exact .inr h
  | exceeds _ h => exact absurd h (d.not_exceeds_of_showsText htext _)

/-- **Faults of a call**, wherever the scan stands. -/
theorem callFaults_of_answers {service : ScrollService τ} {ready : τ → Prop} {kind : Json → Prop}
    {r : ScanRequest} {schema : Schema} {s : Scan} (hcreate : Scan.create r schema = .ok s)
    (hfilter : r.rowFilter = none) (hservice : service.Answers ready kind s.search) {now later : τ}
    (hnow : ready now) {rows : List Row} {t : Scan} (hreaches : s.Reaches service now rows t later) :
    t.CallFaults service kind s.decoder later := by
  obtain ⟨hdraws, hlater⟩ :=
    (keeps_draws hservice).of_reaches ⟨draws_of_create hcreate hfilter kind, hnow⟩ hreaches
  constructor
  · obtain ⟨turn, t', last, hreturns, hturn, hfault⟩ := hdraws.returns hservice hlater
    exact ⟨turn, t', last, hreturns, hturn, fun e he => ⟨hfault e he, (hfault e he).of_showsText⟩⟩
  · intro c hit rest hstate hcursor hpage hbare hskip hcolumns
    exact hdraws.returns_of_bare hservice hlater hstate hcursor hpage hbare hskip hcolumns

end Scan

/-! ## Clients -/

namespace Session

/-- **What bodies can do to a session.** Whatever texts the peer of an open client sends as the bodies of
whatever responses, a bind of an index fails only because a request was given up or a body has a wrong
shape, on a conflict of mappings, or on a hit that is no object; once the mappings are merged only such a
hit can fail it. Every call of a scan without a row filter comes to a row, to the end or to a failure,
wherever the scan stands; if it shows texts only, that is again one of the cluster or on such a hit. In
either place a hit that is no object does fail, with an error that no handler is meant for. -/
theorem faults_of_bodies {c : Client σ} {kind : Json → Prop} (hpeer : c.peer.AnswersReadably kind)
    (s : Session) :
    (∀ {index : String} {query : Json} {baseQuery : Option Json}, Text.isBlankText index = false →
      readBaseQuery query = .ok baseQuery → c.CanResolve index baseQuery s.settings →
        ∀ cache {link : Link σ}, Client.Open link →
          s.BindFaults c.cluster kind index query baseQuery cache link) ∧
    ∀ {r : ScanRequest} {schema : Schema} {scan : Scan}, Scan.create r schema = .ok scan →
      r.rowFilter = none → c.CanScroll scan.search → ∀ {link later : Link σ} {rows : List Row} {t : Scan},
        Client.Open link → scan.Reaches c.scrolls link rows t later →
          t.CallFaults c.scrolls kind scan.decoder later := by
  constructor
  · intro index query baseQuery hindex hquery hcan cache link hopen
    exact bindFaults_of_answers hindex hquery (Client.cluster_answers hpeer hcan) cache hopen
  · intro r schema scan hcreate hfilter hcan link later rows t hopen hreaches
    exact Scan.callFaults_of_answers hcreate hfilter (Client.scrolls_answer hpeer hcan) hopen hreaches

end Session

/-! ## One answer besides a mapping -/

namespace Declared

/-- The mapping of an index with a field. -/
def mapping : String :=
  "\x7b\"docs\":\x7b\"mappings\":\x7b\"properties\":\x7b\"x\":\x7b\"type\":\"keyword\"\x7d\x7d\x7d\x7d\x7d"

/-- A response with a text. -/
def response (text : String) : HttpResponse := ⟨200, [], text.toList.map Char.toNat⟩

/-- A client of a server that gives the mapping to whoever wants to get something, and one answer to
everything else. -/
def client (text : String) : Client Unit :=
  { connection := {}
    base := ⟨"http", "", "localhost", some 9200, "/", none, none⟩
    sink := none
    peer := fun r _ => (.response (response (if r.method = "GET" then mapping else text)), ()) }

/-- A session with the settings that nobody changed. -/
def session : Session := { connection := {}, settings := {} }

/-- A link that nothing was sent over. -/
def link : Link Unit := { peer := () }

/-- Requests can be sent over it. -/
theorem open_link : Client.Open link := rfl

/-- What the mapping of the index comes to. -/
def merged (text : String) : Except Error MergedMapping :=
  ((client text).mapping "docs" link).1.bind fun found =>
    (IndexMapping.ofResponse found).bind mergeMappings

/-- A text that is no page reads as hits of any kind. -/
theorem reads_of_pageless {text : String} (htext : (response text).text? = some text)
    (hpage : (response text).page.isOk = false) (kind : Json → Prop) : (response text).Reads kind := by
  refine ⟨⟨text, htext⟩, fun p hp => ?_⟩
  rw [hp] at hpage
  cases hpage

/-- The server answers readably if its one answer can be read. -/
theorem answersReadably {text : String} {kind : Json → Prop} (h : (response text).Reads kind) :
    (client text).peer.AnswersReadably kind := by
  have hmapping : (response mapping).Reads kind :=
    reads_of_pageless (by decide +kernel) (by decide +kernel) kind
  intro r state
  refine .response (HttpResponse.redirect?_of_success rfl) ?_
  by_cases hget : r.method = "GET"
  · rw [if_pos hget]
    exact hmapping
  · rw [if_neg hget]
    exact h

/-- An inquiry whose destination is found can be planned. -/
theorem exists_plan (text : String) (inquiry : Inquiry) {content : Option String}
    (hbody : Client.bodyText inquiry.body = .ok content)
    (hdestination : ((client "").destination inquiry).isOk = true) :
    ∃ planned, (client text).plan inquiry = .ok planned := by
  have hsoon : ¬ Client.tooLong ≤ (client "").connection.retryInterval := by decide +kernel
  rcases hfound : (client "").destination inquiry with e | address
  · rw [hfound] at hdestination
    cases hdestination
  · exact ⟨_, Client.plan_eq_ok hbody ((if_neg hsoon).trans hfound)⟩

/-- The requests of a scroll can be planned if its search can. -/
theorem canScroll (text : String) {q : Search} (name : String) {content : Option String}
    (hname : Http.escapeIndex? q.index = some name)
    (hbody : Client.bodyText (Client.openInquiry name q).body = .ok content)
    (hdestination : ((client "").destination (Client.openInquiry name q)).isOk = true) :
    (client text).CanScroll q where
  opens := by
    obtain ⟨planned, hplan⟩ := exists_plan text _ hbody hdestination
    exact ⟨name, planned, hname, hplan⟩
  -- where a scroll goes on does not depend on its id
  continues id := exists_plan text (Client.continueInquiry id q.scroll) rfl
    (show ((client "").destination (Client.continueInquiry "" "")).isOk = true by decide +kernel)
  releases id := exists_plan text (Client.releaseInquiry id) rfl
    (show ((client "").destination (Client.releaseInquiry "")).isOk = true by decide +kernel)

/-- The requests of a resolution can be planned. -/
theorem canResolve (text : String) : (client text).CanResolve "docs" none session.settings where
  maps := by
    obtain ⟨planned, hplan⟩ :=
      exists_plan text (Client.mappingInquiry "docs") rfl (by decide +kernel)
    exact ⟨"docs", planned, by decide +kernel, hplan⟩
  scrolls := canScroll text "docs" (by decide +kernel) rfl (by decide +kernel)

/-- What a bind of the index comes to once the mappings are merged. -/
theorem exists_merged (text : String) (h : (merged text).isOk = true) :
    ∃ found mappings m, ((client text).mapping "docs" link).1 = .ok found ∧
      IndexMapping.ofResponse found = .ok mappings ∧ mergeMappings mappings = .ok m := by
  rcases hmerged : merged text with e | m
  · rw [hmerged] at h
    cases h
  · obtain ⟨found, hfound, hrest⟩ := bind_eq_ok.1 hmerged
    obtain ⟨mappings, hmappings, hm⟩ := bind_eq_ok.1 hrest
    exact ⟨found, mappings, m, hfound, hmappings, hm⟩

/-- A body that is a number ends the sampling and nothing more, and the failure of a scan that it ends is
one of the cluster. -/
theorem faults_of_number :
    (∃ bound, (session.bind (client "5").cluster "docs" .null {} link).1 = .ok bound) ∧
      ∃ turn t later, Singles.scan.Returns (client "5").scrolls link (turn, t, later) ∧
        turn ≠ .again ∧ ∀ e, turn = .failed e → e.OfCluster := by
  have hpeer : (client "5").peer.AnswersReadably fun _ => False :=
    answersReadably (reads_of_pageless (by decide +kernel) (by decide +kernel) _)
  obtain ⟨hbinds, hcalls⟩ := Session.faults_of_bodies hpeer session
  constructor
  · -- no hit is of the kind, so the sampling cannot fail on one
    have hfaults : session.BindFaults (client "5").cluster (fun _ => False) "docs" .null none {} link :=
      hbinds (by decide +kernel) rfl (canResolve "5") {} open_link
    obtain ⟨found, mappings, m, hfound, hmappings, hm⟩ := exists_merged "5" (by decide +kernel)
    rcases hbind : (session.bind (client "5").cluster "docs" .null {} link).1 with e | bound
    · cases hfaults.sample found mappings m hfound hmappings hm e hbind with
      | noMembers hkind => exact hkind.elim
    · exact ⟨bound, rfl⟩
  · have hcreate : Scan.create Singles.request { columns := [] } = .ok Singles.scan := rfl
    have hcan : (client "5").CanScroll Singles.scan.search :=
      canScroll "5" "documents" (by decide +kernel) rfl (by decide +kernel)
    have hfaults : Singles.scan.CallFaults (client "5").scrolls (fun _ => False) Singles.scan.decoder
        link := hcalls hcreate rfl hcan open_link .start
    obtain ⟨turn, t, later, hreturns, hturn, hfault⟩ := hfaults.returns
    refine ⟨turn, t, later, hreturns, hturn, fun e he => ?_⟩
    cases (hfault e he).1 with
    | cluster hcluster => exact hcluster
    | bare hbare => cases hbare; contradiction
    | exceeds hkind => exact hkind.elim

/-- A page whose hit is a number. -/
def numberHit : String := "\x7b\"hits\":\x7b\"hits\":[1]\x7d\x7d"

/-- **A hit that is no object fails a bind** with an error that no handler is meant for, although only the
sampling is at stake. -/
theorem not_described_of_number_hit :
    ¬ ∀ {c : Client Unit} {s : Session} {index : String}, c.peer.AnswersReadably (fun _ => True) →
      Text.isBlankText index = false → c.CanResolve index none s.settings →
        ∀ {now : Link Unit}, Client.Open now →
          ∀ e, (s.bind c.cluster index .null {} now).1 = .error e → e.isDescribed = true := by
  intro hall
  have htext : (response numberHit).text? = some numberHit := by decide +kernel
  have hpeer : (client numberHit).peer.AnswersReadably fun _ => True :=
    answersReadably ⟨⟨_, htext⟩, fun _ _ _ _ => trivial⟩
  have hcan := canResolve numberHit
  have hindex : Text.isBlankText "docs" = false := by decide +kernel
  have hfails : (session.bind (client numberHit).cluster "docs" .null {} link).1.isOk = false := by
    decide +kernel
  rcases hbind : (session.bind (client numberHit).cluster "docs" .null {} link).1 with e | bound
  · have hdescribed := hall hpeer hindex hcan open_link e hbind
    obtain ⟨found, mappings, m, hfound, hmappings, hm⟩ := exists_merged numberHit (by decide +kernel)
    have hfaults : session.BindFaults (client numberHit).cluster (fun _ => True) "docs" .null none {}
        link :=
      Session.bindFaults_of_answers hindex rfl (Client.cluster_answers hpeer hcan) {} open_link
    cases hfaults.sample found mappings m hfound hmappings hm e hbind
    cases hdescribed
  · rw [hbind] at hfails
    cases hfails

end Declared

end SearchTables
