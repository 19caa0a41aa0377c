import SearchTables.Client.Endpoint
import SearchTables.Proofs.Outcome

/-! # Attempts — what a request of a client comes to

A request is one attempt after the other. An attempt sends nothing, or it sends one request and takes
what the exchange with the peer delivers. `Attempts` and `Retries` say so of a single attempt and of
a whole request, without the waits and the log records in between. What one attempt means for the rest of
its request is said by `Client.retrying_of_last` and `Client.retrying_of_transient`. `Task.Leads` says of
any task where it leads the state and what it comes to. -/

namespace SearchTables

/-! ## Tasks -/

namespace Task

variable {τ α β : Type} {now later : τ}

/-- A task after one that has an answer. -/
theorem bind_of_ok {x : Task τ α} {f : α → Task τ β} {a : α} (h : x now = (.ok a, later)) :
    (x >>= f) now = f a later := by
  simp only [bind, ExceptT.bind, ExceptT.mk, StateT.bind, h]
  rfl

/-- A task after one that fails. -/
theorem bind_of_error {x : Task τ α} {f : α → Task τ β} {e : Error}
    (h : x now = (.error e, later)) : (x >>= f) now = (.error e, later) := by
  simp only [bind, ExceptT.bind, ExceptT.mk, StateT.bind, h]
  rfl

/-- A task after a computation that has a value. -/
theorem bind_lift_of_ok {x : Except Error α} {a : α} (h : x = .ok a) (f : α → Task τ β) :
    ((liftM x : Task τ α) >>= f) now = f a now := by
  subst h
  exact bind_of_ok rfl

/-- A task after a computation that fails. -/
theorem bind_lift_of_error {x : Except Error α} {e : Error} (h : x = .error e)
    (f : α → Task τ β) : ((liftM x : Task τ α) >>= f) now = (.error e, now) := by
  subst h
  exact bind_of_error rfl

/-- A task that is given the state. -/
theorem bind_get (f : τ → Task τ β) : ((get : Task τ τ) >>= f) now = f now now :=
  bind_of_ok rfl

/-- How a task ended: in a state with a property, with a good answer or a bad failure. -/
inductive Ended (after : τ → Prop) (good : α → Prop) (bad : Error → Prop) :
    Except Error α × τ → Prop where
  | ok {a : α} {later : τ} (hafter : after later) (hgood : good a) : Ended after good bad (.ok a, later)
  | error {e : Error} {later : τ} (hafter : after later) (hbad : bad e) :
      Ended after good bad (.error e, later)

/-- Whether a task **leads** from one property of the state to another one, to a good answer or a bad
failure. -/
def Leads (before after : τ → Prop) (good : α → Prop) (bad : Error → Prop) (x : Task τ α) : Prop :=
  ∀ now, before now → Ended after good bad (x now)

/-- Whether a task keeps a state ready and comes to a good answer or a bad failure. -/
def Ends (ready : τ → Prop) (good : α → Prop) (bad : Error → Prop) (x : Task τ α) : Prop :=
  x.Leads ready ready good bad

section Ended

variable {P Q R : τ → Prop} {good : α → Prop} {good' : β → Prop} {bad : Error → Prop}
  {outcome : Except Error α × τ} {x : Task τ α} {f : α → Task τ β}

/-- The state in which a task ended. -/
theorem Ended.state (h : Ended Q good bad outcome) : Q outcome.2 := by
  cases h with
  | ok hafter => exact hafter
  | error hafter => exact hafter

/-- The failure with which a task ended. -/
theorem Ended.bad_of_error (h : Ended Q good bad outcome) {e : Error} (he : outcome.1 = .error e) :
    bad e := by
  cases h with
  | ok => cases he
  | error _ hbad =>
      obtain rfl := Except.error.inj he
      exact hbad

/-- Less can be said of how a task ended. -/
theorem Ended.mono (h : Ended Q good bad outcome) {more : α → Prop} {worse : Error → Prop}
    (hgood : ∀ a, good a → more a) (hbad : ∀ e, bad e → worse e) : Ended Q more worse outcome := by
  cases h with
  | ok hafter h => exact .ok hafter (hgood _ h)
  | error hafter h => exact .error hafter (hbad _ h)

/-- What a task does to the state, whatever it comes to. -/
theorem leads_of_state (h : ∀ now, P now → Q (x now).2) :
    x.Leads P Q (fun _ => True) fun _ => True := by
  intro now hnow
  have hlater := h now hnow
  rcases hended : x now with ⟨e | a, later⟩
  · rw [hended] at hlater
    exact .error hlater trivial
  · rw [hended] at hlater
    exact .ok hlater trivial

/-- One task after another leads as far as both do. -/
theorem Leads.bind (hx : x.Leads P Q good bad) (hf : ∀ a, good a → (f a).Leads Q R good' bad)
    (hfails : ∀ now, Q now → R now) : (x >>= f).Leads P R good' bad := by
  intro now hnow
  have hended := hx now hnow
  rcases h : x now with ⟨e | a, later⟩
  · rw [h] at hended
    rw [bind_of_error h]
    exact .error (hfails later hended.state) (hended.bad_of_error rfl)
  · rw [h] at hended
    rw [bind_of_ok h]
    cases hended with
    | ok hafter hgood => exact hf a hgood later hafter

/-- One task after another ends as both do. -/
theorem Ends.bind (hx : x.Ends P good bad) (hf : ∀ a, good a → (f a).Ends P good' bad) :
    (x >>= f).Ends P good' bad :=
  Leads.bind hx hf fun _ h => h

end Ended

end Task

variable {σ : Type}

/-! ## One attempt -/

/-- What an exchange comes to for an attempt. -/
def Delivery.attempt : Delivery → Except Error Attempt
  | .response r => .ok (.answered r)
  | .failure f => .ok (.failed f)
  | .breakdown e => .error e

namespace Attempt

/-- Whether an attempt is answered with success. -/
def succeeded : Attempt → Bool
  | .answered r => isSuccess r.status
  | .failed _ => false

/-- A success is for good. -/
theorem not_transient_of_succeeded {outcome : Attempt} (h : outcome.succeeded = true) :
    outcome.isTransient = false := by
  cases outcome with
  | failed f => cases h
  | answered r =>
      rw [succeeded, isSuccess, Bool.and_eq_true, decide_eq_true_eq, decide_eq_true_eq] at h
      rw [isTransient, transientStatuses, List.contains_eq_mem, decide_eq_false_iff_not]
      simp only [List.mem_cons, List.not_mem_nil, or_false]
      omega

end Attempt

namespace Client

/-- What an attempt can be. -/
inductive Attempts (c : Client σ) (inquiry : Inquiry) (content : Option String) (link : Link σ) :
    Except Error Attempt × Link σ → Prop where
  /-- Nothing is sent. -/
  | unsent {e : Error} {later : Link σ} (hpeer : later.peer = link.peer) :
      Attempts c inquiry content link (.error e, later)
  /-- A request is sent. -/
  | sent {request : HttpRequest} {delivery : Delivery} {mid later : Link σ}
      (hmethod : request.method = Text.upper inquiry.method)
      (haddress : c.address inquiry.path inquiry.parameters = .ok request.address)
      (hbody : request.body = content)
      (hexchange : exchange c.peer (maxRedirects + 1) request link = (delivery, mid))
      (hpeer : later.peer = mid.peer) :
      Attempts c inquiry content link (delivery.attempt, later)

/-- The request of an attempt. -/
def firstRequest (c : Client σ) (inquiry : Inquiry) (content : Option String) (cookies : CookieJar)
    (address : Address) : HttpRequest :=
  c.withCredentials (withCookies cookies (requestTo address inquiry.method content))

/-- Cookies and credentials are headers: what else a request is stays. -/
theorem firstRequest_fields (c : Client σ) (inquiry : Inquiry) (content : Option String)
    (cookies : CookieJar) (address : Address) :
    (c.firstRequest inquiry content cookies address).method = Text.upper inquiry.method ∧
      (c.firstRequest inquiry content cookies address).address = address ∧
      (c.firstRequest inquiry content cookies address).body = content := by
  have hcookies : ∀ r, (withCookies cookies r).method = r.method ∧
      (withCookies cookies r).address = r.address ∧ (withCookies cookies r).body = r.body := by
    intro r
    rw [withCookies]
    split <;> exact ⟨rfl, rfl, rfl⟩
  have hcredentials : ∀ r, (c.withCredentials r).method = r.method ∧
      (c.withCredentials r).address = r.address ∧ (c.withCredentials r).body = r.body := by
    intro r
    rw [withCredentials]
    dsimp only
    split <;> exact ⟨rfl, rfl, rfl⟩
  obtain ⟨hmethod, haddress, hbody⟩ := hcookies (requestTo address inquiry.method content)
  obtain ⟨hmethod', haddress', hbody'⟩ := hcredentials (withCookies cookies _)
  exact ⟨hmethod'.trans hmethod, haddress'.trans haddress, hbody'.trans hbody⟩

/-- A trace leaves the peer alone. -/
@[simp] theorem peer_trace (link : Link σ) (sink : Option TraceSink) (t : Trace) :
    (link.trace sink t).peer = link.peer := by
  cases sink with
  | none => rfl
  | some sink => cases sink <;> rfl

/-- Where an inquiry goes: its address, whose host must have a name. -/
def destination (c : Client σ) (inquiry : Inquiry) : Except Error Address := do
  let address ← (c.address inquiry.path inquiry.parameters).mapError AddressFault.error
  let _ ← address.hostName.mapError Error.badHostName
  pure address

section Destination

variable {c : Client σ} {inquiry : Inquiry} {content : Option String} {link : Link σ}
  {address : Address} {e : Error}

/-- An inquiry goes to its address. -/
theorem address_of_destination (h : c.destination inquiry = .ok address) :
    c.address inquiry.path inquiry.parameters = .ok address ∧
      ∃ host, address.hostName.mapError Error.badHostName = .ok host := by
  rw [destination, bind_eq_ok] at h
  obtain ⟨found, hfound, h⟩ := h
  obtain ⟨host, hhost, h⟩ := bind_eq_ok.1 h
  obtain rfl : found = address := by simpa [pure, Except.pure] using h
  refine ⟨?_, host, hhost⟩
  cases haddress : c.address inquiry.path inquiry.parameters with
  | error fault =>
      rw [haddress] at hfound
      cases hfound
  | ok found' =>
      rw [haddress] at hfound
      exact congrArg Except.ok (Except.ok.inj hfound)

/-- An attempt without a destination sends nothing. -/
theorem attempt_of_nowhere (h : c.destination inquiry = .error e) (content : Option String)
    (link : Link σ) : c.attempt inquiry content link = (.error e, link) := by
  rw [destination] at h
  rcases haddress : (c.address inquiry.path inquiry.parameters).mapError AddressFault.error
    with fault | address
  · rw [haddress] at h
    obtain rfl : fault = e := by simpa [bind, Except.bind] using h
    exact Task.bind_lift_of_error haddress _
  rcases hhost : address.hostName.mapError Error.badHostName with fault | host
  · rw [haddress] at h
    obtain rfl : fault = e := by simpa [bind, Except.bind, hhost] using h
    exact (Task.bind_lift_of_ok haddress _).trans (Task.bind_lift_of_error hhost _)
  · simp [haddress, hhost, bind, Except.bind, pure, Except.pure] at h

/-- An attempt of a closed client sends nothing. -/
theorem attempt_of_closed (h : c.destination inquiry = .ok address) (content : Option String)
    (hclosed : link.closed = true) :
    c.attempt inquiry content link =
      (.error .badState, link.trace c.sink (Trace.ofAttempt
        (withCookies link.cookies (requestTo address inquiry.method content)) none)) := by
  obtain ⟨haddress, host, hhost⟩ := address_of_destination h
  refine (Task.bind_lift_of_ok (by rw [haddress]; rfl) _).trans ?_
  refine (Task.bind_lift_of_ok hhost _).trans ?_
  refine (Task.bind_get _).trans ?_
  dsimp only
  rw [if_pos hclosed]
  rfl

/-- An attempt of a client that is not closed comes to what the exchange delivers. -/
theorem attempt_of_open (h : c.destination inquiry = .ok address) (hopen : link.closed = false)
    {delivery : Delivery} {mid : Link σ}
    (hexchange : exchange c.peer (maxRedirects + 1)
      (c.firstRequest inquiry content link.cookies address) link = (delivery, mid)) :
    c.attempt inquiry content link =
      (delivery.attempt, mid.trace c.sink (Trace.ofAttempt
        (c.firstRequest inquiry content link.cookies address) (some delivery))) := by
  obtain ⟨haddress, host, hhost⟩ := address_of_destination h
  refine (Task.bind_lift_of_ok (by rw [haddress]; rfl) _).trans ?_
  refine (Task.bind_lift_of_ok hhost _).trans ?_
  refine (Task.bind_get _).trans ?_
  have hunclosed : ¬ link.closed = true := by simp [hopen]
  dsimp only
  rw [if_neg hunclosed]
  rw [firstRequest] at hexchange ⊢
  rw [hexchange]
  cases delivery <;> rfl

end Destination

/-- **An attempt is one of the cases of `Attempts`.** -/
theorem attempts_attempt (c : Client σ) (inquiry : Inquiry) (content : Option String)
    (link : Link σ) : Attempts c inquiry content link (c.attempt inquiry content link) := by
  rcases hdestination : c.destination inquiry with e | address
  · rw [attempt_of_nowhere hdestination]
    exact .unsent rfl
  by_cases hclosed : link.closed = true
  · rw [attempt_of_closed hdestination content hclosed]
    exact .unsent (peer_trace ..)
  · obtain ⟨hmethod, hrequest, hbody⟩ :=
      c.firstRequest_fields inquiry content link.cookies address
    obtain ⟨haddress, -⟩ := address_of_destination hdestination
    rcases hexchange : exchange c.peer (maxRedirects + 1)
      (c.firstRequest inquiry content link.cookies address) link with ⟨delivery, mid⟩
    rw [attempt_of_open hdestination (by simpa using hclosed) hexchange]
    exact .sent hmethod (haddress.trans (congrArg _ hrequest.symm)) hbody hexchange
      (peer_trace ..)

/-! ## All attempts -/

/-- What the attempts of a request can be, with a number of retries left. -/
inductive Retries (c : Client σ) (inquiry : Inquiry) (content : Option String) :
    Nat → Link σ → Except Error Reply × Link σ → Prop where
  /-- The attempt breaks down, or it is the last one and brings no success with a text. -/
  | fails {left : Nat} {link later : Link σ} {outcome : Except Error Attempt} {e : Error}
      (hattempt : c.attempt inquiry content link = (outcome, later))
      (houtcome : ∀ r, outcome = .ok (.answered r) → isSuccess r.status = false ∨ r.text? = none) :
      Retries c inquiry content left link (.error e, later)
  /-- The attempt succeeds. -/
  | succeeds {left retries : Nat} {link later : Link σ} {r : HttpResponse} {text : String}
      (hattempt : c.attempt inquiry content link = (.ok (.answered r), later))
      (htext : r.text? = some text) :
      Retries c inquiry content left link (.ok ⟨r.status, text, retries⟩, later)
  /-- The attempt fails, and another one is made. -/
  | again {left : Nat} {link mid next : Link σ} {outcome : Attempt}
      {result : Except Error Reply × Link σ}
      (hattempt : c.attempt inquiry content link = (.ok outcome, mid))
      (houtcome : ∀ r, outcome = .answered r → isSuccess r.status = false)
      (hpeer : next.peer = mid.peer) (hrest : Retries c inquiry content left next result) :
      Retries c inquiry content (left + 1) link result

/-- A request that is given up fails. -/
theorem exists_giveUp (inquiry : Inquiry) (outcome : Attempt) (retries : Nat) :
    ∃ e, retrying.giveUp inquiry outcome retries = .error e := by
  rw [retrying.giveUp]
  rcases outcome.report with e | report
  · exact ⟨e, rfl⟩
  · exact ⟨_, rfl⟩

/-- A request is over with an attempt that breaks down. -/
theorem retrying_of_error {c : Client σ} {inquiry : Inquiry} {content : Option String}
    {link mid : Link σ} {e : Error} (hattempt : c.attempt inquiry content link = (.error e, mid))
    (left retries : Nat) (wait : Float) :
    c.retrying inquiry content left retries wait link = (.error e, mid) := by
  cases left with
  | zero => exact Task.bind_of_error hattempt
  | succ left => exact Task.bind_of_error hattempt

/-- The attempts that are left do not matter when one succeeds. -/
theorem retrying_of_success {c : Client σ} {inquiry : Inquiry} {content : Option String}
    {link mid : Link σ} {r : HttpResponse}
    (hattempt : c.attempt inquiry content link = (.ok (.answered r), mid))
    (hsuccess : isSuccess r.status = true) (left retries : Nat) (wait : Float) :
    c.retrying inquiry content left retries wait link =
      ((Attempt.text r).map (⟨r.status, ·, retries⟩), mid) := by
  have hreply : c.retrying inquiry content left retries wait link =
      (do return ⟨r.status, ← Attempt.text r, retries⟩ : Task (Link σ) Reply) mid := by
    cases left with
    | zero =>
        refine (Task.bind_of_ok hattempt).trans ?_
        dsimp only
        rw [if_pos hsuccess]
    | succ left =>
        refine (Task.bind_of_ok hattempt).trans ?_
        dsimp only
        rw [if_pos hsuccess]
  rw [hreply]
  rcases htext : Attempt.text r with e | text
  · exact Task.bind_lift_of_error rfl _
  · exact Task.bind_lift_of_ok rfl _

/-- A request is over with an attempt that succeeds. -/
theorem retries_of_success {c : Client σ} {inquiry : Inquiry} {content : Option String}
    {left : Nat} {link mid : Link σ} {r : HttpResponse}
    (hattempt : c.attempt inquiry content link = (.ok (.answered r), mid))
    (hsuccess : isSuccess r.status = true) (retries : Nat) (wait : Float) :
    Retries c inquiry content left link (c.retrying inquiry content left retries wait link) := by
  rw [retrying_of_success hattempt hsuccess, Attempt.text]
  rcases htext : r.text? with - | text
  · refine .fails hattempt fun r' hr => .inr ?_
    obtain rfl : r = r' := by simpa using hr
    exact htext
  · exact .succeeds hattempt htext

section Last

variable {c : Client σ} {inquiry : Inquiry} {content : Option String} {link : Link σ}

/-- What the last attempt of a request makes of it. -/
def settle (inquiry : Inquiry) (outcome : Attempt) (retries : Nat) : Except Error Reply :=
  match outcome with
  | .answered r =>
      if isSuccess r.status then (Attempt.text r).map (⟨r.status, ·, retries⟩)
      else retrying.giveUp inquiry outcome retries
  | .failed _ => retrying.giveUp inquiry outcome retries

/-- What is no success is given up. -/
theorem settle_of_not_success {outcome : Attempt} (h : outcome.succeeded = false) (inquiry : Inquiry)
    (retries : Nat) : settle inquiry outcome retries = retrying.giveUp inquiry outcome retries := by
  cases outcome with
  | failed f => rfl
  | answered r => exact if_neg (Bool.eq_false_iff.1 h)

/-- What the log says when a request is tried again. -/
def retryNotice (inquiry : Inquiry) (outcome : Attempt) : LogRecord :=
  ⟨.client, .warning, "retrying " ++ inquiry.method ++ " " ++ inquiry.path ++
    " after status " ++ toString outcome.status⟩

/-- What stands on record between an attempt and the next one. -/
def pause (inquiry : Inquiry) (outcome : Attempt) (wait : Float) : List Event :=
  [.logged (retryNotice inquiry outcome), .waited wait]

/-- A request ends with an attempt that is not transient, or that spends the budget. -/
theorem retrying_of_last {outcome : Attempt} {mid : Link σ} {left : Nat}
    (hattempt : c.attempt inquiry content link = (.ok outcome, mid))
    (hlast : left = 0 ∨ outcome.isTransient = false) (retries : Nat) (wait : Float) :
    c.retrying inquiry content left retries wait link = (settle inquiry outcome retries, mid) := by
  by_cases hsuccess : outcome.succeeded = true
  · cases outcome with
    | failed f => cases hsuccess
    | answered r =>
        have hsuccess' : isSuccess r.status = true := hsuccess
        rw [retrying_of_success hattempt hsuccess', settle, if_pos hsuccess']
  rw [settle_of_not_success (Bool.eq_false_iff.2 hsuccess)]
  have hgiven : (liftM (retrying.giveUp inquiry outcome retries) : Task (Link σ) Reply) mid =
      (retrying.giveUp inquiry outcome retries, mid) := rfl
  have hmisses : ∀ r, outcome = .answered r → ¬ isSuccess r.status = true := by
    rintro r rfl
    exact hsuccess
  -- an answer that is no success is treated as no answer
  cases left with
  | zero =>
      refine (Task.bind_of_ok hattempt).trans ?_
      cases outcome with
      | failed f => exact hgiven
      | answered r =>
          dsimp only
          rw [if_neg (hmisses r rfl)]
          exact hgiven
  | succ left =>
      obtain hzero | hlasting := hlast
      · cases hzero
      refine (Task.bind_of_ok hattempt).trans ?_
      cases outcome with
      | failed f => cases hlasting
      | answered r =>
          dsimp only
          rw [if_neg (hmisses r rfl), if_neg (Bool.eq_false_iff.1 hlasting)]
          exact hgiven

/-- A request goes on after a transient attempt while there is budget. -/
theorem retrying_of_transient {outcome : Attempt} {mid : Link σ}
    (hattempt : c.attempt inquiry content link = (.ok outcome, mid))
    (htransient : outcome.isTransient = true) (left retries : Nat) (wait : Float) :
    c.retrying inquiry content (left + 1) retries wait link =
      c.retrying inquiry content left (retries + 1) (wait * c.connection.backoffFactor)
        { mid with events := mid.events ++ pause inquiry outcome wait } := by
  have hmid : (mid.log .client .warning ("retrying " ++ inquiry.method ++ " " ++ inquiry.path ++
      " after status " ++ toString outcome.status)).note (.waited wait) =
        { mid with events := mid.events ++ pause inquiry outcome wait } := by
    rw [Link.log, Link.note, Link.note, List.append_assoc]
    rfl
  refine (Task.bind_of_ok hattempt).trans ?_
  rw [← hmid]
  cases outcome with
  | failed f => exact Task.bind_of_ok rfl
  | answered r =>
      have hmisses : ¬ (Attempt.answered r).succeeded = true := fun hsuccess => by
        rw [Attempt.not_transient_of_succeeded hsuccess] at htransient
        cases htransient
      rw [Attempt.succeeded] at hmisses
      dsimp only
      rw [if_neg hmisses, if_pos htransient]
      exact Task.bind_of_ok rfl

end Last

/-- A request goes on or is given up after an attempt that does not succeed. -/
theorem retrying_of_failure {c : Client σ} {inquiry : Inquiry} {content : Option String}
    {link mid : Link σ} {outcome : Attempt}
    (hattempt : c.attempt inquiry content link = (.ok outcome, mid))
    (houtcome : ∀ r, outcome = .answered r → isSuccess r.status = false)
    (left retries : Nat) (wait : Float) :
    (∃ e, c.retrying inquiry content left retries wait link = (.error e, mid)) ∨
      ∃ left' wait' next, left = left' + 1 ∧ next.peer = mid.peer ∧
        c.retrying inquiry content left retries wait link =
          c.retrying inquiry content left' (retries + 1) wait' next := by
  have hmisses : outcome.succeeded = false := by
    cases outcome with
    | failed f => rfl
    | answered r => exact houtcome r rfl
  obtain ⟨e, hgiven⟩ := exists_giveUp inquiry outcome retries
  -- either way the attempt settles the request, and without a success that is to give it up
  have hlast : left = 0 ∨ outcome.isTransient = false →
      c.retrying inquiry content left retries wait link = (.error e, mid) := by
    intro hlast
    rw [retrying_of_last hattempt hlast, settle_of_not_success hmisses, hgiven]
  cases left with
  | zero => exact .inl ⟨e, hlast (.inl rfl)⟩
  | succ left =>
      rcases htransient : outcome.isTransient with - | -
      · exact .inl ⟨e, hlast (.inr htransient)⟩
      · have hnext := retrying_of_transient hattempt htransient left retries wait
        refine .inr ⟨left, _, _, rfl, ?_, hnext⟩
        rfl

/-- **The attempts of a request are one of the cases of `Retries`.** The induction is on the retries
that are left. -/
theorem retries_retrying (c : Client σ) (inquiry : Inquiry) (content : Option String)
    (left retries : Nat) (wait : Float) (link : Link σ) :
    Retries c inquiry content left link (c.retrying inquiry content left retries wait link) := by
  induction left using Nat.strongRecOn generalizing retries wait link with
  | ind left ih =>
      rcases hattempt : c.attempt inquiry content link with ⟨e | outcome, mid⟩
      · rw [retrying_of_error hattempt]
        exact .fails hattempt fun r hr => by cases hr
      by_cases hsuccess : ∃ r, outcome = .answered r ∧ isSuccess r.status = true
      · obtain ⟨r, rfl, hr⟩ := hsuccess
        exact retries_of_success hattempt hr retries wait
      have houtcome : ∀ r, outcome = .answered r → isSuccess r.status = false := by
        intro r hr
        simpa using fun h => hsuccess ⟨r, hr, h⟩
      obtain ⟨e, hfailed⟩ | ⟨left', wait', next, rfl, hpeer, hnext⟩ :=
        retrying_of_failure hattempt houtcome left retries wait
      · rw [hfailed]
        exact .fails hattempt fun r hr => .inl (houtcome r (by simpa using hr))
      · rw [hnext]
        exact .again hattempt houtcome hpeer (ih left' (by omega) ..)

/-- How many retries a request may take. -/
def retryBudget (c : Client σ) (inquiry : Inquiry) : Nat :=
  if inquiry.retry then c.connection.maxRetries.toNat else 0

/-- A request with a content makes its attempts, unless the seconds of its interval are too many. -/
theorem request_eq_retrying {c : Client σ} {inquiry : Inquiry} {content : Option String}
    (hbody : bodyText inquiry.body = .ok content)
    (hinterval : ¬ tooLong ≤ c.connection.retryInterval) (link : Link σ) :
    c.request inquiry link =
      c.retrying inquiry content (c.retryBudget inquiry) 0 c.firstWait link := by
  refine (Task.bind_lift_of_ok hbody _).trans ?_
  dsimp only
  rw [if_neg hinterval]
  rfl

/-- A request that does not fail at once is one of the cases of `Retries`. -/
theorem request_cases (c : Client σ) (inquiry : Inquiry) (link : Link σ) :
    (∃ e, c.request inquiry link = (.error e, link)) ∨
      ∃ content left, bodyText inquiry.body = .ok content ∧
        Retries c inquiry content left link (c.request inquiry link) := by
  rcases hcontent : bodyText inquiry.body with e | content
  · exact .inl ⟨e, Task.bind_lift_of_error hcontent _⟩
  by_cases hinterval : tooLong ≤ c.connection.retryInterval
  · refine .inl ⟨.outOfRange, (Task.bind_lift_of_ok hcontent _).trans ?_⟩
    dsimp only
    rw [if_pos hinterval]
    exact Task.bind_of_error rfl
  · refine .inr ⟨content, c.retryBudget inquiry, rfl, ?_⟩
    rw [request_eq_retrying hcontent hinterval]
    exact retries_retrying ..

end Client

end SearchTables
