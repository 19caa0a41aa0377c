import SearchTables.Client.Event
import SearchTables.Http.CookieJar
import SearchTables.Settings.Connection
import SearchTables.Query.Clause
import SearchTables.Json.Reader

/-! # Clients

A client sends the requests of one connection to a peer. A request that meets a transient status or a failure
of the network is tried again after a wait, and the wait grows by a factor with each attempt. What the client
knows between requests, and what it did, is its **link**. -/

namespace SearchTables

/-- What a client knows between requests, the state of its peer, and what happened so far. -/
structure Link (σ : Type) where
  peer : σ
  cookies : CookieJar := {}
  closed : Bool := false
  events : List Event := []

/-- A computation that talks to a peer: it may fail, and what happened stays. -/
abbrev Task (τ : Type) := ExceptT Error (StateM τ)

/-- Where traces go. -/
inductive TraceSink where
  /-- To the log. -/
  | log
  /-- To a collector. -/
  | collector
  /-- To a collector that fails after each trace. -/
  | failingCollector
deriving DecidableEq, Repr, Inhabited

/-- A client of a peer. -/
structure Client (σ : Type) where
  connection : Connection
  base : Address
  sink : Option TraceSink
  peer : Peer σ

namespace Link

variable {σ : Type}

/-- Take note of something. -/
def note (link : Link σ) (event : Event) : Link σ := { link with events := link.events ++ [event] }

/-- Write a log record. -/
def log (link : Link σ) (source : LogSource) (level : LogLevel) (message : String) : Link σ :=
  link.note (.logged ⟨source, level, message⟩)

/-- Hand a trace to a sink. -/
def trace (link : Link σ) (sink : Option TraceSink) (t : Trace) : Link σ :=
  match sink with
  | none => link
  | some .log => link.note (.logged t.record)
  | some .collector => link.note (.traced t)
  | some .failingCollector =>
      (link.note (.traced t)).log .client .warning "HTTP trace sink failed"

end Link

/-- A successful response, with the number of retries it took. -/
structure Reply where
  status : Nat
  text : String
  retries : Nat
deriving DecidableEq, Repr, Inhabited

/-- The body as JSON. -/
def Reply.json (r : Reply) : Except Error Json :=
  match Json.read? r.text with
  | some j => .ok j
  | none => .error .bodyNotJson

/-- The text of a parameter; nothing is the empty text, and values with parts are written as in diagnostics. -/
def Http.parameterText : Json → String
  | .null => ""
  | .bool b => if b then "true" else "false"
  | .str s => s
  | j => j.shown

/-- The pairs of parameters; a list gives one for each of its elements. -/
def Http.parameterPairs (parameters : List (String × Json)) : List (String × String) :=
  parameters.flatMap fun
    | (name, .arr values) => values.map fun v => (name, parameterText v)
    | (name, v) => [(name, parameterText v)]

/-- Parameters as a query; there is none without parameters. -/
def Http.parameterQuery (parameters : List (String × Json)) : Except AddressFault (Option String) :=
  if parameters.isEmpty then .ok none
  else
    match formQuery? (parameterPairs parameters) with
    | some query => .ok (some query)
    | none => .error .notEncodable

/-- What a caller asks of a client. -/
structure Inquiry where
  method : String
  path : String
  body : Option Value := none
  parameters : Option (List (String × Json)) := none
  retry : Bool := true
  context : String := ""
deriving Inhabited

/-- How an attempt ended. -/
inductive Attempt where
  | answered (response : HttpResponse)
  | failed (failure : NetworkFailure)
deriving Inhabited

namespace Attempt

/-- Whether another attempt may go better. -/
def isTransient : Attempt → Bool
  | .answered r => transientStatuses.contains r.status
  | .failed _ => true

/-- The status of the answer, zero without one. -/
def status : Attempt → Nat
  | .answered r => r.status
  | .failed _ => 0

/-- The text of an answer, which must be one. -/
def text (r : HttpResponse) : Except Error String :=
  match r.text? with
  | some text => .ok text
  | none => .error .notDecodable

/-- The attempt as a request that was given up tells of it. -/
def report : Attempt → Except Error FailedAttempt
  | .answered r => (text r).map (.status r.status (reasonPhrase r.status))
  | .failed f => .ok (.network f.name f.message)

end Attempt

namespace Client

variable {σ : Type}

/-- Milliseconds from this number on are too many seconds for a double. -/
def tooLong : Int := 1000 * (Nat.pow 2 1024 - Nat.pow 2 970)

/-- A client for a connection that can be used. Without a sink of its own it traces to the log, if the
connection says so. -/
def create (connection : Connection) (sink : Option TraceSink) (peer : Peer σ) :
    Except Error (Client σ) := do
  connection.check
  if connection.credentials?.any fun (user, password) => (basicCredentials? user password).isNone then
    throw .notEncodable
  if tooLong ≤ connection.timeout then throw .outOfRange
  let base ← ((Address.read connection.baseUrl).bind Address.closed).mapError AddressFault.error
  pure ⟨connection, base, sink.or (if connection.httpLogging then some .log else none), peer⟩

/-! ## One attempt -/

/-- The address of a path, with parameters in place of its query where they are given. -/
def address (c : Client σ) (path : String) (parameters : Option (List (String × Json))) :
    Except AddressFault Address := do
  let a ← c.base.beneath (← Address.read path)
  match parameters with
  | none => pure a
  | some parameters => a.withQuery (← Http.parameterQuery parameters)

/-- Set the header that sends cookies, if there are any to send. -/
def withCookies (cookies : CookieJar) (r : HttpRequest) : HttpRequest :=
  match cookies.header? r.address with
  | some text => { r with headers := r.headers.set "cookie" text }
  | none => r

/-- The request of an attempt, without credentials. -/
def requestTo (address : Address) (method : String) (content : Option String) : HttpRequest :=
  let named := if address.host = "" then [] else [("host", address.hostAndPort)]
  let typed := if content.isSome then [("content-type", "application/json")] else []
  { method := Text.upper method
    address
    headers := named ++ [("accept", "application/json")] ++ typed
    body := content }

/-- Set the header that carries the credentials, if there are any. Those of the connection come before those of
the address. -/
def withCredentials (c : Client σ) (r : HttpRequest) : HttpRequest :=
  let found := c.connection.credentials?.or r.address.credentials?
  match found.bind fun (user, password) => basicCredentials? user password with
  | some text => { r with headers := r.headers.set "authorization" text }
  | none => r

/-- How many redirects are followed. -/
def maxRedirects : Nat := 20

/-- Send a request and follow redirects. -/
def exchange (peer : Peer σ) : Nat → HttpRequest → Link σ → Delivery × Link σ
  | 0, _, link =>
      (.failure ⟨"TooManyRedirects", "Exceeded maximum allowed redirects."⟩, link)
  | hops + 1, request, link =>
      let (delivery, state) := peer request link.peer
      let link := { link with peer := state }.note (.sent request)
      match delivery with
      | .response r =>
          -- cookies are taken up before a redirect is followed
          let cookies := link.cookies.accept request.address (r.headers.all "set-cookie")
          let link := { link with cookies }
          match r.redirect? with
          | none => (.response r, link)
          | some location =>
              match request.address.redirect location with
              | .error fault => (.ofRedirectFault fault, link)
              | .ok address =>
                  exchange peer hops (withCookies link.cookies (request.redirected r.status address)) link
      | other => (other, link)

/-- Make one attempt. A closed client sends nothing. -/
def attempt (c : Client σ) (inquiry : Inquiry) (content : Option String) : Task (Link σ) Attempt := do
  let address ← (c.address inquiry.path inquiry.parameters).mapError AddressFault.error
  let _ ← address.hostName.mapError Error.badHostName
  let link ← get
  let request := withCookies link.cookies (requestTo address inquiry.method content)
  if link.closed then
    -- the trace tells of the attempt although nothing is sent
    set (link.trace c.sink (Trace.ofAttempt request none))
    throw .badState
  else
    let request := c.withCredentials request
    let (delivery, link) := exchange c.peer (maxRedirects + 1) request link
    set (link.trace c.sink (Trace.ofAttempt request (some delivery)))
    match delivery with
    | .response r => pure (.answered r)
    | .failure f => pure (.failed f)
    | .breakdown e => throw e

/-! ## Retries -/

/-- The wait before the first retry, in seconds. -/
def firstWait (c : Client σ) : Float := nearestFloat false c.connection.retryInterval.toNat 1000

/-- Make attempts until one succeeds, one fails for good, or none is left; between them the client waits,
each time longer by the factor. -/
def retrying (c : Client σ) (inquiry : Inquiry) (content : Option String) :
    Nat → Nat → Float → Task (Link σ) Reply
  | left, retries, wait => do
      let outcome ← c.attempt inquiry content
      match outcome with
      | .answered r =>
          if isSuccess r.status then return ⟨r.status, ← Attempt.text r, retries⟩
      | .failed _ => pure ()
      match left with
      -- the last attempt is given up without a wait
      | 0 => giveUp inquiry outcome retries
      | left + 1 =>
          if outcome.isTransient then do
            modify fun link =>
              (link.log .client .warning ("retrying " ++ inquiry.method ++ " " ++ inquiry.path ++
                " after status " ++ toString outcome.status)).note (.waited wait)
            retrying c inquiry content left (retries + 1) (wait * c.connection.backoffFactor)
          else giveUp inquiry outcome retries
where
  /-- Give a request up after its last attempt. -/
  giveUp (inquiry : Inquiry) (outcome : Attempt) (retries : Nat) : Except Error Reply := do
    throw (.requestFailed
      ⟨inquiry.method, inquiry.path, inquiry.context, ← outcome.report, retries⟩)

/-- The text of a body; `null` is no body, and values that cannot be sent are refused. -/
def bodyText : Option Value → Except Error (Option String)
  | none | some .null => .ok none
  | some v =>
      match v.toJson? with
      | some j => .ok (some (j.render .spaced))
      | none => .error .refusedType

/-- Answer an inquiry. -/
def request (c : Client σ) (inquiry : Inquiry) : Task (Link σ) Reply := do
  let content ← bodyText inquiry.body
  if tooLong ≤ c.connection.retryInterval then throw .outOfRange
  c.retrying inquiry content (if inquiry.retry then c.connection.maxRetries.toNat else 0) 0 c.firstWait

/-- Close the connection for good. -/
def close (_ : Client σ) (link : Link σ) : Link σ := { link with closed := true }

end Client

end SearchTables
