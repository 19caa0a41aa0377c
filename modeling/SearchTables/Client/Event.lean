import SearchTables.Http.Message

/-! # What a client does

A client leaves a record of what it does besides answering: the requests it sends, the times it waits, traces
of its attempts, and log records. -/

namespace SearchTables

/-- How much a log record matters. -/
inductive LogLevel where
  | debug | info | warning
deriving DecidableEq, Repr, Inhabited

/-- The name of a level. -/
def LogLevel.name : LogLevel → String
  | .debug => "DEBUG"
  | .info => "INFO"
  | .warning => "WARNING"

/-- Which part of the library writes a log record. -/
inductive LogSource where
  | client | http | resolution | sampling | scan | session
deriving DecidableEq, Repr, Inhabited

/-- A log record. -/
structure LogRecord where
  source : LogSource
  level : LogLevel
  message : String
deriving DecidableEq, Repr, Inhabited

/-- A trace of one attempt: the request as it was first sent, and the response that came in the end or the
failure. -/
structure Trace where
  method : String
  url : String
  requestHeaders : Headers
  status : Option Nat
  reason : String
  responseHeaders : Option Headers
  error : Option String
deriving DecidableEq, Repr, Inhabited

/-- The headers whose values are secret. -/
def secretHeaders : List String := ["authorization", "cookie", "set-cookie"]

/-- What a trace shows in place of a secret. -/
def redactedText : String := "<redacted>"

/-- Headers without their secrets. -/
def redact (headers : Headers) : Headers :=
  headers.joined.map fun (name, value) =>
    (name, if secretHeaders.contains (Text.lowerAscii name) then redactedText else value)

/-- A failure of the network on one line. -/
def NetworkFailure.text (f : NetworkFailure) : String := f.name ++ ": " ++ f.message

namespace Trace

/-- The trace of an attempt. -/
def ofAttempt (request : HttpRequest) (outcome : Option Delivery) : Trace :=
  let base : Trace :=
    { method := request.method
      url := request.address.text
      requestHeaders := redact request.headers
      status := none
      reason := ""
      responseHeaders := none
      error := none }
  match outcome with
  | some (.response r) =>
      { base with
        status := some r.status
        reason := reasonPhrase r.status
        responseHeaders := some (redact r.headers) }
  | some (.failure f) => { base with error := some f.text }
  | _ => base

/-- What the log says of an attempt: the status, or the failure. -/
def outcomeText (t : Trace) : String :=
  match t.status, t.error with
  | some status, _ => toString status
  | none, some error => error
  | none, none => "None"

/-- The log record of an attempt. -/
def record (t : Trace) : LogRecord :=
  ⟨.http, .debug, t.method ++ " " ++ t.url ++ " -> " ++ t.outcomeText⟩

end Trace

/-- One thing that a client did. -/
inductive Event where
  | sent (request : HttpRequest)
  | waited (seconds : Float)
  | traced (trace : Trace)
  | logged (record : LogRecord)
deriving Inhabited

end SearchTables
