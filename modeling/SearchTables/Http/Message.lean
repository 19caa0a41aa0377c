import SearchTables.Http.Address
import SearchTables.Http.ContentCoding
import SearchTables.Http.MediaType
import SearchTables.Error

/-! # Requests and responses

A request is sent to a **peer**, which answers with a response, with a failure below the protocol, or not at
all in the sense of the protocol. Names of headers are in lower case, and a header may come several times. -/

namespace SearchTables

/-- Headers by name. -/
abbrev Headers := List (String × String)

/-- The values of the headers of a name. -/
def Headers.all (headers : Headers) (name : String) : List String :=
  (headers.filter (·.1 == name)).map (·.2)

/-- The header of a name; several are one, with commas between them. -/
def Headers.get? (headers : Headers) (name : String) : Option String :=
  match headers.all name with
  | [] => none
  | found => some (", ".intercalate found)

/-- Headers with each name once. -/
def Headers.joined (headers : Headers) : Headers :=
  (headers.map (·.1)).eraseDups.map fun name => (name, (headers.get? name).getD "")

/-- Leave a header out. -/
def Headers.without (headers : Headers) (name : String) : Headers := headers.filter (·.1 != name)

/-- Set a header. -/
def Headers.set (headers : Headers) (name value : String) : Headers := insertMember name value headers

/-- What a fault of an address comes to. -/
def AddressFault.error : AddressFault → Error
  | .notEncodable => .notEncodable
  | _ => .badUrl

/-- A request on its way. -/
structure HttpRequest where
  method : String
  address : Address
  headers : Headers
  body : Option String
deriving DecidableEq, Repr, Inhabited

/-- A response as it arrives, with the bytes of its body. -/
structure HttpResponse where
  status : Nat
  headers : Headers
  body : List Nat
deriving DecidableEq, Repr, Inhabited

/-- A failure below the protocol. -/
structure NetworkFailure where
  name : String
  message : String
deriving DecidableEq, Repr, Inhabited

/-- What comes of a request. -/
inductive Delivery where
  | response (response : HttpResponse)
  | failure (failure : NetworkFailure)
  /-- The exchange broke down in a way that is no failure of the network. -/
  | breakdown (error : Error)
deriving Inhabited

/-- What comes of a response that a peer sends with a text as its body, bytes in the codings that its headers
list. Headers have ASCII characters only, and a text has bytes only without halves; a header without a value
is no header. -/
def Delivery.ofText (status : Nat) (headers : List (String × Option String)) (text : String) : Delivery :=
  let isAscii (s : String) : Bool := s.toList.all (·.toNat < 0x80)
  let fault? : String × Option String → Option Error
    | (name, some value) => if isAscii name && isAscii value then none else some .notEncodable
    | (name, none) => some (if isAscii name then .refusedType else .notEncodable)
  match Text.utf8? text, headers.findSome? fault? with
  | none, _ => .breakdown .notEncodable
  | _, some e => .breakdown e
  | some bytes, none =>
      let headers := headers.map fun (name, value) => (Text.lowerAscii name, value.getD "")
      match Http.ContentCoding.decodeBody (Headers.get? headers "content-encoding") bytes with
      | .ok body => .response ⟨status, headers, body⟩
      | .error fault =>
          .failure ⟨"DecodingError", "Error -3 while decompressing data: " ++ fault.message⟩

/-- A peer with a state of its own. -/
abbrev Peer (σ : Type) := HttpRequest → σ → Delivery × σ

/-- The text of a body, in the character set that the headers give. -/
def HttpResponse.text? (r : HttpResponse) : Option String :=
  if r.body.isEmpty then some ""
  else
    ((Http.MediaType.charset (r.headers.get? "content-type")).decode? r.body).map Text.ofCodePoints

/-- The phrases of the statuses. -/
def reasonPhrases : List (Nat × String) := [
  (100, "Continue"), (101, "Switching Protocols"), (102, "Processing"), (103, "Early Hints"),
  (200, "OK"), (201, "Created"), (202, "Accepted"), (203, "Non-Authoritative Information"),
  (204, "No Content"), (205, "Reset Content"), (206, "Partial Content"), (207, "Multi-Status"),
  (208, "Already Reported"), (226, "IM Used"),
  (300, "Multiple Choices"), (301, "Moved Permanently"), (302, "Found"), (303, "See Other"),
  (304, "Not Modified"), (305, "Use Proxy"), (307, "Temporary Redirect"), (308, "Permanent Redirect"),
  (400, "Bad Request"), (401, "Unauthorized"), (402, "Payment Required"), (403, "Forbidden"),
  (404, "Not Found"), (405, "Method Not Allowed"), (406, "Not Acceptable"),
  (407, "Proxy Authentication Required"), (408, "Request Timeout"), (409, "Conflict"), (410, "Gone"),
  (411, "Length Required"), (412, "Precondition Failed"), (413, "Request Entity Too Large"),
  (414, "Request-URI Too Long"), (415, "Unsupported Media Type"),
  (416, "Requested Range Not Satisfiable"), (417, "Expectation Failed"), (418, "I'm a teapot"),
  (421, "Misdirected Request"), (422, "Unprocessable Entity"), (423, "Locked"),
  (424, "Failed Dependency"), (425, "Too Early"), (426, "Upgrade Required"),
  (428, "Precondition Required"), (429, "Too Many Requests"),
  (431, "Request Header Fields Too Large"), (451, "Unavailable For Legal Reasons"),
  (500, "Internal Server Error"), (501, "Not Implemented"), (502, "Bad Gateway"),
  (503, "Service Unavailable"), (504, "Gateway Timeout"), (505, "HTTP Version Not Supported"),
  (506, "Variant Also Negotiates"), (507, "Insufficient Storage"), (508, "Loop Detected"),
  (510, "Not Extended"), (511, "Network Authentication Required")]

/-- The phrase of a status; empty for an unknown one. -/
def reasonPhrase (status : Nat) : String := (reasonPhrases.lookup status).getD ""

/-- Whether a status reports success. -/
def isSuccess (status : Nat) : Bool := 200 ≤ status && status < 300

/-- Statuses that may pass: the request is worth another attempt. -/
def transientStatuses : List Nat := [429, 500, 502, 503, 504]

/-! ## Credentials -/

/-- The digits of base 64. -/
def base64Digits : List Char :=
  "ABCDEFGHIJKLMNOPQRSTUVWXYZabcdefghijklmnopqrstuvwxyz0123456789+/".toList

/-- One digit of base 64. -/
def base64Digit (n : Nat) : Char := (base64Digits[n % 64]?).getD 'A'

/-- Bytes in base 64, padded to a multiple of four digits. -/
def base64 : List Nat → List Char
  | [] => []
  | [a] => [base64Digit (a / 4), base64Digit (a % 4 * 16), '=', '=']
  | [a, b] => [base64Digit (a / 4), base64Digit (a % 4 * 16 + b / 16), base64Digit (b % 16 * 4), '=']
  | a :: b :: c :: rest =>
      base64Digit (a / 4) :: base64Digit (a % 4 * 16 + b / 16) :: base64Digit (b % 16 * 4 + c / 64) ::
        base64Digit c :: base64 rest

/-- The header that carries a user and a password; texts that have no bytes are refused. -/
def basicCredentials? (user password : String) : Option String :=
  (Text.utf8? (user ++ ":" ++ password)).map fun bytes => "Basic " ++ String.ofList (base64 bytes)

/-! ## Redirects -/

/-- The statuses that send a request elsewhere. -/
def redirectStatuses : List Nat := [301, 302, 303, 307, 308]

/-- Where a response sends its request, if anywhere. -/
def HttpResponse.redirect? (r : HttpResponse) : Option String :=
  if redirectStatuses.contains r.status then r.headers.get? "location" else none

/-- What a redirect that leads nowhere comes to. -/
def Delivery.ofRedirectFault : Address.RedirectFault → Delivery
  | .location fault =>
      .failure ⟨"RemoteProtocolError", "Invalid URL in location header: " ++ fault.message ++ "."⟩
  | .target fault => .breakdown fault.error
  | .host fault => .breakdown (.badHostName fault)

/-- The method after a redirect: `303` and `302` turn all but `HEAD` into `GET`, and `301` only `POST`. -/
def redirectMethod (status : Nat) (method : String) : String :=
  if (status = 303 ∨ status = 302) ∧ method ≠ "HEAD" then "GET"
  else if status = 301 ∧ method = "POST" then "GET"
  else method

/-- The request that a redirect asks for, apart from cookies. Credentials stay with their origin, and the
body is dropped when the method becomes `GET`. -/
def HttpRequest.redirected (r : HttpRequest) (status : Nat) (address : Address) : HttpRequest :=
  let method := redirectMethod status r.method
  let headers := Headers.without r.headers "cookie"
  let headers :=
    if r.address.sameOrigin address then headers
    else
      let headers :=
        if r.address.isUpgrade address then headers else Headers.without headers "authorization"
      Headers.set headers "host" address.hostAndPort
  { method, address, headers
    body := if method ≠ r.method ∧ method = "GET" then none else r.body }

end SearchTables
