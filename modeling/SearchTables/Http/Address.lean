import SearchTables.Http.DomainName
import SearchTables.Http.Escape
import SearchTables.Http.InternetAddress
import SearchTables.Http.Reference
import SearchTables.Decimal.Numeral
import SearchTables.Text.FullCase
import SearchTables.Text.Quoted

/-! # Addresses

`scheme://user@host:port/path?query#fragment`, every part of which but the path may be missing. A part is
kept with its escapes. The path of an address with a scheme or a host is **normal**: it has no segments `.`
and `..`. -/

namespace SearchTables

/-- An address. -/
structure Address where
  scheme : String
  user : String
  host : String
  /-- The port, unless it is the usual one of the scheme. -/
  port : Option Int
  path : String
  query : Option String
  fragment : Option String
deriving DecidableEq, Repr, Inhabited

/-- What is wrong with an address. -/
inductive AddressFault where
  | tooLong
  | control (code : Nat) (position : Nat)
  | badPort (port : String)
  | badDomain (host : String)
  | badShortAddress (host : String)
  | badLongAddress (host : String)
  | pathNotRooted
  | doubleSlash
  | leadingColon
  /-- A text in it has no bytes. -/
  | notEncodable
deriving DecidableEq, Repr

/-- The fault in words. -/
def AddressFault.message : AddressFault → String
  | .tooLong => "URL too long"
  | .control code position =>
      "Invalid non-printable ASCII character in URL, " ++ Text.quoted (Text.ofCodePoints [code]) ++
        " at position " ++ toString position ++ "."
  | .badPort port => "Invalid port: " ++ Text.quoted port
  | .badDomain host => "Invalid IDNA hostname: " ++ Text.quoted host
  | .badShortAddress host => "Invalid IPv4 address: " ++ Text.quoted host
  | .badLongAddress host => "Invalid IPv6 address: " ++ Text.quoted host
  | .pathNotRooted => "For absolute URLs, path must be empty or begin with '/'"
  | .doubleSlash => "Relative URLs cannot have a path starting with '//'"
  | .leadingColon => "Relative URLs cannot have a path starting with ':'"
  | .notEncodable => ""

namespace Address

/-- The longest address, and the longest part of one. -/
def maxLength : Nat := 65536

/-! ## Text -/

/-- A host, in brackets if it has colons. -/
def hostText (host : String) : String :=
  if host.toList.contains ':' then "[" ++ host ++ "]" else host

/-- Host and port. -/
def hostAndPort (a : Address) : String :=
  hostText a.host ++ (match a.port with
    | some port => ":" ++ toString port
    | none => "")

/-- User, host and port. -/
def authority (a : Address) : String :=
  (if a.user = "" then "" else a.user ++ "@") ++ a.hostAndPort

/-- Path and query as they are asked for: an empty path is the root. -/
def target (a : Address) : String :=
  (if a.path = "" then "/" else a.path) ++ (match a.query with
    | some query => "?" ++ query
    | none => "")

/-- The whole address. -/
def text (a : Address) : String :=
  (if a.scheme = "" then "" else a.scheme ++ ":") ++
    (if a.authority = "" then "" else "//" ++ a.authority) ++ a.path ++
    (match a.query with
      | some query => "?" ++ query
      | none => "") ++
    (match a.fragment with
      | some fragment => "#" ++ fragment
      | none => "")

/-! ## Normal paths -/

/-- Take a segment up after those before it, the last one first: `.` is left out and `..` removes a segment,
though never the empty one at the start. -/
def addSegment (found : List (List Char)) (segment : List Char) : List (List Char) :=
  if segment = ['.'] then found
  else if segment = ['.', '.'] then if found = [[]] then found else found.drop 1
  else segment :: found

/-- A path without the segments `.` and `..`. -/
def normalPath (cs : List Char) : List Char :=
  Text.joinBy '/' ((Text.cutAt '/' cs).foldl addSegment []).reverse

/-! ## Reading parts -/

/-- The parts of an address before they are checked. -/
structure Parts where
  scheme : List Char
  authority : List Char
  path : List Char
  query : Option (List Char)
  fragment : Option (List Char)
  /-- A host in place of the one in the authority. -/
  host : Option (List Char) := none

/-- A part with its escapes. -/
def escaped (allowed : Char → Bool) (cs : List Char) : Except AddressFault String :=
  let codes := Text.codesOf cs
  if codes.any Text.isHalf then .error .notEncodable
  else .ok (String.ofList (Http.escapeRest allowed 0 codes))

/-- The usual port of a scheme. -/
def usualPort? (scheme : String) : Option Int :=
  if scheme = "http" ∨ scheme = "ws" then some 80
  else if scheme = "https" ∨ scheme = "wss" then some 443
  else if scheme = "ftp" then some 21
  else none

/-- Read a port; the usual one of the scheme, as it is written, is left out. -/
def readPort (scheme : String) (cs : List Char) : Except AddressFault (Option Int) :=
  if cs.isEmpty then .ok none
  else
    match readWhole? false cs with
    | some port => .ok (if usualPort? scheme = some port then none else some port)
    | none => .error (.badPort (String.ofList cs))

/-- Whether a text is in brackets. -/
def isBracketed (cs : List Char) : Bool := cs.head? == some '[' && cs.getLast? == some ']' && 2 ≤ cs.length

/-- Read a host: an internet address as it is, a name in lower case and in ASCII. -/
def readHost (cs : List Char) : Except AddressFault String :=
  let host := String.ofList cs
  if Http.looksShort cs then
    if Http.isShortAddress cs then .ok host else .error (.badShortAddress host)
  else if isBracketed cs then
    let inside := (cs.drop 1).dropLast
    if Http.isLongAddress inside then .ok (String.ofList inside) else .error (.badLongAddress host)
  else if cs.all fun c => c.toNat < 0x80 then escaped Http.isHostChar (cs.map Char.toLower)
  else
    match DomainName.write (Text.codePoints (Text.lower host)) with
    | .ok name => .ok (String.ofList name)
    | .error _ => .error (.badDomain host)

/-- What stands before the last mark `@`, and what after it. -/
def splitUser (cs : List Char) : List Char × List Char :=
  if cs.contains '@' then
    let after := (cs.reverse.takeWhile (· ≠ '@')).reverse
    (cs.take (cs.length - after.length - 1), after)
  else ([], cs)

/-- A host in brackets at the start of a text; the last bracket closes it. -/
def splitBrackets? (cs : List Char) : Option (List Char × List Char) :=
  if cs.head? == some '[' && cs.contains ']' then
    let after := (cs.reverse.takeWhile (· ≠ ']')).reverse
    some (cs.take (cs.length - after.length), after)
  else none

/-- Host and port; a host in brackets may have colons. -/
def splitHost (cs : List Char) : List Char × List Char :=
  let (host, rest) :=
    (splitBrackets? cs).getD (cs.takeWhile (· ≠ ':'), cs.dropWhile (· ≠ ':'))
  match rest with
  | ':' :: port => (host, port)
  | port => (host, port)

/-- Check that a path fits what stands before it. -/
def checkPath (hasScheme hasAuthority : Bool) (path : List Char) : Except AddressFault Unit :=
  if hasAuthority then
    if path.isEmpty || path.head? = some '/' then .ok () else .error .pathNotRooted
  else if hasScheme then .ok ()
  else if ['/', '/'].isPrefixOf path then .error .doubleSlash
  else if path.head? = some ':' then .error .leadingColon
  else .ok ()

/-- The address that parts make. -/
def ofParts (p : Parts) : Except AddressFault Address := do
  let (user, hostAndPort) := splitUser p.authority
  let (host, port) := splitHost hostAndPort
  let user ← escaped Http.isUserChar user
  let host ← readHost (p.host.getD host)
  let port ← readPort (String.ofList p.scheme) port
  let scheme := Text.lowerAscii (String.ofList p.scheme)
  let hasAuthority := user != "" || host != "" || port.isSome
  checkPath (scheme != "") hasAuthority p.path
  let path := if scheme != "" || hasAuthority then normalPath p.path else p.path
  let path ← escaped Http.isPathChar path
  let query ← p.query.mapM (escaped Http.isQueryChar)
  let fragment ← p.fragment.mapM (escaped Http.isFragmentChar)
  pure { scheme, user, host, port, path, query, fragment }

/-! ## Reading texts -/

/-- A scheme and its colon at the start of a text; the colon may stand alone. -/
def splitScheme (cs : List Char) : List Char × List Char :=
  let scheme := cs.takeWhile Http.Reference.isSchemeChar
  match scheme.isEmpty || cs.head?.any Char.isAlpha, cs.drop scheme.length with
  | true, ':' :: rest => (scheme, rest)
  | _, _ => ([], cs)

/-- The parts of a text. -/
def split (cs : List Char) : Parts :=
  let (scheme, rest) := splitScheme cs
  let (authority, rest) := Http.Reference.splitAuthority rest
  let (rest, fragment) := Text.cutOnce '#' rest
  let (path, query) := Text.cutOnce '?' rest
  { scheme, authority, path, query, fragment }

/-- The first control character of a text with its position. -/
def findControl? (position : Nat) : List Nat → Option (Nat × Nat)
  | [] => none
  | n :: rest => if n < 0x20 ∨ n = 0x7f then some (n, position) else findControl? (position + 1) rest

/-- Check that a text may be an address or a part of one. -/
def checkText (cs : List Char) : Except AddressFault Unit :=
  let codes := Text.codesOf cs
  if maxLength < codes.length then .error .tooLong
  else
    match findControl? 0 codes with
    | some (code, position) => .error (.control code position)
    | none => .ok ()

/-- Read a text as an address. -/
def read (s : String) : Except AddressFault Address := do
  checkText s.toList
  ofParts (split s.toList)

/-! ## Derived addresses -/

/-- The parts of an address. -/
def parts (a : Address) : Parts :=
  { scheme := a.scheme.toList
    authority := a.authority.toList
    path := a.path.toList
    query := a.query.map String.toList
    fragment := a.fragment.map String.toList }

/-- The address that changed parts make; every part is checked on its own. -/
def revise (p : Parts) : Except AddressFault Address := do
  checkText p.scheme
  checkText p.authority
  checkText p.path
  checkText (p.query.getD [])
  checkText (p.fragment.getD [])
  checkText (p.host.getD [])
  ofParts p

/-- Whether an address says where to go. -/
def isAbsolute (a : Address) : Bool := a.scheme != "" && a.host != ""

/-- The same address with another query. -/
def withQuery (a : Address) (query : Option String) : Except AddressFault Address :=
  revise { a.parts with query := query.map String.toList }

/-- The same address with another path and query, given as one text. -/
def withTarget (a : Address) (target : String) : Except AddressFault Address :=
  let (path, query) := Text.cutOnce '?' target.toList
  revise { a.parts with path, query }

/-- The same address with a slash at the end of its target. -/
def closed (a : Address) : Except AddressFault Address :=
  if a.target.endsWith "/" then .ok a else a.withTarget (a.target ++ "/")

/-- An address beneath a base: its target is appended to that of the base, unless it says where to go
itself. -/
def beneath (base a : Address) : Except AddressFault Address :=
  if a.isAbsolute then .ok a
  else base.withTarget (base.target ++ String.ofList (a.target.toList.dropWhile (· = '/')))

/-- The name of the host, in its own characters. -/
def hostName (a : Address) : Except DomainFault String :=
  let host := a.host.toList
  if DomainName.asciiMark.isPrefixOf host then (DomainName.read host).map Text.ofCodePoints
  else .ok a.host

/-- The user and the password in an address, if one of them is there. -/
def credentials? (a : Address) : Option (String × String) :=
  let (user, password) := Text.cutOnce ':' a.user.toList
  let user := Http.unescape (String.ofList user)
  let password := Http.unescape (String.ofList (password.getD []))
  if user = "" ∧ password = "" then none else some (user, password)

/-! ## Redirects -/

/-- What is wrong with where a redirect leads. -/
inductive RedirectFault where
  /-- The location is no address. -/
  | location (fault : AddressFault)
  /-- The location leads to no address. -/
  | target (fault : AddressFault)
  /-- The host has no name. -/
  | host (fault : DomainFault)
deriving DecidableEq, Repr

/-- A step after the location was read. -/
def RedirectFault.ofTarget {α : Type} : Except AddressFault α → Except RedirectFault α :=
  Except.mapError RedirectFault.target

/-- The name of a host in the course of a redirect. -/
def redirectHost (a : Address) : Except RedirectFault String := a.hostName.mapError RedirectFault.host

/-- The address that a location leads to from an address: an absolute one as it is, on the same host if it
names none, any other one relative to where it was found. The fragment stays unless the location has one, and
the host must have a name. -/
def redirect (base : Address) (location : String) : Except RedirectFault Address := do
  let a ← (read location).mapError RedirectFault.location
  let a ←
    if a.scheme != "" then do
      let own ← redirectHost a
      if own = "" then do
        let host ← redirectHost base
        let host := hostText host
        RedirectFault.ofTarget (revise { a.parts with host := some host.toList })
      else pure a
    else pure a
  let a ←
    if a.isAbsolute then pure a
    else
      RedirectFault.ofTarget
        (read (String.ofList (Http.Reference.resolve base.text.toList a.text.toList)))
  let a ←
    match Http.unescape (base.fragment.getD ""), a.fragment.getD "" with
    | "", _ => pure a
    | fragment, "" => RedirectFault.ofTarget (revise { a.parts with fragment := some fragment.toList })
    | _, _ => pure a
  let _ ← redirectHost a
  pure a

/-- The port that is spoken to. -/
def effectivePort (a : Address) : Option Int :=
  a.port.or (if a.scheme = "http" then some 80 else if a.scheme = "https" then some 443 else none)

/-- Whether two addresses lie at one origin: scheme, host and port. -/
def sameOrigin (a b : Address) : Bool :=
  a.scheme == b.scheme && a.host == b.host && a.effectivePort == b.effectivePort

/-- Whether an address only moves from the plain to the secure port of one host. -/
def isUpgrade (a b : Address) : Bool :=
  a.host == b.host && a.scheme == "http" && a.effectivePort == some 80 && b.scheme == "https" &&
    b.effectivePort == some 443

end Address

end SearchTables
