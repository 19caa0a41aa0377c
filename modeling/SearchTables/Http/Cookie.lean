import SearchTables.Calendar.WebDate
import SearchTables.Http.Address

/-! # Cookies

A response may ask for cookies to be kept, which later requests send back. A **cookie** belongs to a place,
which is a domain, a path and a name. It goes to the hosts of its domain, to the paths at or beneath its own
one, and if it says so only to some ports or to secure addresses.

The header that asks for a cookie has a name, which may have a value, and **attributes**. Of an attribute that
comes several times the first one counts, but for the age, which also counts more than a date. -/

namespace SearchTables

/-- Where a cookie belongs. -/
structure CookiePlace where
  domain : String
  path : String
  name : String
deriving DecidableEq, Repr, Inhabited

/-- A cookie and where it goes. -/
structure Cookie where
  place : CookiePlace
  value : Option String
  /-- The ports it goes to, with commas between them; it goes to every port if they are missing or empty. -/
  ports : Option String
  version : Int
  secure : Bool
deriving DecidableEq, Repr, Inhabited

/-- Name and value. -/
def Cookie.text (c : Cookie) : String :=
  match c.value with
  | some value => c.place.name ++ "=" ++ value
  | none => c.place.name

/-- What a header asks for. -/
inductive CookieOrder where
  | keep (cookie : Cookie)
  | forget (place : CookiePlace)
deriving DecidableEq, Repr

/-- What a header that asks for no cookie makes void. -/
inductive CookieFault where
  /-- Its own cookie. -/
  | cookie
  /-- Every cookie of the response. -/
  | response
deriving DecidableEq, Repr

/-! ## Paths and hosts -/

/-- The marks that stand for themselves in the path of a cookie. -/
def cookiePathMarks : List Char := "%/;:@&=+$,!~*'()".toList

/-- Escapes with their digits in upper case. -/
def upperEscapes : List Char → List Char
  | '%' :: a :: b :: rest =>
      if (Text.hexDigit? a).isSome && (Text.hexDigit? b).isSome then
        '%' :: a.toUpper :: b.toUpper :: upperEscapes rest
      else '%' :: upperEscapes (a :: b :: rest)
  | c :: rest => c :: upperEscapes rest
  | [] => []

/-- The path of a cookie as it is compared. -/
def cookiePath (path : String) : String :=
  String.ofList
    (upperEscapes (Http.escapeUnless (fun c => Http.isUnreserved c || cookiePathMarks.contains c) path.toList))

/-- Whether a path lies at or beneath another one. -/
def liesBeneath (path outer : String) : Bool :=
  path == outer ||
    (outer.toList.isPrefixOf path.toList &&
      (outer.toList.getLast? == some '/' || (path.toList.drop outer.length).head? == some '/'))

/-- What stands before a port at the end of a text. -/
def dropPort (cs : List Char) : List Char :=
  let before := cs.reverse.dropWhile Char.isDigit
  match before with
  | ':' :: host => if before.length < cs.length then host.reverse else cs
  | _ => cs

/-- What cookies see of an address. -/
structure CookieSite where
  /-- What stands before the port, in lower case. -/
  host : String
  path : String
  /-- The port as it is written, unless it is no number. -/
  port : Option String
  secure : Bool
deriving DecidableEq, Repr, Inhabited

namespace CookieSite

/-- The port that an address without one has. -/
def usualPort : String := "80"

/-- What cookies see of an address. A colon that stands before the host hides the port. -/
def ofAddress (a : Address) : CookieSite :=
  let path := cookiePath a.path
  let (_, port) := Text.cutOnce ':' (Http.unescape a.authority).toList
  { host := Text.lowerAscii (String.ofList (dropPort a.authority.toList))
    path := if path.toList.head? = some '/' then path else "/" ++ path
    port :=
      match port with
      | none => some usualPort
      | some port => if (readWhole? false port).isSome then some (String.ofList port) else none
    secure := a.scheme == "https" || a.scheme == "wss" }

/-- The domain of a host; a host without dots is local. -/
def domain (s : CookieSite) : String := if s.host.toList.contains '.' then s.host else s.host ++ ".local"

/-- The path of the cookies that do not give one: what stands before the last slash, and with other versions
than the first one also the slash. -/
def directory (s : CookieSite) (version : Int) : String :=
  let above := s.path.toList.reverse.dropWhile (· ≠ '/')
  let above := (if version = 0 then above.drop 1 else above).reverse
  if above.isEmpty then "/" else String.ofList above

/-- Whether a text ends with another one. -/
def ends (text tail : String) : Bool := tail.toList.isSuffixOf text.toList

/-- A domain with a dot before it. -/
def dotted (domain : String) : String :=
  if domain.toList.head? = some '.' ∨ domain = "" then domain else "." ++ domain

/-- Whether a host may set cookies of a domain that they give: the host belongs to the domain, and the domain
has a dot within it or is local. -/
def admitsDomain (s : CookieSite) (version : Int) (domain : String) : Bool :=
  let bare := String.ofList (domain.toList.drop 1)
  (bare.toList.contains '.' || ends s.domain ".local") &&
    (version != 0 || ends s.domain domain || ends s.domain (bare ++ ".local") ||
      s.domain.toList.head? == some '.' || ends ("." ++ s.domain) domain)

/-- Whether a port is one of several, which are numbers as far as they are looked at. -/
def admitsPort (port : String) : List (List Char) → Bool
  | [] => false
  | p :: rest => (readWhole? false p).isSome && (String.ofList p == port || admitsPort port rest)

/-- Whether a host may set cookies for ports that they give. -/
def admitsPorts (s : CookieSite) (ports : String) : Bool :=
  admitsPort (s.port.getD usualPort) (Text.cutAt ',' ports.toList)

/-- Whether a cookie goes to the port of an address. -/
def isOneOf (s : CookieSite) (ports : Option String) : Bool :=
  match ports with
  | none => true
  | some ports =>
      ports == "" || (Text.cutAt ',' ports.toList).contains (s.port.getD usualPort).toList

/-- Whether an address belongs to the domain of a cookie. -/
def isWithin (s : CookieSite) (c : Cookie) : Bool :=
  let domain := dotted c.place.domain
  (ends (dotted s.host) domain || ends (dotted s.domain) domain) &&
    (c.version != 0 || ends ("." ++ s.domain) domain)

/-- Whether a cookie is sent to an address. -/
def receives (s : CookieSite) (c : Cookie) : Bool :=
  s.isWithin c && liesBeneath s.path c.place.path && (!c.secure || s.secure) && s.isOneOf c.ports

end CookieSite

/-! ## Headers -/

/-- The first moment that no cookie may give: doubles do not reach it. -/
def cookieEnd : Int := Nat.pow 2 1024 - Nat.pow 2 970

/-- The attributes of a cookie. -/
structure CookieAttributes where
  domain : Option String := none
  path : Option String := none
  /-- The ports; without a value, that of the address. -/
  ports : Option (Option String) := none
  secure : Option Bool := none
  version : Option String := none
  /-- The moment from which the cookie is to be forgotten. -/
  expires : Option Int := none
deriving Repr, Inhabited

namespace CookieAttributes

/-- A text without the quotes around it. -/
def unquoted (s : String) : String :=
  let cs := s.toList
  let cs := if cs.head? = some '"' then cs.drop 1 else cs
  String.ofList (if cs.getLast? = some '"' then cs.dropLast else cs)

/-- The value of an attribute that must have one. -/
def required (value : Option String) : Except CookieFault String :=
  match value with
  | some v => .ok v
  | none => .error .cookie

/-- The first of several values. -/
def first {α : Type} (held : Option α) (value : Except CookieFault α) : Except CookieFault (Option α) :=
  match held with
  | some a => .ok (some a)
  | none => value.map some

/-- The date that an attribute gives. -/
def date (value : String) : Calendar.WebDate := Calendar.WebDate.read (unquoted value)

/-- Take up an attribute, whose name is in lower case. -/
def add (a : CookieAttributes) (name : String) (value : Option String) :
    Except CookieFault CookieAttributes := do
  match name with
  | "domain" => pure { a with domain := ← first a.domain ((required value).map Text.lowerAscii) }
  | "path" => pure { a with path := ← first a.path (required value) }
  | "port" => pure { a with ports := a.ports.or (some value) }
  | "secure" => pure { a with secure := a.secure.or (some (value != some "")) }
  | "version" => pure { a with version := ← first a.version ((required value).map unquoted) }
  | "expires" =>
      match a.expires, value.map date with
      | none, some (.moment t) => pure { a with expires := some t }
      | _, _ => pure a
  | "max-age" =>
      match value with
      | none => throw .response
      | some text =>
          match readWhole? false text.toList with
          | some age => pure { a with expires := some (Calendar.presentSeconds + age) }
          | none => throw .cookie
  | _ => pure a

/-- The attributes that names and values make. -/
def ofList (attributes : List (String × Option String)) : Except CookieFault CookieAttributes :=
  attributes.foldlM (fun a (name, value) => a.add name value) {}

end CookieAttributes

/-- A header that asks for a cookie. -/
structure CookieHeader where
  name : String
  value : Option String
  attributes : List (String × Option String)
deriving Repr, Inhabited

namespace CookieHeader

/-- A name with its value, if it has one. -/
def splitPair (part : List Char) : String × Option String :=
  let (name, value) := Text.cutOnce '=' part
  (Text.trim (String.ofList name), value.map fun v => Text.trim (String.ofList v))

/-- Read a header; without a name it asks for nothing. -/
def read? (header : String) : Option CookieHeader :=
  match (Text.cutAt ';' header.toList).map splitPair with
  | [] => none
  | (name, value) :: attributes =>
      if name = "" then none
      else
        some
          { name, value
            attributes :=
              (attributes.filter fun (n, _) => n != "").map fun (n, v) => (Text.lowerAscii n, v) }

/-- Whether a header gives a date in a month that there is not. -/
def lacksMonth (h : CookieHeader) : Bool :=
  h.attributes.any fun (name, value) =>
    name == "expires" && value.map CookieAttributes.date == some .noMonth

/-- What a header with some attributes asks for in answer to a request. -/
def order (h : CookieHeader) (a : CookieAttributes) (site : CookieSite) :
    Except CookieFault CookieOrder := do
  let version ←
    match readWhole? false (a.version.getD "0").toList with
    | some version => pure version
    | none => throw .cookie
  let path :=
    match a.path with
    | none | some "" => site.directory version
    | some path => cookiePath path
  let domain :=
    match a.domain with
    | none => site.domain
    | some domain => if domain.toList.head? = some '.' then domain else "." ++ domain
  let place : CookiePlace := ⟨domain, path, h.name⟩
  -- a cookie that has expired is forgotten instead of kept
  if a.expires.any (· ≤ Calendar.presentSeconds) then pure (.forget place)
  else if a.expires.any (cookieEnd ≤ ·) then throw .response
  else
    -- the first version counts as none
    let version := if version = 1 then 0 else version
    let (ports, admitted) :=
      match a.ports with
      | none => (none, true)
      | some none => (site.port, true)
      | some (some text) =>
          let ports := String.ofList (text.toList.filter fun c => !Text.isBlank c)
          (some ports, site.admitsPorts ports)
    if version ≤ 0 && admitted && (a.domain.isNone || site.admitsDomain version domain) then
      pure (.keep ⟨place, h.value, ports, version, a.secure.getD false⟩)
    else throw .cookie

end CookieHeader

end SearchTables
