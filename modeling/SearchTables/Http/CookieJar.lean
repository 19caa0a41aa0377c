import SearchTables.Http.Cookie
import SearchTables.Json.Basic

/-! # Jars of cookies

A **jar** holds the cookies that responses asked to keep, at most one at each place. Domains, paths and names
stay in the order in which they first came, also when their last cookie is forgotten. -/

namespace SearchTables

/-- Cookies by domain, path and name. -/
structure CookieJar where
  domains : List (String × List (String × List (String × Cookie))) := []
deriving Repr, Inhabited

namespace CookieJar

/-- The cookies in order. -/
def cookies (jar : CookieJar) : List Cookie :=
  jar.domains.flatMap fun (_, paths) => paths.flatMap fun (_, names) => names.map (·.2)

/-- Keep a cookie, in place of the one at its place. -/
def keep (jar : CookieJar) (c : Cookie) : CookieJar :=
  let paths := (jar.domains.lookup c.place.domain).getD []
  let names := (paths.lookup c.place.path).getD []
  let paths := insertMember c.place.path (insertMember c.place.name c names) paths
  ⟨insertMember c.place.domain paths jar.domains⟩

/-- Forget the cookie at a place. -/
def forget (jar : CookieJar) (place : CookiePlace) : CookieJar :=
  let inNames (names : List (String × Cookie)) := names.filter fun (name, _) => name != place.name
  let inPaths (paths : List (String × List (String × Cookie))) :=
    paths.map fun (path, names) => (path, if path = place.path then inNames names else names)
  ⟨jar.domains.map fun (domain, paths) => (domain, if domain = place.domain then inPaths paths else paths)⟩

/-- Follow the orders of a response: places are forgotten before cookies are kept. A fault of the whole response
leaves only what was forgotten before it. -/
def follow (jar : CookieJar) (orders : List (Except CookieFault CookieOrder)) : CookieJar :=
  let sound := orders.takeWhile fun
    | .error .response => false
    | _ => true
  let jar := sound.foldl (fun jar order =>
    match order with
    | .ok (.forget place) => jar.forget place
    | _ => jar) jar
  if sound.length < orders.length then jar
  else
    orders.foldl (fun jar order =>
      match order with
      | .ok (.keep c) => jar.keep c
      | _ => jar) jar

/-- The headers that ask for cookies with their attributes, apart from those that are void. -/
def readAll (headers : List CookieHeader) : Except CookieFault (List (CookieHeader × CookieAttributes)) := do
  if headers.any (·.lacksMonth) then throw .response
  let found ← headers.mapM fun h =>
    match CookieAttributes.ofList h.attributes with
    | .ok a => pure (some (h, a))
    | .error .cookie => pure none
    | .error .response => throw .response
  pure (found.filterMap id)

/-- Take up the cookies that the response from an address asks for. -/
def accept (jar : CookieJar) (address : Address) (headers : List String) : CookieJar :=
  match readAll (headers.filterMap CookieHeader.read?) with
  | .error _ => jar
  | .ok found => jar.follow (found.map fun (h, a) => h.order a (CookieSite.ofAddress address))

/-- The header that sends cookies to an address, those of longer paths first. -/
def header? (jar : CookieJar) (address : Address) : Option String :=
  let site := CookieSite.ofAddress address
  let found := jar.cookies.filter site.receives
  match found.mergeSort fun a b => b.place.path.length ≤ a.place.path.length with
  | [] => none
  | found => some ("; ".intercalate (found.map Cookie.text))

/-- An empty jar sends nothing. -/
theorem header?_empty (address : Address) : header? {} address = none := by
  simp [header?, cookies]

end CookieJar

end SearchTables
