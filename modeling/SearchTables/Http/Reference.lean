import SearchTables.Text.Cut

/-! # References

A **reference** is the text of an address or of a part of one: `scheme://authority/path;parameters?query#fragment`,
where an empty part counts as a missing one. Taken relative to a base it leads to another address. -/

namespace SearchTables.Http

/-- The parts of a reference. -/
structure Reference where
  scheme : List Char
  authority : List Char
  path : List Char
  parameters : List Char
  query : List Char
  fragment : List Char
deriving DecidableEq, Repr, Inhabited

namespace Reference

/-- Whether a scheme may go on with a character. -/
def isSchemeChar (c : Char) : Bool := c.isAlphanum || c = '+' || c = '.' || c = '-'

/-- The scheme that a text starts with, in lower case, and what follows its colon. -/
def splitScheme (cs : List Char) : List Char × List Char :=
  let scheme := cs.takeWhile isSchemeChar
  match cs.head?.any Char.isAlpha, cs.drop scheme.length with
  | true, ':' :: rest => (scheme.map Char.toLower, rest)
  | _, _ => ([], cs)

/-- Two slashes and the authority after them. -/
def splitAuthority (cs : List Char) : List Char × List Char :=
  match cs with
  | '/' :: '/' :: rest =>
      let inside := fun c : Char => c ≠ '/' && c ≠ '?' && c ≠ '#'
      (rest.takeWhile inside, rest.dropWhile inside)
  | cs => ([], cs)

/-- The schemes that are written with an authority, and whose references are relative to one. -/
def relativeSchemes : List String := [
  "", "ftp", "http", "gopher", "nntp", "imap", "wais", "file", "https", "shttp", "mms", "prospero", "rtsp",
  "rtsps", "rtspu", "sftp", "svn", "svn+ssh", "ws", "wss"]

/-- The schemes that are written with an authority. -/
def authoritySchemes : List String :=
  relativeSchemes ++ ["telnet", "snews", "rsync", "nfs", "git", "git+ssh"]

/-- The schemes that have parameters. -/
def parameterSchemes : List String := [
  "", "ftp", "hdl", "prospero", "http", "imap", "https", "shttp", "rtsp", "rtsps", "rtspu", "sip", "sips",
  "mms", "sftp", "tel"]

/-- Whether a scheme is in a list. -/
def isAmong (schemes : List String) (scheme : List Char) : Bool := schemes.contains (String.ofList scheme)

/-- Split the parameters off a path: they follow the first semicolon of its last segment. -/
def splitParameters (path : List Char) : List Char × List Char :=
  let last := (path.reverse.takeWhile (· ≠ '/')).reverse
  let (name, parameters) := Text.cutOnce ';' last
  (path.take (path.length - last.length) ++ name, parameters.getD [])

/-- The reference that a text is, with a scheme for one that names none. -/
def read (scheme : List Char) (cs : List Char) : Reference :=
  let (own, rest) := splitScheme cs
  let scheme := if own.isEmpty then scheme else own
  let (authority, rest) := splitAuthority rest
  let (rest, fragment) := Text.cutOnce '#' rest
  let (path, query) := Text.cutOnce '?' rest
  let (path, parameters) :=
    if isAmong parameterSchemes scheme then splitParameters path else (path, [])
  ⟨scheme, authority, path, parameters, query.getD [], fragment.getD []⟩

/-- A mark and a part, unless the part is empty. -/
def marked (mark : Char) (part : List Char) : List Char := if part.isEmpty then [] else mark :: part

/-- Whether a reference is written with an authority, even with an empty one. -/
def showsAuthority (r : Reference) (path : List Char) : Bool :=
  !r.authority.isEmpty || (!r.scheme.isEmpty && isAmong authoritySchemes r.scheme) ||
    ['/', '/'].isPrefixOf path

/-- The text of a reference. -/
def text (r : Reference) : List Char :=
  let path := r.path ++ marked ';' r.parameters
  let rooted := if path.isEmpty || path.head? = some '/' then path else '/' :: path
  (if r.scheme.isEmpty then [] else r.scheme ++ [':']) ++
    (if r.showsAuthority path then "//".toList ++ r.authority ++ rooted else path) ++
    marked '?' r.query ++ marked '#' r.fragment

/-! ## Taking a reference relative to a base -/

/-- Segments without empty ones between the first and the last. -/
def dropEmptyInside : List (List Char) → List (List Char)
  | [] => []
  | first :: rest =>
      match rest.getLast? with
      | none => [first]
      | some last => first :: rest.dropLast.filter (!List.isEmpty ·) ++ [last]

/-- Take a segment up after those before it, in reverse: `..` removes one and `.` is left out. -/
def climb (found : List (List Char)) (segment : List Char) : List (List Char) :=
  if segment = ['.', '.'] then found.drop 1
  else if segment = ['.'] then found
  else segment :: found

/-- The path that a path leads to from the one of the base. -/
def resolvePath (base path : List Char) : List Char :=
  let segments :=
    if path.head? = some '/' then Text.cutAt '/' path
    else
      let directory := Text.cutAt '/' base
      let directory := if directory.getLast? = some [] then directory else directory.dropLast
      dropEmptyInside (directory ++ Text.cutAt '/' path)
  let found := (segments.foldl climb []).reverse
  let found :=
    match segments.getLast? with
    | some last => if last = ['.'] ∨ last = ['.', '.'] then found ++ [[]] else found
    | none => found
  let path := Text.joinBy '/' found
  if path.isEmpty then ['/'] else path

/-- The text that a reference leads to from a base. -/
def resolve (base reference : List Char) : List Char :=
  if base.isEmpty then reference
  else if reference.isEmpty then base
  else
    let start := read [] base
    let goal := read start.scheme reference
    if goal.scheme ≠ start.scheme ∨ !isAmong relativeSchemes goal.scheme then reference
    else if !goal.authority.isEmpty then goal.text
    else if goal.path.isEmpty && goal.parameters.isEmpty then
      text
        { start with
          query := if goal.query.isEmpty then start.query else goal.query
          fragment := goal.fragment }
    else
      text { goal with authority := start.authority, path := resolvePath start.path goal.path }

end Reference

end SearchTables.Http
