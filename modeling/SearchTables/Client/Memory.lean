import SearchTables.Http.Message
import SearchTables.Value
import SearchTables.Json.Printer
import SearchTables.Json.Reader

/-! # A cluster in memory

A peer that needs no network: it holds one set of mappings and one list of documents, and answers the
requests for a mapping and for scrolls. Every search matches every document. The pages of a scroll, one after
the other, are the documents in order. -/

namespace SearchTables

/-- A scroll that is under way: the documents that were not handed out yet, and the size of a page. -/
structure MemoryScroll where
  left : List Json
  size : Nat
deriving Inhabited

/-- A cluster in memory. -/
structure MemoryCluster where
  mappings : Json := .obj []
  documents : List Json := []
  scrolls : List (String × MemoryScroll) := []
  /-- How many scrolls were opened. -/
  opened : Nat := 0
deriving Inhabited

namespace MemoryScroll

/-- The next page, and the scroll after it. -/
def page (s : MemoryScroll) : List Json × MemoryScroll :=
  (s.left.take s.size, { s with left := s.left.drop s.size })

/-- A page and what is left after it are what was left before. -/
theorem page_append_left (s : MemoryScroll) : s.page.1 ++ s.page.2.left = s.left :=
  List.take_append_drop s.size s.left

end MemoryScroll

namespace MemoryCluster

/-- How many hits make a page when a search does not say. -/
def defaultPageSize : Nat := 10

/-- The value of a parameter in a query. -/
def parameter? (query name : String) : Option String :=
  (query.splitOn "&").findSome? fun part =>
    match part.splitOn "=" with
    | [n, v] => if n = name then some v else none
    | _ => none

/-- The page size that a request asks for. -/
def pageSize (r : HttpRequest) : Nat :=
  ((parameter? (r.address.query.getD "") "size").bind String.toNat?).getD defaultPageSize

/-- The scroll that a request names. -/
def scrollId (r : HttpRequest) : String :=
  (((r.body.bind Json.read?).bind (·.get? "scroll_id")).bind Json.str?).getD ""

/-- A response that carries a value. -/
def respond (status : Nat) (j : Json) : HttpResponse :=
  ⟨status, [], (Text.codePoints (j.render .spaced)).flatMap Text.utf8Code⟩

/-- A response that reports a failure. -/
def refuse (message : String) : HttpResponse := respond 404 (.obj [("error", .str message)])

/-- Hand out the next page of a scroll. -/
def nextPage (c : MemoryCluster) (id : String) : HttpResponse × MemoryCluster :=
  match c.scrolls.lookup id with
  | none => (refuse "no such scroll", c)
  | some scroll =>
      let (hits, scroll) := scroll.page
      (respond 200 (.obj [("_scroll_id", .str id), ("hits", .obj [("hits", .arr hits)])]),
        { c with scrolls := insertMember id scroll c.scrolls })

/-- Open a scroll over all documents and hand out its first page. -/
def startScroll (c : MemoryCluster) (size : Nat) : HttpResponse × MemoryCluster :=
  let id := "scroll-" ++ toString (c.opened + 1)
  nextPage
    { c with opened := c.opened + 1, scrolls := insertMember id ⟨c.documents, size⟩ c.scrolls } id

/-- Answer a request. Releasing a scroll always succeeds and forgets nothing. -/
def answer (c : MemoryCluster) (r : HttpRequest) : HttpResponse × MemoryCluster :=
  let path := Http.unescape r.address.path
  if r.method = "GET" ∧ path.endsWith "/_mapping" then (respond 200 c.mappings, c)
  else if path = "/_search/scroll" ∧ r.method = "DELETE" then
    (respond 200 (.obj [("succeeded", .bool true)]), c)
  else if path = "/_search/scroll" ∧ r.method = "POST" then c.nextPage (scrollId r)
  else if r.method = "POST" ∧ path.endsWith "/_search" then c.startScroll (pageSize r)
  else (refuse "not found", c)

end MemoryCluster

end SearchTables
