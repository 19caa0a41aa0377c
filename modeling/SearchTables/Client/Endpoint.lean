import SearchTables.Client.Basic
import SearchTables.Scan.Cursor

/-! # The requests of a cluster

The mapping of an index, and the three requests of a scroll. -/

namespace SearchTables

/-- The page in a reply: the hits, and the id under which the scroll goes on. -/
def ScrollPage.ofJson (j : Json) : Except Error ScrollPage :=
  match (j.get? "hits").bind (·.get? "hits") with
  | none => .error .responseWithoutHits
  | some (.arr hits) => .ok ⟨(j.get? "_scroll_id").bind Json.str?, hits⟩
  | some _ => .error .hitsNotArray

namespace Client

variable {σ : Type}

/-- The path of a scroll that is under way. -/
def scrollPath : String := "/_search/scroll"

/-- The path of something that belongs to the indices that a name stands for. -/
def indexPath (index rest : String) : Task (Link σ) String :=
  match Http.escapeIndex? index with
  | some name => pure ("/" ++ name ++ rest)
  | none => throw .notEncodable

/-- The mapping of the indices that a name stands for. -/
def mapping (c : Client σ) (index : String) : Task (Link σ) Json := do
  let path ← indexPath index "/_mapping"
  let reply ← c.request
    { method := "GET"
      path
      context := "Failed to get Elasticsearch mapping" }
  match ← reply.json with
  | .obj members => pure (.obj members)
  | j => throw (.mappingResponseNotObject j.kindName)

/-- Open a scroll. -/
def openScroll (c : Client σ) (search : Search) : Task (Link σ) ScrollPage := do
  let path ← indexPath search.index "/_search"
  let reply ← c.request
    { method := "POST"
      path
      body := some search.body
      parameters := some [("scroll", .str search.scroll), ("size", .int search.size)]
      context := "Elasticsearch search failed" }
  ScrollPage.ofJson (← reply.json)

/-- The next page of a scroll. -/
def continueScroll (c : Client σ) (id scroll : String) : Task (Link σ) ScrollPage := do
  let reply ← c.request
    { method := "POST"
      path := scrollPath
      body := some (.object [("scroll", .str scroll), ("scroll_id", .str id)])
      context := "Elasticsearch scroll failed" }
  ScrollPage.ofJson (← reply.json)

/-- Release a scroll; whether that went well. The request is made once, and a request that was given up is
only noted in the log. -/
def clearScroll (c : Client σ) (id : String) : Task (Link σ) Bool :=
  tryCatch
    (do
      let _ ← c.request
        { method := "DELETE", path := scrollPath, body := some (.object [("scroll_id", .str id)])
          retry := false }
      pure true)
    fun
      | .requestFailed failure => do
          modify (·.log .client .warning ("failed to clear scroll: " ++ failure.details))
          pure false
      | e => throw e

/-- The scrolls of a cluster. -/
def scrolls (c : Client σ) : ScrollService (Link σ) :=
  { start := c.openScroll
    next := c.continueScroll
    release := c.clearScroll
    log := fun record link => link.note (.logged record) }

end Client

end SearchTables
