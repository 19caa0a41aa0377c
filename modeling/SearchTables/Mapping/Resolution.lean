import SearchTables.Mapping.Sample
import SearchTables.Client.Endpoint
import SearchTables.Settings.Scan

/-! # Resolving schemas

The schema of an index is found in two steps: the mapping gives the columns and their types, and a sample of
the documents tells which of them hold lists. -/

namespace SearchTables

/-- The requests that a cluster answers, over a state of their own. -/
structure ClusterService (τ : Type) where
  /-- The mapping of the indices that a name stands for. -/
  mapping : String → Task τ Json
  scrolls : ScrollService τ

/-- The cluster that a client talks to. -/
def Client.cluster {σ : Type} (c : Client σ) : ClusterService (Link σ) :=
  { mapping := c.mapping, scrolls := c.scrolls }

/-- The schema of an index that declares no fields: the whole document as text. -/
def Schema.undeclared (mappedPaths : List String) : Schema :=
  { columns :=
      [{ name := sourceColumn, path := sourceColumn, type := .varchar, indexType := "object" }]
    mappedPaths }

/-- The sample that a schema is resolved with. -/
def MergedMapping.sampleOrder (m : MergedMapping) (index : String) (baseQuery : Option Json)
    (settings : ScanSettings) : SampleOrder :=
  { index
    paths := m.trackablePaths
    mapped := m.mappedPaths
    baseQuery
    size := settings.sampleSize
    pageSize := settings.batchSize
    scroll := settings.sampleScrollTime }

/-- Resolve the schema of an index. -/
def resolveSchema {τ : Type} (service : ClusterService τ) (index : String) (baseQuery : Option Json)
    (settings : ScanSettings) : Task τ Schema := do
  let response ← service.mapping index
  let merged ← mergeMappings (← IndexMapping.ofResponse response)
  if merged.columns.isEmpty then do
    modify (service.scrolls.log
      ⟨.resolution, .info, "index " ++ index ++ " declares no fields; exposing raw _source"⟩)
    pure (Schema.undeclared merged.mappedPaths)
  else do
    let sample ← (merged.sampleOrder index baseQuery settings).take service.scrolls
    modify (service.scrolls.log ⟨.resolution, .info, "resolved schema for " ++ index⟩)
    pure (merged.schema sample.arrays sample.hasUnmapped)

end SearchTables
