import SearchTables.Settings.Field

/-! # Scan settings

How many documents are sampled when a schema is resolved, and how large the pages of a scan are. -/

namespace SearchTables

/-- The settings of scans. -/
structure ScanSettings where
  sampleSize : Int := 100
  batchSize : Int := 1000
  /-- A scan limited to at most this many batches is fetched in one page. -/
  thresholdFactor : Int := 5
  scrollTime : String := "5m"
  sampleScrollTime : String := "1m"
deriving DecidableEq, Inhabited

namespace ScanSettings

/-- Settings with some of them changed. All faults are reported, in the order of the fields. -/
def update (s : ScanSettings) (values : List (String × Json)) : Except Error ScanSettings :=
  let (sampleSize, faults) := Setting.read values "sample_size" s.sampleSize (Setting.intFrom 0) []
  let (batchSize, faults) := Setting.read values "batch_size" s.batchSize Setting.positiveInt faults
  let (thresholdFactor, faults) :=
    Setting.read values "batch_size_threshold_factor" s.thresholdFactor (Setting.intFrom 1) faults
  let (scrollTime, faults) :=
    Setting.read values "scroll_time" s.scrollTime Setting.nonemptyText faults
  let (sampleScrollTime, faults) :=
    Setting.read values "sample_scroll_time" s.sampleScrollTime Setting.nonemptyText faults
  if faults.isEmpty then
    .ok { sampleSize, batchSize, thresholdFactor, scrollTime, sampleScrollTime }
  else .error (.badSettings faults)

/-- The settings that given values describe. -/
def ofSettings (values : List (String × Json)) : Except Error ScanSettings := update {} values

/-- The page size of a scan: all that is wanted when it is little enough, a batch otherwise. -/
def pageSize (s : ScanSettings) (limit : Option Int) (offset : Int) : Int :=
  match limit with
  | some limit =>
      if 0 < limit ∧ limit + offset ≤ s.batchSize * s.thresholdFactor then limit + offset
      else s.batchSize
  | none => s.batchSize

end ScanSettings

end SearchTables
