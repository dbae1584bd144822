import StateMetrics.Decimal.Digits
import StateMetrics.Text.Lines

/-!
# Metrics

What the controller counts: the instances that hold a block, its runs with their durations, and its
failures by instance and cause. The counters have the width of the machine's words and wrap around.
`Metrics.lines` is the exposition text without the lines that depend on how long the runs took.
-/

namespace StateMetrics

/-- Something that is counted. -/
inductive Tally where
  /-- One more instance holds a block. -/
  | instanceGained
  /-- One instance released its block. -/
  | instanceLost
  /-- So many instances were found to hold a block. -/
  | instancesFound (number : Int64)
  | runStarted
  | runFinished
  /-- A run for the instance of this key failed from the cause of this label. -/
  | failed (key label : String)
  deriving DecidableEq, Repr

/-- How often the runs for an instance failed from one cause. -/
structure FailureCount where
  key : String
  label : String
  count : UInt64
  deriving DecidableEq, Repr

/-- The counters of the controller. -/
structure Metrics where
  /-- The instances that hold a block. -/
  instances : Int64 := 0
  /-- The runs begun. -/
  runs : UInt64 := 0
  /-- The runs ended, each with its duration. -/
  durations : UInt64 := 0
  /-- The failures, in the order in which their kinds first came up. -/
  failures : List FailureCount := []
  deriving DecidableEq, Repr

namespace Metrics

/-- One failure more of an instance from a cause. -/
def countFailure (key label : String) : List FailureCount → List FailureCount
  | [] => [⟨key, label, 1⟩]
  | f :: rest =>
    if f.key = key && f.label = label then { f with count := f.count + 1 } :: rest
    else f :: countFailure key label rest

/-- The counters after one more of something. -/
def count (m : Metrics) : Tally → Metrics
  | .instanceGained => { m with instances := m.instances + 1 }
  | .instanceLost => { m with instances := m.instances - 1 }
  | .instancesFound number => { m with instances := number }
  | .runStarted => { m with runs := m.runs + 1 }
  | .runFinished => { m with durations := m.durations + 1 }
  | .failed key label => { m with failures := countFailure key label m.failures }

/-! ## Exposition -/

/-- What all names start with. -/
def nameStart : String := "crsm_"

/-- The lines that introduce a metric. -/
def heading (name help kind : String) : List String :=
  ["# HELP " ++ nameStart ++ name ++ " " ++ help ++ ".",
    "# TYPE " ++ nameStart ++ name ++ " " ++ kind]

/-- A line with a whole number. -/
def sample (name : String) (value : Int) : String :=
  nameStart ++ name ++ " " ++ Decimal.intText value

/-- What the samples of failures are called. -/
def failuresName : String := "reconcile_failures_total"

/-- The sample of a count of failures; its labels stand as they are. -/
def failureSample (f : FailureCount) : String :=
  sample (failuresName ++ "\x7binstance=\"" ++ f.key ++ "\",error=\"" ++ f.label ++ "\"\x7d")
    f.count.toNat

/-- The exposition, a sample or heading behind another. -/
def exposition (m : Metrics) : List String :=
  heading "total" "Total number of CRSM resources available on the cluster" "gauge"
    ++ [sample "total" m.instances.toInt]
    ++ heading "reconcile_duration_seconds" "reconcile duration" "histogram"
    ++ ["# UNIT crsm_reconcile_duration_seconds seconds",
      sample "reconcile_duration_seconds_count" m.durations.toNat,
      sample "reconcile_duration_seconds_bucket\x7ble=\"+Inf\"\x7d" m.durations.toNat]
    ++ heading "reconcile_failures" "reconciliation errors" "counter"
    ++ m.failures.map failureSample
    ++ heading "reconcile_runs" "reconciliations" "counter"
    ++ [sample "reconcile_runs_total" m.runs.toNat, "# EOF"]

/-- Whether a line counts failures. -/
def isFailureLine (line : String) : Bool :=
  (nameStart ++ failuresName).toList.isPrefixOf line.toList

/-- Whether a line depends on how long the runs took. -/
def isDurationLine (line : String) : Bool :=
  let start := nameStart ++ "reconcile_duration_seconds_"
  (start ++ "sum").toList.isPrefixOf line.toList
    || (start ++ "bucket").toList.isPrefixOf line.toList
      && !(start ++ "bucket\x7ble=\"+Inf\"").toList.isPrefixOf line.toList

/-- Puts a line in front of the first that is not less. -/
def insertLine (line : String) : List String → List String
  | [] => [line]
  | l :: rest => if line < l then line :: l :: rest else l :: insertLine line rest

/-- Lines in order. -/
def sortLines (lines : List String) : List String :=
  lines.foldl (fun sorted line => insertLine line sorted) []

/-- The lines with those of the failures replaced, one by one, by the given ones. -/
def replaceFailureLines : List String → List String → List String
  | [], _ => []
  | line :: lines, given =>
    if isFailureLine line then
      match given with
      | first :: given => first :: replaceFailureLines lines given
      | [] => line :: replaceFailureLines lines []
    else line :: replaceFailureLines lines given

/-- The exposition by lines, without those that depend on the durations themselves; a label that
holds a line end makes two lines of its sample. The lines of the failures are in order. -/
def lines (m : Metrics) : List String :=
  let all := ((Text.shownLines ("\n".intercalate m.exposition).toList).map String.ofList).filter
    fun line => !isDurationLine line
  replaceFailureLines all (sortLines (all.filter isFailureLine))

end Metrics

end StateMetrics
