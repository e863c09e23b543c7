import VectorIndex.Telemetry.Event

/-!
# The text exposition of the counters

Every family of series is announced by two comment lines, its help and its type, and then
lists its series.  Families are sorted by name, series by the value of their label.  A
histogram has one series per bound, the last bound being infinite, then a sum and a count.
-/

set_option autoImplicit false

namespace VectorIndex.Telemetry

/-- What a family measures. -/
inductive MetricKind where
  /-- Amounts that only grow. -/
  | counter
  /-- Observations, counted below each of the bounds. -/
  | histogram (bounds : List String)
  deriving DecidableEq, Repr

/-- The word for a kind. -/
def MetricKind.name : MetricKind → String
  | .counter => "counter"
  | .histogram _ => "histogram"

/-- A label with its value. -/
abbrev Label := String × String

/-- A name followed by its labels, which are left out when there are none. -/
def seriesName (name : String) (labels : List Label) : String :=
  if labels.isEmpty then name
  else
    let pairs := labels.map fun l => l.1 ++ "=\"" ++ l.2 ++ "\""
    name ++ "\x7b" ++ String.intercalate "," pairs ++ "\x7d"

/-- Series of one name. -/
structure MetricFamily where
  name : String
  help : String
  kind : MetricKind
  /-- The labels of each series; a family without labels has one series. -/
  labels : List (List Label) := [[]]

namespace MetricFamily

/-- The names of the series under one list of labels. -/
def seriesUnder (f : MetricFamily) (labels : List Label) : List String :=
  match f.kind with
  | .counter => [seriesName f.name labels]
  | .histogram bounds =>
    (bounds ++ ["+Inf"]).map (fun b => seriesName (f.name ++ "_bucket") (labels ++ [("le", b)])) ++
      [seriesName (f.name ++ "_sum") labels, seriesName (f.name ++ "_count") labels]

/-- The names of all series. -/
def series (f : MetricFamily) : List String :=
  f.labels.flatMap f.seriesUnder

/-- The comment lines that announce a family. -/
def announcement (f : MetricFamily) : List String :=
  ["# HELP " ++ f.name ++ " " ++ f.help, "# TYPE " ++ f.name ++ " " ++ f.kind.name]

/-- The lines of a family, without the values of its series. -/
def lines (f : MetricFamily) : List String :=
  f.announcement ++ f.series

end MetricFamily

/-- One list of labels per value of a single label. -/
def labelled (label : String) (values : List String) : List (List Label) :=
  values.map fun v => [(label, v)]

/-- Seconds below which durations of stages are counted. -/
def durationBounds : List String :=
  ["0.01", "0.05", "0.1", "0.5", "1", "5", "10", "30", "60", "300", "900", "3600"]

/-- Names in alphabetical order. -/
def sortedNames (names : List String) : List String :=
  names.mergeSort fun a b => decide (a ≤ b)

/-- All families. -/
def catalogue : List MetricFamily :=
  [{ name := "index_builder_blob_bytes_total"
     help := "Bytes moved to or from the object store"
     kind := .counter
     labels := labelled "direction" ["read", "write"] },
   { name := "index_builder_cleanup_warnings_total"
     help := "Native structures that failed to release"
     kind := .counter },
   { name := "index_builder_native_handles_total"
     help := "Native index handle lifecycle events"
     kind := .counter
     labels := labelled "event"
       (sortedNames ([HandleEvent.registered, .released, .transferred].map HandleEvent.name)) },
   { name := "index_builder_runs_total"
     help := "Pipeline runs"
     kind := .counter
     labels := labelled "status" ["failure", "success"] },
   { name := "index_builder_stage_duration_seconds"
     help := "Pipeline stage duration"
     kind := .histogram durationBounds
     labels := labelled "stage" (sortedNames (Stage.all.map Stage.name)) }]

/-- The lines of all families, without the values of their series. -/
def exposition : List String :=
  catalogue.flatMap MetricFamily.lines

end VectorIndex.Telemetry
