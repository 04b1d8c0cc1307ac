import ShadowIndex.Library.Exposition
import ShadowIndex.Observe.Trail

/-!
Contract: the metrics of a service and their exposition.

Owns:
- the name, the kind and the help of each metric;
- the samples of a trail;
- their exposition: help and kind of every metric, and a line for each sample.

Does not own: what is counted, or the text format.
-/

set_option autoImplicit false

namespace ShadowIndex

namespace Metric

def all : List Metric := [queries, staleMarks, reindexed, reindexFailures, latency]

def name : Metric → String
  | queries => "record_search_queries_total"
  | staleMarks => "record_search_stale_marks_total"
  | reindexed => "record_search_reindexed_total"
  | reindexFailures => "record_search_reindex_failures_total"
  | latency => "record_search_query_latency_seconds"

/-- The name of its samples: durations are shown by their number. -/
def sampleName : Metric → String
  | latency => "record_search_query_latency_seconds_count"
  | metric => metric.name

def kind : Metric → String
  | latency => "histogram"
  | _ => "counter"

def help : Metric → String
  | queries => "Total search queries"
  | staleMarks => "Index entries flagged stale"
  | reindexed => "Index entries rebuilt"
  | reindexFailures => "Index entries that could not be rebuilt"
  | latency => "Search query latency, including lazy reindexing"

end Metric

structure Sample where
  name : String
  labels : List (String × String)
  amount : Nat
deriving DecidableEq, Repr, Inhabited

namespace Trail

def samples (trail : Trail) : List Sample :=
  trail.counters.rows.map fun row => ⟨row.1.metric.sampleName, row.1.labels, row.2⟩

/-- The lines of the text format, in order of their texts. -/
def exposition (trail : Trail) : List String :=
  let heads := Metric.all.flatMap fun metric =>
    Exposition.heads metric.name metric.kind metric.help
  let lines := trail.samples.map fun sample =>
    Exposition.sampleLine sample.name sample.labels sample.amount
  (heads ++ lines).mergeSort (· ≤ ·)

end Trail

end ShadowIndex
