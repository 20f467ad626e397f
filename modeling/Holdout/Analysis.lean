/-
This file measures a run: every list metric over every pair of a recommendation list and its
reference, every global metric over all of them, and a summary for every metric. A query without
a reference is measured against an empty one.
-/

import Holdout.Dataset
import Holdout.Summary

namespace Holdout

/-- What the list metrics say about one query, in the order of the metrics. -/
structure Measured where
  query : QueryId
  values : List (String × MetricValue)

/-- What all metrics say about a run. -/
structure Analysis where
  lists : List Measured
  global : List (String × MetricValue)

namespace Analysis

/-- Every list metric over one pair. -/
def measureList (metrics : List Metric) (query : QueryId) (recommended reference : ItemList) :
    Guarded Measured := do
  let values ← (Metric.listMetrics metrics).mapM fun metric => do
    let value ← metric.measure recommended reference
    return (metric.label, value)
  return ⟨query, values⟩

/-- Every list metric over many pairs of a list and its reference, in their order. -/
def measurePairs (metrics : List Metric) (pairs : List (QueryId × ItemList × ItemList)) :
    Guarded (List Measured) :=
  pairs.mapM fun pair => measureList metrics pair.1 pair.2.1 pair.2.2

/-- Every global metric over the lists of a run. -/
def measureGlobal (metrics : List Metric) (recommended references : List ItemList) :
    Guarded (List (String × MetricValue)) :=
  (Metric.globalMetrics metrics).mapM fun metric => do
    let value ← metric.measure recommended references
    return (metric.label, value)

/-- The reference of a query: an empty list if there is none. -/
def referenceOf (references : Table ItemList) (query : QueryId) : ItemList :=
  (references.find? query).getD (ItemList.empty false)

/-- Every metric over a run, in the order of the recommendation lists. -/
def measure (metrics : List Metric) (recommended references : Table ItemList) :
    Guarded Analysis := do
  let pairs := recommended.entries.map fun entry =>
    (entry.1, entry.2, referenceOf references entry.1)
  let lists ← measurePairs metrics pairs
  let global ← measureGlobal metrics (pairs.map fun pair => pair.2.1)
    (pairs.map fun pair => pair.2.2)
  return ⟨lists, global⟩

/-- Everything that the list metrics said, under the names of the metrics. -/
def listValues (analysis : Analysis) : List (String × MetricValue) :=
  analysis.lists.flatMap Measured.values

/-- The values that stand under a name. -/
def valuesOf (label : String) (values : List (String × MetricValue)) : List MetricValue :=
  (values.filter fun value => value.1 == label).map Prod.snd

/-- A summary for every name that occurs: a list metric over its lists, in the order in which the
names first occur, then a global metric over its single value. -/
def summary (analysis : Analysis) : Table Summary :=
  let labels := (analysis.listValues.map Prod.fst).eraseDups
  Table.ofList
    (labels.map (fun label => (label, Summary.ofValues (valuesOf label analysis.listValues))) ++
      analysis.global.map fun value => (value.1, Summary.ofValues [value.2]))

end Analysis

end Holdout
