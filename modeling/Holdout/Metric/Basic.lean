/-
This file defines metrics as a run uses them. A list metric measures one recommendation list
against its reference, a global metric measures all lists of a run at once. The metrics of this
library never crash; others may.
-/

import Holdout.Guarded
import Holdout.Metric.Coverage
import Holdout.Metric.Ranking

namespace Holdout

/-- The value of a metric, or why there is none. -/
abbrev MetricValue := Except MetricError Float

/-- A metric of one recommendation list. -/
structure ListMetric where
  label : String
  measure : (recommended reference : ItemList) → Guarded MetricValue

/-- A metric of all lists of a run. -/
structure GlobalMetric where
  label : String
  measure : (recommended references : List ItemList) → Guarded MetricValue

/-- A metric of either shape. -/
inductive Metric where
  | list (metric : ListMetric)
  | global (metric : GlobalMetric)

namespace Metric

/-- The name of a metric in results. -/
def label : Metric → String
  | .list metric => metric.label
  | .global metric => metric.label

/-- Whether a metric measures a whole run. -/
def isGlobal : Metric → Bool
  | .list _ => false
  | .global _ => true

/-- A metric as it is shown to a programmer. -/
def describe : Metric → String
  | .list metric => s!"List({metric.label})"
  | .global metric => s!"Global({metric.label})"

/-- A metric of this library for single lists, computed with doubles. -/
def ofRanking (metric : RankingMetric) : Metric :=
  .list ⟨metric.label, fun recommended reference =>
    .ok (metric.measure .double recommended reference)⟩

/-- Catalog coverage, computed with doubles. -/
def ofCoverage (coverage : Coverage) : Metric :=
  .global ⟨coverage.label, fun recommended _ => .ok (coverage.measure .double recommended)⟩

/-- The list metrics among some metrics, in order. -/
def listMetrics (metrics : List Metric) : List ListMetric :=
  metrics.filterMap fun metric => match metric with
    | .list metric => some metric
    | .global _ => none

/-- The global metrics among some metrics, in order. -/
def globalMetrics (metrics : List Metric) : List GlobalMetric :=
  metrics.filterMap fun metric => match metric with
    | .list _ => none
    | .global metric => some metric

/-- Whether some metric measures a whole run. -/
def hasGlobal (metrics : List Metric) : Bool := metrics.any isGlobal

end Metric

end Holdout
