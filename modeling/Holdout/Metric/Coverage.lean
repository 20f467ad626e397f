/-
This file computes catalog coverage, a metric of a whole run: the share of the catalog that was
recommended to somebody. What lies outside the catalog does not count, and an item that was
recommended twice counts once.
-/

import Holdout.Arithmetic
import Holdout.Metric.Cut

namespace Holdout

/-- Coverage of a catalog, with the length at which it looks at the lists. -/
structure Coverage where
  /-- The items of the catalog; a repeated one counts once. -/
  catalog : List ItemId
  length : Option Nat

namespace Coverage

variable {Number : Type}

/-- The name of the metric in results. -/
def label (coverage : Coverage) : String := Metric.labelAt "ItemCoverage" coverage.length

/-- The distinct items of the catalog. -/
def items (coverage : Coverage) : List ItemId := coverage.catalog.eraseDups

/-- The distinct items of the catalog that some list shows. -/
def covered (coverage : Coverage) (lists : List ItemList) : List ItemId :=
  coverage.items.filter fun item => lists.any fun list => list.contains item

/-- The share of the catalog that the lists cover together, or why there is none: the catalog is
empty, or some list cannot be cut. -/
def measure (arithmetic : Arithmetic Number) (coverage : Coverage) (recommended : List ItemList) :
    Except MetricError Number :=
  if coverage.items.isEmpty then .error (.undefined coverage.label .emptyCatalog)
  else do
    let lists ← recommended.mapM fun list => Metric.shown coverage.label list coverage.length
    return arithmetic.ratio (coverage.covered lists).length coverage.items.length

end Coverage

end Holdout
