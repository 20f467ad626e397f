/-
This file cuts a recommendation list to the length at which a metric looks at it. Cutting is a
statement about a ranking, so a metric with a length refuses every unordered list, also one that
is short enough to be kept whole.
-/

import Holdout.ItemList.Ranking
import Holdout.Metric.Error

namespace Holdout

namespace Metric

/-- The name of a metric, with its length if it has one. -/
def labelAt (name : String) : Option Nat → String
  | some length => s!"{name}@{length}"
  | none => name

/-- The part of a recommendation list that a metric of this length sees. -/
def shown (label : String) (recommended : ItemList) : Option Nat → Except MetricError ItemList
  | none => .ok recommended
  | some 0 => .error (.invalidParameter (.zeroLength label))
  | some length =>
    if !recommended.ordered then .error (.unordered label)
    else match recommended.top length with
      | .ok list => .ok list
      | .error error => .error (.undefined label (.other error.message))

/-- Refuses an unordered list. -/
def requireOrdered (label : String) (recommended : ItemList) : Except MetricError Unit :=
  if recommended.ordered then .ok () else .error (.unordered label)

end Metric

end Holdout
