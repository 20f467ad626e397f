/-
This file sums up the values that one metric took over a run: their mean, their standard
deviation, how many there were, and how many lists had none. A value that is infinite or no number
counts as missing.
-/

import Holdout.Metric.Basic

namespace Holdout

/-- The values of one metric over a run, summed up. -/
structure Summary where
  mean : Option Float
  /-- The standard deviation of the values. -/
  deviation : Option Float
  /-- The number of lists with a value. -/
  count : Nat
  /-- The number of lists without one. -/
  missing : Nat
deriving Inhabited

namespace Summary

/-- The value that counts, if there is one. -/
def present? : MetricValue → Option Float
  | .ok value => if value.isFinite then some value else none
  | .error _ => none

/-- The mean of some numbers. -/
def meanOf (numbers : List Float) : Float :=
  Arithmetic.double.sum numbers / Float.ofNat numbers.length

/-- The square root of the mean squared distance from the mean. -/
def deviationOf (numbers : List Float) : Float :=
  let mean := meanOf numbers
  (meanOf (numbers.map fun number => (number - mean) * (number - mean))).sqrt

/-- The summary of the values of one metric. -/
def ofValues (values : List MetricValue) : Summary :=
  let present := values.filterMap present?
  let missing := values.length - present.length
  if present.isEmpty then ⟨none, none, 0, missing⟩
  else ⟨some (meanOf present), some (deviationOf present), present.length, missing⟩

end Summary

end Holdout
