/-
This file names the configurations of an experiment. A configuration is one algorithm on one split;
configurations are sorted by the algorithm and then by the split.
-/

namespace Holdout

/-- The name of a configuration. -/
structure ConfigKey where
  algorithm : String
  split : String
deriving DecidableEq, Repr, Inhabited

namespace ConfigKey

/-- A name as it is shown. -/
def label (key : ConfigKey) : String := s!"{key.algorithm}/{key.split}"

/-- Whether one name is sorted before another or is the same. -/
def atMost (first second : ConfigKey) : Bool :=
  decide (first.algorithm < second.algorithm) ||
    first.algorithm == second.algorithm && decide (first.split ≤ second.split)

end ConfigKey

end Holdout
