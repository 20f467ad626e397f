/-
This file defines the baseline that scores an item by the number of its interactions in the
training data. Candidates that do not occur there get no score.
-/

import Holdout.Scorer.Basic

namespace Holdout

namespace Popularity

/-- The name of the scorer. -/
def name : String := "pop"

/-- The candidates that occur in the data, with the numbers of their interactions. -/
def counted (dataset : Dataset) (candidates : ItemList) : List (ItemId × Float) :=
  (candidates.ids.filter fun item => dataset.countOf item != 0).map fun item =>
    (item, Float.ofNat (dataset.countOf item))

/-- Scoring by the numbers of interactions. -/
def scoring (dataset : Dataset) : Scoring := fun _ candidates =>
  .immediate ((ItemList.scored (counted dataset candidates)).mapError fun error =>
    .failed error.message)

/-- The scorer; before training it has nothing to count. -/
def scorer : Scorer where
  name := name
  requiresTraining := true
  score := fun _ _ => .immediate (.error (.untrained name))
  train := fun dataset => .immediate (.ok (scoring dataset))

end Popularity

end Holdout
