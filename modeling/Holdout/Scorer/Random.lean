/-
This file defines the baseline that scores candidates at random. The numbers depend on the seed,
on the name of the query and on the positions of the candidates, so repeated runs agree.
-/

import Holdout.Random.Stream
import Holdout.Scorer.Basic

namespace Holdout

namespace Random

/-- The candidates, each with the random number of its position. -/
def drawn (seed : UInt64) (query : QueryId) (candidates : ItemList) : List (ItemId × Float) :=
  candidates.ids.zip (numbers (queryHash seed query) candidates.size)

/-- Scoring at random. -/
def scoring (seed : UInt64) : Scoring := fun query candidates =>
  .immediate ((ItemList.scored (drawn seed query.id candidates)).mapError fun error =>
    .failed error.message)

/-- The scorer; training changes nothing. -/
def scorer (seed : UInt64) : Scorer where
  name := "random"
  requiresTraining := false
  score := scoring seed
  train := fun _ => .immediate (.ok (scoring seed))

end Random

end Holdout
