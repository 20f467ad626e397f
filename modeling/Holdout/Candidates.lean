/-
This file chooses the items that a scorer has to score for a query. A query that names its own
candidates keeps them. Otherwise the candidates are the training catalog, in one mode without what
the query has met already.
-/

import Holdout.Split

namespace Holdout

/-- Where the candidates of a query come from when it names none. -/
inductive CandidateMode where
  /-- The whole training catalog. -/
  | all
  /-- The training catalog without the history of the query. -/
  | unrated
deriving DecidableEq, Repr, Inhabited

namespace CandidateMode

/-- The mode of a run that names none. -/
def usual : CandidateMode := .unrated

end CandidateMode

/-- A catalog with the mode in which it is used. -/
structure CandidatePool where
  mode : CandidateMode
  catalog : ItemList

/-- The items of some training data as a list, by name. Were a builder to refuse them, an empty list
would stand in for them. -/
def Dataset.catalog (dataset : Dataset) : ItemList :=
  (ItemList.unordered dataset.items).toOption.getD (ItemList.empty false)

namespace CandidatePool

/-- The pool of the items of some training data. -/
def ofDataset (mode : CandidateMode) (dataset : Dataset) : CandidatePool := ⟨mode, dataset.catalog⟩

/-- The candidates of a query. -/
def select (pool : CandidatePool) (query : Query) : ItemList :=
  match query.candidates, pool.mode, query.history with
  | some candidates, _, _ => candidates
  | none, .unrated, some history => pool.catalog.without history
  | none, _, _ => pool.catalog

end CandidatePool

end Holdout
