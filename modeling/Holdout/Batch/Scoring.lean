/-
This file scores one query of a batch: its candidates are chosen, the scorer is called, and the list
is ranked and cut. Whatever goes wrong is the result of this query and of no other.
-/

import Holdout.Batch.Results
import Holdout.Candidates
import Holdout.ItemList.Ranking

namespace Holdout

/-- How the queries of a batch are scored. -/
structure Batch where
  /-- The candidates of queries that name none; without a pool they have none. -/
  pool : Option CandidatePool := none
  /-- How many items a list holds at most. -/
  limit : Option Nat := none
  /-- How long the scoring of one query may take. -/
  timeout : Option Duration := none

namespace Batch

/-- The candidates of a query. -/
def candidatesOf (batch : Batch) (query : Query) : ItemList :=
  match query.candidates, batch.pool with
  | some candidates, _ => candidates
  | none, some pool => pool.select query
  | none, none => ItemList.empty false

/-- The call that scores a query. -/
def call (batch : Batch) (score : Scoring) (query : Query) : Work (Except ScorerError ItemList) :=
  score query (batch.candidatesOf query)

/-- The ranked list that a call gives when it comes back in time. -/
def ranked (batch : Batch) (result : Guarded (Except ScorerError ItemList)) : QueryResult :=
  match result with
  | .error crash => .error (.crashed crash.text)
  | .ok (.error error) => .error (.scorer error)
  | .ok (.ok list) => (list.rankTop batch.limit).mapError .invalidList

/-- The limit that a call overruns, if it takes longer than allowed. -/
def overrun? (batch : Batch) (score : Scoring) (query : Query) : Option Duration :=
  batch.timeout.filter fun limit =>
    decide (limit.nanoseconds < (batch.call score query).takes.nanoseconds)

/-- What scoring a query by itself gives. -/
def scoreOne (batch : Batch) (score : Scoring) (query : Query) : QueryResult :=
  match batch.overrun? score query with
  | some limit => .error (.timedOut limit)
  | none => batch.ranked (batch.call score query).result

end Batch

end Holdout
