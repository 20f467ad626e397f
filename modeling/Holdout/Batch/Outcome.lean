/-
This file defines what becomes of one query of a batch: a ranked list, or the reason why there is
none. Whatever happens to a query stays with it.
-/

import Holdout.Scorer.Basic

namespace Holdout

/-- Why a query has no list. -/
inductive QueryError where
  /-- The scorer answered with an error. -/
  | scorer (error : ScorerError)
  /-- The list of the scorer cannot be ranked. -/
  | invalidList (error : ItemListError)
  /-- Scoring took longer than allowed. -/
  | timedOut (limit : Duration)
  /-- The scorer crashed. -/
  | crashed (text : String)
  /-- The run was cancelled before the query had its turn. -/
  | cancelled
deriving DecidableEq, Repr

/-- The wording of a query error. -/
def QueryError.message : QueryError → String
  | .scorer error => error.message
  | .invalidList error => error.message
  | .timedOut limit => s!"scoring timed out after {limit.inMessage}"
  | .crashed text => s!"scoring panicked: {text}"
  | .cancelled => "cancelled before scoring"

/-- The list of a query, or why there is none. -/
abbrev QueryResult := Except QueryError ItemList

/-- What became of the query at a position of a batch. -/
structure Outcome where
  index : Nat
  query : QueryId
  result : QueryResult

namespace Outcome

/-- Whether there is a list. -/
def isScored (outcome : Outcome) : Bool := outcome.result.isOk

end Outcome

end Holdout
