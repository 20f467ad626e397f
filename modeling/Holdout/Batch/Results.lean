/-
This file defines the results of a batch and the views on them. Results keep the order in which
they came until they are put into the order of the queries. A name can occur more than once: looking
it up goes through a table of first positions, which is kept beside the outcomes and made anew when
their order changes, and gives its first outcome, while the tables of lists and of failures hold its
last list and its last failure.
-/

import Holdout.Batch.Outcome

namespace Holdout

/-- The position of the first outcome of every query, counted from zero. -/
def firstPositions (outcomes : List Outcome) : Table Nat :=
  Table.ofFirsts (outcomes.zipIdx.map fun entry => (entry.1.query, entry.2))

/-- The outcomes of a batch, with the table by which queries are looked up. -/
structure Results where
  outcomes : List Outcome
  positions : Table Nat
  /-- The table goes with the outcomes, and with their order. -/
  indexed : positions = firstPositions outcomes

namespace Results

/-- The results that some outcomes are. -/
def ofOutcomes (outcomes : List Outcome) : Results := ⟨outcomes, firstPositions outcomes, rfl⟩

@[simp] theorem outcomes_ofOutcomes (outcomes : List Outcome) :
    (ofOutcomes outcomes).outcomes = outcomes := rfl

/-- The results in the order of the queries; outcomes of one position keep their order. -/
def ordered (results : Results) : Results :=
  ofOutcomes (results.outcomes.mergeSort fun first second => decide (first.index ≤ second.index))

/-- The number of outcomes. -/
def size (results : Results) : Nat := results.outcomes.length

/-- Whether there is no outcome. -/
def isEmpty (results : Results) : Bool := results.outcomes.isEmpty

/-- What became of a query, by its first outcome. -/
def find? (results : Results) (query : QueryId) : Option QueryResult :=
  (results.positions.find? query).bind fun position =>
    results.outcomes[position]?.map Outcome.result

/-- The list of an outcome under the name of its query, if there is one. -/
def listOf? (outcome : Outcome) : Option (QueryId × ItemList) :=
  outcome.result.toOption.map fun list => (outcome.query, list)

/-- The failure of an outcome under the name of its query, if there is one. -/
def failureOf? (outcome : Outcome) : Option (QueryId × QueryError) :=
  match outcome.result with
  | .ok _ => none
  | .error error => some (outcome.query, error)

/-- The lists of the queries that have one. -/
def lists (results : Results) : Table ItemList := Table.ofList (results.outcomes.filterMap listOf?)

/-- The failures of the queries that have one. -/
def failures (results : Results) : Table QueryError :=
  Table.ofList (results.outcomes.filterMap failureOf?)

/-- The number of outcomes with a list. -/
def scoredCount (results : Results) : Nat := results.outcomes.countP Outcome.isScored

/-- The number of outcomes without one. -/
def failedCount (results : Results) : Nat := results.size - results.scoredCount

/-- The share of outcomes without a list; zero if there are no outcomes. -/
def failureRate (results : Results) : Float :=
  if results.isEmpty then 0.0
  else Float.ofNat results.failedCount / Float.ofNat results.size

end Results

end Holdout
