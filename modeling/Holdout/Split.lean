/-
This file defines queries and the splits that hold their references back. A split made from a
source removes every held-out pair from it, so no query can be trained on what it is tested with.
-/

import Holdout.Dataset
import Holdout.Naturals

namespace Holdout

/-- A query to be answered. -/
structure Query where
  id : QueryId
  /-- The items it met in training. -/
  history : Option ItemList
  /-- The only items that may be recommended, if it names them itself. -/
  candidates : Option ItemList

/-- Why a split could not be had. -/
inductive DataError where
  /-- The split cannot be produced. -/
  | splitUnavailable (split reason : String)
  /-- A query is tested that the data does not know. -/
  | unknownQuery (query : QueryId)
deriving DecidableEq, Repr

/-- The wording of a data error. -/
def DataError.message : DataError → String
  | .splitUnavailable split reason => s!"split '{split}' unavailable: {reason}"
  | .unknownQuery query => s!"unknown query: {query}"

/-- Training data, and a reference list for every test query. -/
structure Split where
  id : String
  train : Dataset
  test : Table ItemList

namespace Split

/-- Whether an interaction is one of the held-out pairs. -/
def isHeldOut (test : Table ItemList) (interaction : Interaction) : Bool :=
  match test.find? interaction.query with
  | some reference => reference.contains interaction.item
  | none => false

/-- The split that trains on a source without the held-out pairs. Every test query has to occur in
the source; the error names the first that does not. -/
def ofSource (id : String) (source : Dataset) (test : Table ItemList) : Except DataError Split :=
  let known := source.interactions.map Interaction.query
  match test.names.find? fun query => !known.contains query with
  | some query => .error (.unknownQuery query)
  | none => .ok ⟨id, ⟨source.interactions.filter fun pair => !isHeldOut test pair⟩, test⟩

/-- The number of held-out pairs. -/
def testSize (split : Split) : Nat := total (split.test.values.map ItemList.size)

/-- The test queries with their histories, in test order. -/
def queries (split : Split) : List Query :=
  split.test.names.map fun query => ⟨query, some (split.train.historyOf query), none⟩

end Split

end Holdout
