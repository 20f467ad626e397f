/-
This file defines training data: who met which item, in the order in which it was observed, with
an optional rating. From it come the catalog, the history of a query and the popularity of items.
Popularity is counted, so it does not depend on the order of the observations.
-/

import Holdout.ItemList.Basic
import Holdout.Table

namespace Holdout

/-- The name of a query, usually a user. -/
abbrev QueryId := String

/-- One observed meeting of a query and an item. -/
structure Interaction where
  query : QueryId
  item : ItemId
  rating : Option Float

/-- Training data. -/
structure Dataset where
  interactions : List Interaction

instance : Inhabited Dataset := ⟨⟨[]⟩⟩

namespace Dataset

/-- The number of interactions. -/
def size (dataset : Dataset) : Nat := dataset.interactions.length

/-- Whether there is no interaction. -/
def isEmpty (dataset : Dataset) : Bool := dataset.interactions.isEmpty

/-- Whether one name stands before another or is the same. -/
def nameAtMost (first second : String) : Bool := decide (first ≤ second)

/-- The distinct items, by name. -/
def items (dataset : Dataset) : List ItemId :=
  ((dataset.interactions.map Interaction.item).eraseDups).mergeSort nameAtMost

/-- The distinct queries, as they first came. -/
def queries (dataset : Dataset) : List QueryId :=
  (dataset.interactions.map Interaction.query).eraseDups

/-- The interactions of one query. -/
def interactionsOf (dataset : Dataset) (query : QueryId) : List Interaction :=
  dataset.interactions.filter fun interaction => interaction.query == query

/-- The items of a query as they first came, each with the rating of its first interaction. -/
def firstRatings (dataset : Dataset) (query : QueryId) : Table (Option Float) :=
  Table.ofFirsts ((dataset.interactionsOf query).map fun interaction =>
    (interaction.item, interaction.rating))

/-- The distinct items of a query, as they first came. They are scored by their first ratings if
there is an item and every one of them has such a rating. Were a builder to refuse them, an empty
list would stand in for the items, and the list without scores for the scored one. -/
def historyOf (dataset : Dataset) (query : QueryId) : ItemList :=
  let firsts := dataset.firstRatings query
  let list := (ItemList.unordered firsts.names).toOption.getD (ItemList.empty false)
  match firsts.values.mapM id with
  | some ratings =>
    if ratings.isEmpty then list else (list.withScores ratings).toOption.getD list
  | none => list

/-- The number of interactions with an item. -/
def countOf (dataset : Dataset) (item : ItemId) : Nat :=
  dataset.interactions.countP fun interaction => interaction.item == item

/-- The number of interactions with each item, the items by name. -/
def itemCounts (dataset : Dataset) : List (ItemId × Nat) :=
  dataset.items.map fun item => (item, dataset.countOf item)

/-- Whether one counted item is at least as popular as another: it has more interactions, or as
many and a name that is not greater. -/
def popularBefore (first second : ItemId × Nat) : Bool :=
  decide (second.2 < first.2) || second.2 == first.2 && nameAtMost first.1 second.1

/-- The items, the most popular first. -/
def byPopularity (dataset : Dataset) : List ItemId :=
  (dataset.itemCounts.mergeSort popularBefore).map Prod.fst

/-- The popularity rank of every item: one for the most popular. -/
def popularityRanks (dataset : Dataset) : Table Nat :=
  Table.ofList (dataset.byPopularity.zipIdx 1)

end Dataset

end Holdout
