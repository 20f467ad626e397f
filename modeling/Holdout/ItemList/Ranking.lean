/-
This file ranks an item list by its scores. The greater score comes first, a score that is no
number comes after every number, and of equal scores the lesser name comes first. Names are
distinct, so the order is strict, and the ranking depends on the scored items alone.
-/

import Holdout.ItemList.Basic

namespace Holdout

namespace ItemList

/-- How two scores compare in a ranking: less means earlier. Both zeros are equal, and so are all
values that are no numbers. -/
def compareScores (first second : Float) : Ordering :=
  match first.isNaN, second.isNaN with
  | true, true => .eq
  | true, false => .gt
  | false, true => .lt
  | false, false => if second < first then .lt else if first < second then .gt else .eq

/-- Whether one scored item may stand before another in a ranking. -/
def precedes (first second : ItemId × Float) : Bool :=
  match compareScores first.2 second.2 with
  | .lt => true
  | .gt => false
  | .eq => decide (first.1 ≤ second.1)

/-- The first items of a list of any kind, or all of it without a limit. -/
def cut {Element : Type} (limit : Option Nat) (elements : List Element) : List Element :=
  match limit with
  | some count => elements.take count
  | none => elements

/-- The ranking that holds these scored items in this order. -/
def ofRanking (pairs : List (ItemId × Float)) : ItemList where
  ids := pairs.map Prod.fst
  scores := some (pairs.map Prod.snd)
  ranks := some (ranksTo pairs.length)
  ordered := true

/-- The best items by score, at most `limit` of them. -/
def rankTop (list : ItemList) (limit : Option Nat) : Except ItemListError ItemList :=
  match list.pairs? with
  | some pairs => .ok (ofRanking (cut limit (pairs.mergeSort precedes)))
  | none => .error (.invalid .noScores)

end ItemList

end Holdout
