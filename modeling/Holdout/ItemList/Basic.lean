/-
This file defines item lists, which scorers, batches and metrics hand to one another. A list
holds distinct items in sequence, may hold a score and a rank for each of them, and says whether
its sequence is a ranking or mere membership. The builders refuse what would break this; the
error says which part of it.
-/

namespace Holdout

/-- The name of an item. -/
abbrev ItemId := String

/-- What is wrong with a list, or with a view that was asked of it. -/
inductive ListFault where
  /-- An item is there twice. -/
  | duplicate (item : ItemId)
  /-- The scores are not as many as the items. -/
  | scoreCount (given items : Nat)
  /-- The ranks are not as many as the items. -/
  | rankCount (given items : Nat)
  /-- A rank of an ordered list differs from its position, which is counted from one. -/
  | misplacedRank (rank position : Nat)
  /-- An unordered list has a rank below one. -/
  | zeroRank
  /-- The first items were asked of an unordered list that has more. -/
  | cutOfUnordered (wanted items : Nat)
  /-- A ranking was asked of a list without scores. -/
  | noScores
  /-- A fault that another part of the program words itself. -/
  | other (text : String)
deriving DecidableEq, Repr

/-- The wording of a fault. -/
def ListFault.message : ListFault → String
  | .duplicate item => s!"duplicate item '{item}'"
  | .scoreCount given items => s!"{given} scores for {items} items"
  | .rankCount given items => s!"{given} ranks for {items} items"
  | .misplacedRank rank position => s!"rank {rank} at position {position} of an ordered list"
  | .zeroRank => "ranks start at 1"
  | .cutOfUnordered wanted items => s!"cannot take top {wanted} of an unordered list of {items}"
  | .noScores => "ranking requires scores"
  | .other text => text

/-- Why a list could not be built or sliced. -/
inductive ItemListError where
  /-- The list, or the view that was asked of it, is impossible. -/
  | invalid (fault : ListFault)
  /-- A ranking operation met an unordered list. -/
  | unordered (what : String)
deriving DecidableEq, Repr

/-- The wording of a list error. -/
def ItemListError.message : ItemListError → String
  | .invalid fault => s!"invalid item list: {fault.message}"
  | .unordered what => s!"item list is unordered: {what}"

/-- Items in sequence, with optional scores and ranks of the same length. -/
structure ItemList where
  ids : List ItemId
  scores : Option (List Float)
  ranks : Option (List Nat)
  /-- Whether the sequence is a ranking. -/
  ordered : Bool
deriving Inhabited

namespace ItemList

/-! ### Builders -/

/-- The first item that was seen before, if there is one. -/
def firstRepeated? (seen : List ItemId) : List ItemId → Option ItemId
  | [] => none
  | item :: rest => if item ∈ seen then some item else firstRepeated? (item :: seen) rest

/-- The list of these items, which have to be distinct. -/
def ofIds (ids : List ItemId) (ordered : Bool) : Except ItemListError ItemList :=
  match firstRepeated? [] ids with
  | some item => .error (.invalid (.duplicate item))
  | none => .ok ⟨ids, none, none, ordered⟩

/-- The numbers from one to `count`, the ranks of an ordered list. -/
def ranksTo (count : Nat) : List Nat := List.range' 1 count

/-- The list without items. -/
def empty (ordered : Bool) : ItemList := ⟨[], none, none, ordered⟩

/-- A list of members without a ranking. -/
def unordered (ids : List ItemId) : Except ItemListError ItemList := ofIds ids false

/-- A ranking, its ranks attached. -/
def ranked (ids : List ItemId) : Except ItemListError ItemList := do
  let list ← ofIds ids true
  return { list with ranks := some (ranksTo ids.length) }

/-- The list with these scores, one for each item. -/
def withScores (list : ItemList) (scores : List Float) : Except ItemListError ItemList :=
  if scores.length = list.ids.length then .ok { list with scores := some scores }
  else .error (.invalid (.scoreCount scores.length list.ids.length))

/-- The first rank that differs from its position, counted from `position`, and that position. -/
def misplaced? (position : Nat) : List Nat → Option (Nat × Nat)
  | [] => none
  | rank :: rest =>
    if rank = position then misplaced? (position + 1) rest else some (rank, position)

/-- The list with these ranks, one for each item. On an ordered list they have to be the
positions, on an unordered one they only have to start at one. -/
def withRanks (list : ItemList) (ranks : List Nat) : Except ItemListError ItemList :=
  if ranks.length ≠ list.ids.length then
    .error (.invalid (.rankCount ranks.length list.ids.length))
  else if list.ordered then
    match misplaced? 1 ranks with
    | some (rank, position) => .error (.invalid (.misplacedRank rank position))
    | none => .ok { list with ranks := some ranks }
  else if 0 ∈ ranks then .error (.invalid .zeroRank)
  else .ok { list with ranks := some ranks }

/-- An unordered list of scored items, the form in which scorers answer. -/
def scored (pairs : List (ItemId × Float)) : Except ItemListError ItemList := do
  let list ← ofIds (pairs.map Prod.fst) false
  list.withScores (pairs.map Prod.snd)

/-- The list with these parts, all of them checked: the items first, then the scores, then the
ranks. -/
def ofParts (ids : List ItemId) (scores : Option (List Float)) (ranks : Option (List Nat))
    (ordered : Bool) : Except ItemListError ItemList := do
  let plain ← ofIds ids ordered
  let withScores ← match scores with
    | some values => plain.withScores values
    | none => .ok plain
  match ranks with
  | some values => withScores.withRanks values
  | none => .ok withScores

/-! ### Looking things up -/

/-- The number of items. -/
def size (list : ItemList) : Nat := list.ids.length

/-- Whether there is no item. -/
def isEmpty (list : ItemList) : Bool := list.ids.isEmpty

/-- Whether an item is in the list. -/
def contains (list : ItemList) (item : ItemId) : Bool := list.ids.contains item

/-- The item at a position counted from zero. -/
def get? (list : ItemList) (position : Nat) : Option ItemId := list.ids[position]?

/-- The items with their scores. -/
def pairs? (list : ItemList) : Option (List (ItemId × Float)) := list.scores.map list.ids.zip

/-- The score of an item, if it is there and scores are attached. -/
def scoreOf? (list : ItemList) (item : ItemId) : Option Float :=
  list.pairs?.bind (·.lookup item)

/-- The position of an item in a ranking, counted from one. -/
def rankOf? (list : ItemList) (item : ItemId) : Option Nat :=
  if list.ordered then (list.ids.idxOf? item).map (· + 1) else none

/-! ### Slices -/

/-- The first items of a ranking. A list that has no more than `count` items is returned as it
is, ordered or not; cutting a longer unordered one has no meaning. -/
def top (list : ItemList) (count : Nat) : Except ItemListError ItemList :=
  if list.size ≤ count then .ok list
  else if !list.ordered then .error (.invalid (.cutOfUnordered count list.size))
  else
    .ok {
      ids := list.ids.take count
      scores := list.scores.map (·.take count)
      ranks := list.ranks.map (·.take count)
      ordered := true }

/-- The values that stand beside the kept items. -/
def keepBeside {Value : Type} (kept : ItemId → Bool) (ids : List ItemId) (values : List Value) :
    List Value :=
  ((ids.zip values).filter fun pair => kept pair.1).map Prod.snd

/-- The items that are not in `excluded`. A ranking that had ranks gets new ones; the ranks of an
unordered list are dropped, as the positions shift. -/
def without (list excluded : ItemList) : ItemList :=
  let kept := fun item => !excluded.contains item
  let ids := list.ids.filter kept
  { ids := ids
    scores := list.scores.map (keepBeside kept list.ids)
    ranks := if list.ordered && list.ranks.isSome then some (ranksTo ids.length) else none
    ordered := list.ordered }

/-! ### Equality -/

/-- Whether two lists say the same: two rankings the same sequence, two unordered lists the same
items. Scores and ranks play no part. -/
def same (list other : ItemList) : Bool :=
  list.ordered == other.ordered && list.size == other.size &&
    if list.ordered then list.ids == other.ids else list.ids.all other.contains

instance : BEq ItemList := ⟨same⟩

/-- One value that a list feeds to a hash. -/
inductive HashWord where
  | flag (value : Bool)
  | count (value : Nat)
  | text (value : String)
deriving DecidableEq, Repr

/-- Everything that a list feeds to a hash. The items of an unordered list go in by name, as a
sequence with its own length, so that equal lists feed the same words. -/
def hashWords (list : ItemList) : List HashWord :=
  if list.ordered then .flag true :: .count list.size :: list.ids.map .text
  else
    let sorted := list.ids.mergeSort fun first second => decide (first ≤ second)
    .flag false :: .count list.size :: .count sorted.length :: sorted.map .text

end ItemList

end Holdout
