/-
This file computes the metrics that only ask which recommended items are relevant, that is, in
the reference list: whether there is one, their share of either list, the place of the first, and
rank-biased precision, where a reader goes on to the next item with a fixed probability.
-/

import Holdout.Arithmetic
import Holdout.ItemList.Basic

namespace Holdout

namespace Metric

variable {Number : Type}

/-- The number of recommended items that are in the reference. -/
def relevantCount (recommended reference : ItemList) : Nat :=
  recommended.ids.countP reference.contains

/-- One if a recommended item is relevant, zero otherwise. -/
def hit (arithmetic : Arithmetic Number) (recommended reference : ItemList) : Number :=
  arithmetic.ofNat (if recommended.ids.any reference.contains then 1 else 0)

/-- The relevant share of the recommended items; zero if nothing was recommended. -/
def precisionShare (arithmetic : Arithmetic Number) (recommended reference : ItemList) : Number :=
  if recommended.isEmpty then arithmetic.ofNat 0
  else arithmetic.ratio (relevantCount recommended reference) recommended.size

/-- The share of the reference that was recommended; zero for an empty reference. -/
def recallShare (arithmetic : Arithmetic Number) (recommended reference : ItemList) : Number :=
  if reference.isEmpty then arithmetic.ofNat 0
  else arithmetic.ratio (relevantCount recommended reference) reference.size

/-- One divided by the rank of the first relevant item; zero if there is none. -/
def reciprocalRank (arithmetic : Arithmetic Number) (recommended reference : ItemList) : Number :=
  match recommended.ids.findIdx? reference.contains with
  | some position => arithmetic.ratio 1 (position + 1)
  | none => arithmetic.ofNat 0

/-- The positions of the relevant items, counted from `position`. -/
def relevantPositions (reference : ItemList) (position : Nat) : List ItemId → List Nat
  | [] => []
  | item :: rest =>
    if reference.contains item then position :: relevantPositions reference (position + 1) rest
    else relevantPositions reference (position + 1) rest

/-- The probability that the reader stops at a relevant item. -/
def rankBiased (arithmetic : Arithmetic Number) (patience : Number)
    (recommended reference : ItemList) : Number :=
  arithmetic.mul
    (arithmetic.sum
      ((relevantPositions reference 0 recommended.ids).map (arithmetic.power patience)))
    (arithmetic.sub (arithmetic.ofNat 1) patience)

/-- The most that rank-biased precision can reach when this many items are relevant. -/
def rankBiasedBest (arithmetic : Arithmetic Number) (patience : Number) (relevant : Nat) : Number :=
  arithmetic.sub (arithmetic.ofNat 1) (arithmetic.power patience relevant)

/-- Rank-biased precision as a share of the best that the reference and the length allow; zero if
that is zero. -/
def rankBiasedShare (arithmetic : Arithmetic Number) (patience : Number) (length : Option Nat)
    (recommended reference : ItemList) : Number :=
  let reachable := match length with
    | some length => min reference.size length
    | none => reference.size
  let best := rankBiasedBest arithmetic patience reachable
  if arithmetic.atMost best (arithmetic.ofNat 0) then arithmetic.ofNat 0
  else arithmetic.div (rankBiased arithmetic patience recommended reference) best

end Metric

end Holdout
