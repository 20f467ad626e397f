/-
This file computes discounted cumulative gain. Every recommended item adds its gain divided by
the discount of its rank. The ideal is the same sum over the gains of the reference list, the
greatest first; no ranking of the same length can reach more.
-/

import Holdout.Arithmetic
import Holdout.ItemList.Ranking

namespace Holdout

/-- What finding an item of the reference list is worth. -/
inductive Gain where
  /-- One for every item of the reference. -/
  | binary
  /-- The score of the item in the reference; a negative score counts as zero. -/
  | graded
deriving DecidableEq, Repr

namespace Metric

variable {Number : Type}

/-- The gain of one recommended item. -/
def gainOf (arithmetic : Arithmetic Number) (gain : Gain) (reference : ItemList) (item : ItemId) :
    Number :=
  match gain with
  | .binary => arithmetic.ofNat (if reference.contains item then 1 else 0)
  | .graded =>
    match reference.scoreOf? item with
    | some score => arithmetic.positivePart (arithmetic.ofFloat score)
    | none => arithmetic.ofNat 0

/-- The discounted sum of the gains of a recommendation list. -/
def cumulativeGain (arithmetic : Arithmetic Number) (gain : Gain)
    (recommended reference : ItemList) : Number :=
  arithmetic.sum (arithmetic.discounted 1 (recommended.ids.map (gainOf arithmetic gain reference)))

/-- The gains that a reference list has to offer, in its own order. -/
def referenceGains (arithmetic : Arithmetic Number) (gain : Gain) (reference : ItemList) :
    List Number :=
  match gain, reference.scores with
  | .graded, some scores =>
    scores.map fun score => arithmetic.positivePart (arithmetic.ofFloat score)
  | _, _ => reference.ids.map fun _ => arithmetic.ofNat 1

/-- The gains of the ideal ranking, at most `length` of them. -/
def idealGains (arithmetic : Arithmetic Number) (gain : Gain) (length : Option Nat)
    (reference : ItemList) : List Number :=
  ItemList.cut length
    ((referenceGains arithmetic gain reference).mergeSort fun first second =>
      arithmetic.atMost second first)

/-- The discounted sum of the gains of the ideal ranking. -/
def idealGain (arithmetic : Arithmetic Number) (gain : Gain) (length : Option Nat)
    (reference : ItemList) : Number :=
  arithmetic.sum (arithmetic.discounted 1 (idealGains arithmetic gain length reference))

/-- The gain of a recommendation list as a share of the ideal, before it is kept between zero and
one. -/
def gainShare (arithmetic : Arithmetic Number) (gain : Gain) (length : Option Nat)
    (recommended reference : ItemList) : Number :=
  arithmetic.div (cumulativeGain arithmetic gain recommended reference)
    (idealGain arithmetic gain length reference)

/-- The gain as a share of the ideal, between zero and one; zero if the ideal is zero. -/
def normalizedGain (arithmetic : Arithmetic Number) (gain : Gain) (length : Option Nat)
    (recommended reference : ItemList) : Number :=
  if arithmetic.atMost (idealGain arithmetic gain length reference) (arithmetic.ofNat 0) then
    arithmetic.ofNat 0
  else arithmetic.clamp (gainShare arithmetic gain length recommended reference)

end Metric

end Holdout
