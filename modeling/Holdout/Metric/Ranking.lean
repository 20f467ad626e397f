/-
This file collects the metrics of one recommendation list: which statistic is computed, and at
which length the list is cut first. Measuring first checks everything that can be wrong and then
computes a value that is always there.
-/

import Holdout.Metric.Cut
import Holdout.Metric.Gain
import Holdout.Metric.Relevance
import Holdout.Table

namespace Holdout

/-- A statistic of a recommendation list and its reference. -/
inductive Statistic where
  /-- Whether a relevant item was recommended. -/
  | hit
  /-- The relevant share of the recommended items. -/
  | precisionShare
  /-- The recommended share of the relevant items. -/
  | recallShare
  /-- One divided by the rank of the first relevant item. -/
  | reciprocalRank
  /-- Discounted cumulative gain. -/
  | cumulativeGain (gain : Gain)
  /-- Discounted cumulative gain as a share of the ideal. -/
  | normalizedGain (gain : Gain)
  /-- Rank-biased precision, as a share of the best possible if `normalized`. -/
  | rankBiased (patience : Float) (normalized : Bool)
  /-- The mean popularity rank of the recommended items. -/
  | meanPopularity (ranks : Table Nat)

/-- A statistic with the length at which it looks at a list. -/
structure RankingMetric where
  statistic : Statistic
  length : Option Nat

namespace RankingMetric

variable {Number : Type}

/-- The name of a statistic in results. -/
def name : Statistic → String
  | .hit => "Hit"
  | .precisionShare => "Precision"
  | .recallShare => "Recall"
  | .reciprocalRank => "RecipRank"
  | .cumulativeGain _ => "DCG"
  | .normalizedGain _ => "NDCG"
  | .rankBiased _ _ => "RBP"
  | .meanPopularity _ => "MeanPopRank"

/-- The name of a metric in results: the statistic, and the length if there is one. -/
def label (metric : RankingMetric) : String :=
  Metric.labelAt (name metric.statistic) metric.length

/-- The patience of rank-biased precision when none is given. -/
def defaultPatience : Float := 0.85

/-- Refuses graded gains if the reference has no scores. -/
def requireGains (label : String) (gain : Gain) (reference : ItemList) : Except MetricError Unit :=
  if gain = .graded ∧ reference.scores = none then
    .error (.undefined label .ungradedReference)
  else .ok ()

/-- Refuses a patience that is not strictly between zero and one. -/
def requirePatience (label : String) (patience : Float) : Except MetricError Unit :=
  if 0 < patience ∧ patience < 1 then .ok ()
  else .error (.invalidParameter (.patience label patience))

/-- The part of the recommendation list that is measured, once everything was checked. -/
def prepare (metric : RankingMetric) (recommended reference : ItemList) :
    Except MetricError ItemList := do
  let label := metric.label
  match metric.statistic with
  | .hit | .precisionShare | .recallShare => Metric.shown label recommended metric.length
  | .reciprocalRank =>
    Metric.requireOrdered label recommended
    Metric.shown label recommended metric.length
  | .cumulativeGain gain | .normalizedGain gain =>
    Metric.requireOrdered label recommended
    requireGains label gain reference
    Metric.shown label recommended metric.length
  | .rankBiased patience _ =>
    requirePatience label patience
    Metric.requireOrdered label recommended
    Metric.shown label recommended metric.length
  | .meanPopularity _ =>
    let list ← Metric.shown label recommended metric.length
    if list.isEmpty then .error (.undefined label .noItems) else .ok list

/-- The popularity rank of an item. An item without one counts as the number of ranked items plus
one. -/
def popularityRank (ranks : Table Nat) (item : ItemId) : Nat :=
  (ranks.find? item).getD (ranks.size + 1)

/-- The mean popularity rank of a list. The ranks are added without a bound: their sum is taken to
fit a machine word, and nothing is said of lists for which it does not. -/
def meanPopularity (arithmetic : Arithmetic Number) (ranks : Table Nat) (list : ItemList) :
    Number :=
  arithmetic.ratio (total (list.ids.map (popularityRank ranks))) list.size

/-- The value of a metric for a list that was prepared for it. -/
def value (arithmetic : Arithmetic Number) (metric : RankingMetric) (list reference : ItemList) :
    Number :=
  match metric.statistic with
  | .hit => Metric.hit arithmetic list reference
  | .precisionShare => Metric.precisionShare arithmetic list reference
  | .recallShare => Metric.recallShare arithmetic list reference
  | .reciprocalRank => Metric.reciprocalRank arithmetic list reference
  | .cumulativeGain gain => Metric.cumulativeGain arithmetic gain list reference
  | .normalizedGain gain => Metric.normalizedGain arithmetic gain metric.length list reference
  | .rankBiased patience normalized =>
    if normalized then
      Metric.rankBiasedShare arithmetic (arithmetic.ofFloat patience) metric.length list reference
    else Metric.rankBiased arithmetic (arithmetic.ofFloat patience) list reference
  | .meanPopularity ranks => meanPopularity arithmetic ranks list

/-- The value of a metric for a recommendation list and its reference, or why there is none. -/
def measure (arithmetic : Arithmetic Number) (metric : RankingMetric)
    (recommended reference : ItemList) : Except MetricError Number :=
  (metric.prepare recommended reference).map fun list => metric.value arithmetic list reference

end RankingMetric

end Holdout
