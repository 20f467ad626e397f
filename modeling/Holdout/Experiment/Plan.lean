/-
This file defines what a run evaluates: every algorithm on every split, with every metric. A plan
has to name one of each at least and none of them twice, and its lists have to have room for an
item.
-/

import Holdout.Candidates
import Holdout.Experiment.Key
import Holdout.Metric.Basic
import Holdout.Scorer.Basic
import Holdout.Text.Quoted

namespace Holdout

/-- A split that has to be loaded. -/
structure SplitSource where
  id : String
  load : Work (Except DataError Split)

namespace SplitSource

/-- The source of a split that is there already. -/
def ofSplit (split : Split) : SplitSource := ⟨split.id, .immediate (.ok split)⟩

end SplitSource

/-- An algorithm as it is shown to a programmer. -/
def Algorithm.describe (algorithm : Algorithm) : String :=
  s!"AlgorithmSpec \x7b id: {Text.quoted algorithm.id} \x7d"

/-- What a run evaluates. -/
structure Plan where
  algorithms : List Algorithm
  splits : List SplitSource
  metrics : List Metric
  /-- How many items a list holds at most. -/
  limit : Option Nat
  /-- The candidates of queries that name none. -/
  mode : CandidateMode

/-- What a plan names. -/
inductive PlanPart where
  | algorithm
  | split
  | metric
deriving DecidableEq, Repr

/-- The word for a part of a plan. -/
def PlanPart.label : PlanPart → String
  | .algorithm => "algorithm"
  | .split => "split"
  | .metric => "metric"

/-- What is wrong with a plan. -/
inductive PlanFault where
  | noAlgorithms
  | noSplits
  | noMetrics
  /-- Lists are to have no items. -/
  | zeroLimit
  /-- A name is there twice. -/
  | duplicate (part : PlanPart) (id : String)
  /-- A fault that another part of the program words itself. -/
  | other (text : String)
deriving DecidableEq, Repr

/-- The wording of a fault. -/
def PlanFault.message : PlanFault → String
  | .noAlgorithms => "no algorithms"
  | .noSplits => "no splits"
  | .noMetrics => "no metrics"
  | .zeroLimit => "list length must be at least 1"
  | .duplicate part id => s!"duplicate {part.label} '{id}'"
  | .other text => text

/-- One algorithm on one split. -/
structure Configuration where
  algorithm : Algorithm
  source : SplitSource

/-- The name of a configuration. -/
def Configuration.key (configuration : Configuration) : ConfigKey :=
  ⟨configuration.algorithm.id, configuration.source.id⟩

namespace Plan

/-- The number of configurations. -/
def size (plan : Plan) : Nat := plan.algorithms.length * plan.splits.length

/-- The configurations: the first algorithm on every split, then the next one. -/
def configurations (plan : Plan) : List Configuration :=
  plan.algorithms.flatMap fun algorithm => plan.splits.map fun source => ⟨algorithm, source⟩

/-- The fault of a name that is there twice, if there is one. -/
def repeated? (part : PlanPart) (ids : List String) : Option PlanFault :=
  (ItemList.firstRepeated? [] ids).map (.duplicate part)

/-- The first thing that is wrong with a plan, if anything is. -/
def fault? (plan : Plan) : Option PlanFault :=
  if plan.algorithms.isEmpty then some .noAlgorithms
  else if plan.splits.isEmpty then some .noSplits
  else if plan.metrics.isEmpty then some .noMetrics
  else if plan.limit = some 0 then some .zeroLimit
  else
    (repeated? .algorithm (plan.algorithms.map Algorithm.id)).or <|
      (repeated? .split (plan.splits.map SplitSource.id)).or <|
        repeated? .metric (plan.metrics.map Metric.label)

end Plan

end Holdout
