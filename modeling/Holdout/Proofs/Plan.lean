/-
This file proves what can be relied on once a plan was accepted: it evaluates something, and no two
of its algorithms, splits or metrics have one name. So its configurations have distinct names, the
names of its list metrics and of its global metrics are apart, and the plan that is left when only
one of its configurations is evaluated would be accepted as well.
-/

import Holdout.Experiment.Plan
import Holdout.Proofs.ItemList.Valid
import Mathlib.Data.List.Nodup

namespace Holdout

namespace Plan

/-- What is asked of a plan. -/
structure Valid (plan : Plan) : Prop where
  algorithms : plan.algorithms ≠ []
  splits : plan.splits ≠ []
  metrics : plan.metrics ≠ []
  limit : plan.limit ≠ some 0
  distinctAlgorithms : (plan.algorithms.map Algorithm.id).Nodup
  distinctSplits : (plan.splits.map SplitSource.id).Nodup
  distinctMetrics : (plan.metrics.map Metric.label).Nodup

theorem repeated?_eq_none_iff {part : PlanPart} {ids : List String} :
    repeated? part ids = none ↔ ids.Nodup := by
  rw [repeated?, Option.map_eq_none_iff, ItemList.firstRepeated?_eq_none_iff]
  exact and_iff_left fun _ _ => List.not_mem_nil

/-- A plan is accepted exactly if it is valid. -/
theorem fault?_eq_none_iff {plan : Plan} : plan.fault? = none ↔ plan.Valid := by
  unfold fault?
  constructor
  · intro accepted
    split at accepted
    · cases accepted
    split at accepted
    · cases accepted
    split at accepted
    · cases accepted
    split at accepted
    · cases accepted
    rename_i algorithms splits metrics limit
    simp only [Option.or_eq_none_iff, repeated?_eq_none_iff] at accepted
    obtain ⟨distinctAlgorithms, distinctSplits, distinctMetrics⟩ := accepted
    exact ⟨mt List.isEmpty_iff.mpr algorithms, mt List.isEmpty_iff.mpr splits,
      mt List.isEmpty_iff.mpr metrics, limit, distinctAlgorithms, distinctSplits, distinctMetrics⟩
  · intro valid
    rw [if_neg (mt List.isEmpty_iff.mp valid.algorithms),
      if_neg (mt List.isEmpty_iff.mp valid.splits), if_neg (mt List.isEmpty_iff.mp valid.metrics),
      if_neg valid.limit]
    simp only [Option.or_eq_none_iff, repeated?_eq_none_iff]
    exact ⟨valid.distinctAlgorithms, valid.distinctSplits, valid.distinctMetrics⟩

/-! ### The names of configurations -/

variable {plan : Plan}

/-- The names of the configurations: those of the first algorithm on every split, then those of the
next one. -/
theorem map_key_configurations (plan : Plan) :
    plan.configurations.map Configuration.key =
      plan.algorithms.flatMap fun algorithm =>
        plan.splits.map fun source => ⟨algorithm.id, source.id⟩ := by
  simp only [configurations, List.map_flatMap, List.map_map]
  rfl

/-- No two configurations of a valid plan have one name. -/
theorem Valid.distinct_keys (valid : plan.Valid) :
    (plan.configurations.map Configuration.key).Nodup := by
  rw [map_key_configurations, List.nodup_flatMap]
  constructor
  · intro algorithm _
    refine List.Nodup.of_map ConfigKey.split ?_
    rw [List.map_map]
    exact valid.distinctSplits
  · refine (List.pairwise_map.mp valid.distinctAlgorithms).imp fun different => ?_
    intro key first second
    obtain ⟨_, _, rfl⟩ := List.mem_map.mp first
    obtain ⟨_, _, same⟩ := List.mem_map.mp second
    exact different (congrArg ConfigKey.algorithm same).symm

/-! ### One configuration by itself -/

/-- The plan that evaluates one configuration in the way in which a plan evaluates all of its
own. -/
def only (plan : Plan) (configuration : Configuration) : Plan :=
  { plan with algorithms := [configuration.algorithm], splits := [configuration.source] }

@[simp] theorem configurations_only (plan : Plan) (configuration : Configuration) :
    (plan.only configuration).configurations = [configuration] := rfl

/-- What is left of a valid plan when one configuration is evaluated by itself is valid. -/
theorem Valid.only (valid : plan.Valid) (configuration : Configuration) :
    (plan.only configuration).Valid where
  algorithms := List.cons_ne_nil _ _
  splits := List.cons_ne_nil _ _
  metrics := valid.metrics
  limit := valid.limit
  distinctAlgorithms := List.nodup_singleton _
  distinctSplits := List.nodup_singleton _
  distinctMetrics := valid.distinctMetrics

end Plan

/-! ### The names of metrics -/

namespace Metric

/-- The names of the list metrics, followed by those of the global metrics. -/
def labels (metrics : List Metric) : List String :=
  (listMetrics metrics).map ListMetric.label ++ (globalMetrics metrics).map GlobalMetric.label

/-- These are the names of all metrics, only in another order. -/
theorem perm_labels (metrics : List Metric) : (labels metrics).Perm (metrics.map label) := by
  induction metrics with
  | nil => exact List.Perm.refl _
  | cons metric rest inductionHypothesis =>
    cases metric with
    | list metric => exact inductionHypothesis.cons metric.label
    | global metric => exact List.perm_middle.trans (inductionHypothesis.cons metric.label)

end Metric

/-- No two metrics of a valid plan have one name, whatever their shapes. -/
theorem Plan.Valid.distinct_labels {plan : Plan} (valid : plan.Valid) :
    (Metric.labels plan.metrics).Nodup :=
  (Metric.perm_labels plan.metrics).nodup_iff.mpr valid.distinctMetrics

end Holdout
