/-
This file proves that measuring outcomes while they arrive agrees with measuring all of them in the
end. If rows come in the order of the queries, then whatever the order of arrival and whatever the
chunks, the rows, the values of the list metrics, the lists that are kept for the global ones, and
so everything the metrics say, are those that measuring the ordered results as a whole gives.
-/

import Holdout.Proofs.Batch.Views
import Holdout.Proofs.Measuring
import Holdout.Proofs.Positions
import Holdout.Proofs.Reorder
import Holdout.Proofs.Table

namespace Holdout

/-! ### Ordered outcomes -/

variable {split : Split} {outcomes : List Outcome}

theorem Split.map_id_queries (split : Split) : split.queries.map Query.id = split.test.names := by
  simp [Split.queries, Function.comp_def]

/-- In order, outcomes that cover queries are about these queries in their order. -/
theorem Covers.query_ordered {queries : List Query} (covers : Covers queries outcomes) :
    (Results.ofOutcomes outcomes).ordered.outcomes.map Outcome.query = queries.map Query.id := by
  have perm : (Results.ofOutcomes outcomes).ordered.outcomes.Perm outcomes :=
    List.mergeSort_perm _ _
  have ascending : ((Results.ofOutcomes outcomes).ordered.outcomes.map fun outcome =>
      (outcome.index, outcome.query)).Pairwise fun first second => first.1 < second.1 :=
    List.pairwise_map.mpr (Reorder.ascending_ordered covers.distinct)
  have same : (Results.ofOutcomes outcomes).ordered.outcomes.map
      (fun outcome => (outcome.index, outcome.query)) = positions queries := by
    refine (covers.of_perm perm).eq_of_pairwise ?_ ascending (ascending_positions queries)
    exact fun _ _ _ _ before after => absurd before (Nat.lt_asymm after)
  rw [← snd_positions, ← same, List.map_map]
  rfl

/-- The lists of ordered outcomes of a split, under their names, and in order. -/
theorem entries_lists_ordered (covers : Covers split.queries outcomes) :
    (Results.ofOutcomes outcomes).ordered.lists.entries =
      (Results.ofOutcomes outcomes).ordered.outcomes.filterMap Results.listOf? := by
  have names := covers.query_ordered
  rw [Split.map_id_queries] at names
  refine Table.entries_ofList (Results.distinct_iff.mp ?_).1
  rw [names]
  exact split.test.distinct

/-! ### Streaming and plain measuring -/

/-- Whatever arrives is measured, in some order. -/
theorem Measuring.perm_arranged (measuring : Measuring) {chunks : List (List Outcome)}
    (distinct : (chunks.flatten.map Outcome.index).Nodup) :
    (measuring.arranged chunks).Perm chunks.flatten := by
  unfold Measuring.arranged
  split
  · rw [Reorder.flatten_inOrder distinct (List.Perm.refl _)]
    exact List.mergeSort_perm _ _
  · exact List.Perm.refl _

/-- The pairs that ordered outcomes are measured with are those of their lists. -/
theorem filterMap_pairOf_ordered (key : ConfigKey) (metrics : List Metric)
    (covers : Covers split.queries outcomes) :
    (Results.ofOutcomes outcomes).ordered.outcomes.filterMap
        (Measuring.pairOf? ⟨key, metrics, split.test, true⟩) =
      (Results.ofOutcomes outcomes).ordered.lists.entries.map fun entry =>
        (entry.1, entry.2, Analysis.referenceOf split.test entry.1) := by
  rw [entries_lists_ordered covers, List.map_filterMap]
  refine List.filterMap_congr fun outcome _ => ?_
  cases result : outcome.result with
  | error error => simp [Measuring.pairOf?, Results.listOf?, result, Except.toOption]
  | ok list =>
    simp [Measuring.pairOf?, Results.listOf?, result, Except.toOption, Measuring.referenceOf]

/-- Rows that come in the order of the queries, and everything that is measured while the outcomes
arrive, are what measuring the ordered results as a whole gives, in whatever order and in whatever
chunks the outcomes arrive. -/
theorem drain_agrees_with_measure (key : ConfigKey) (metrics : List Metric) (split : Split)
    (outcomes : List Outcome) (covers : Covers split.queries outcomes)
    (calm : Metric.Calm metrics) :
    ∃ gathered analysis,
      (∀ chunks : List (List Outcome), chunks.flatten.Perm outcomes →
        Measuring.drain ⟨key, metrics, split.test, true⟩ chunks = .ok gathered) ∧
      Analysis.measure metrics (Results.ofOutcomes outcomes).ordered.lists split.test =
        .ok analysis ∧
      gathered.lists = analysis.lists ∧
      gathered.pairs = (if Metric.hasGlobal metrics then
        (Results.ofOutcomes outcomes).ordered.lists.entries.map fun entry =>
          (entry.2, Analysis.referenceOf split.test entry.1) else []) ∧
      gathered.analysis metrics = .ok analysis ∧
      (Results.ofOutcomes outcomes).ordered.outcomes.map Outcome.query = split.test.names ∧
      ∃ blocks, List.Forall₂ (Measuring.Block ⟨key, metrics, split.test, true⟩)
        (Results.ofOutcomes outcomes).ordered.outcomes blocks ∧ gathered.rows = blocks.flatten := by
  have pairs := filterMap_pairOf_ordered key metrics covers
  obtain ⟨gathered, gathers⟩ := Measuring.exists_gatherAll ⟨key, metrics, split.test, true⟩ calm
    (Results.ofOutcomes outcomes).ordered.outcomes
  have parts := Measuring.lists_of_gatherAll ⟨key, metrics, split.test, true⟩
    (Results.ofOutcomes outcomes).ordered.outcomes
  rw [gathers, Measuring.kept, pairs] at parts
  -- What is kept are all lists if there are global metrics, and nothing else matters.
  generalize entries : (Results.ofOutcomes outcomes).ordered.lists.entries.map (fun entry =>
    (entry.1, entry.2, Analysis.referenceOf split.test entry.1)) = measured at parts
  cases lists : Analysis.measurePairs metrics measured with
  | error crash =>
    rw [lists] at parts
    cases parts
  | ok values =>
    rw [lists] at parts
    obtain ⟨sameLists, samePairs⟩ := Prod.mk.inj (Except.ok.inj parts)
    obtain ⟨global, globals⟩ := Analysis.exists_measureGlobal calm
      (measured.map fun pair => pair.2.1) (measured.map fun pair => pair.2.2)
    refine ⟨gathered, ⟨values, global⟩, fun chunks arrives => ?_, ?_, sameLists, ?_, ?_, ?_,
      (Measuring.blocks_of_gatherAll _ gathers).1⟩
    · rw [Measuring.drain_eq, Measuring.arranged, if_pos rfl,
        Reorder.flatten_inOrder covers.distinct arrives, gathers]
    · simp only [Analysis.measure, entries, lists, globals, bind, Except.bind, pure, Except.pure]
    · rw [samePairs, ← entries, List.map_map]
      rfl
    · have kept : Analysis.measureGlobal metrics (gathered.pairs.map Prod.fst)
          (gathered.pairs.map Prod.snd) = .ok global := by
        cases any : Metric.hasGlobal metrics with
        | true =>
          simpa only [samePairs, any, if_true, List.map_map, Function.comp_def] using globals
        | false =>
          rw [Analysis.measureGlobal_of_none any, ← globals, Analysis.measureGlobal_of_none any]
      simp only [Gathered.analysis, kept, sameLists, bind, Except.bind, pure, Except.pure]
    · rw [covers.query_ordered, Split.map_id_queries]

/-- Two queries of which the second is answered first, and the first one fails: a chunk for each
outcome gives the same as one for both. -/
theorem drain_agrees_with_measure_swapped :
    let metrics : List Metric := [.list ⟨"size", fun list _ => .ok (.ok (Float.ofNat list.size))⟩,
      .global ⟨"lists", fun lists _ => .ok (.ok (Float.ofNat lists.length))⟩]
    let test : Table ItemList :=
      ⟨[("u", ItemList.empty false), ("v", ItemList.empty false)], by decide⟩
    let measuring : Measuring := ⟨⟨"a", "s"⟩, metrics, test, true⟩
    let failed : Outcome := ⟨0, "u", .error .cancelled⟩
    let scored : Outcome := ⟨1, "v", .ok (ItemList.empty true)⟩
    ∃ gathered, measuring.drain [[scored], [failed]] = .ok gathered ∧
      measuring.drain [[failed, scored]] = .ok gathered ∧
      gathered.analysis metrics =
        Analysis.measure metrics (Results.ofOutcomes [scored, failed]).ordered.lists test := by
  intro metrics test measuring failed scored
  have calm : Metric.Calm metrics := by
    constructor
    · intro metric member recommended reference
      obtain rfl := List.mem_singleton.mp member
      exact ⟨_, rfl⟩
    · intro metric member recommended references
      obtain rfl := List.mem_singleton.mp member
      exact ⟨_, rfl⟩
  have covers : Covers (Split.queries ⟨"s", ⟨[]⟩, test⟩) [scored, failed] :=
    List.Perm.swap _ _ _
  obtain ⟨gathered, analysis, drains, measures, -, -, analysed, -⟩ :=
    drain_agrees_with_measure ⟨"a", "s"⟩ metrics ⟨"s", ⟨[]⟩, test⟩ [scored, failed] covers calm
  exact ⟨gathered, drains [[scored], [failed]] (List.Perm.refl _),
    drains [[failed, scored]] (List.Perm.swap _ _ _), analysed.trans measures.symm⟩

end Holdout
