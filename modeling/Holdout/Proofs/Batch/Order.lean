/-
This file says what is left of the order in which outcomes came once results are put into the order
of the queries. Outcomes of one position stay as they were and nothing is lost, the table of first
positions follows the new order, and where no position is there twice, nothing at all is left: two
runs with the same outcomes give the same results, whatever they are asked.
-/

import Holdout.Batch.Results
import Holdout.Proofs.Sorting
import Holdout.Proofs.Table
import Mathlib.Data.Nat.Basic

namespace Holdout

namespace Results

/-! ### Looking up -/

/-- The table holds the position of the first outcome of every query. -/
theorem find?_positions (results : Results) (query : QueryId) :
    results.positions.find? query =
      results.outcomes.findIdx? fun outcome => outcome.query == query := by
  rw [results.indexed, firstPositions, Table.find?_ofFirsts, Table.lookup_map_pair,
    List.findIdx?_eq_fst_find?_zipIdx]

/-- A query is looked up by its first outcome. -/
theorem find?_eq (results : Results) (query : QueryId) :
    results.find? query =
      (results.outcomes.find? fun outcome => outcome.query == query).map Outcome.result := by
  rw [find?, find?_positions, List.find?_eq_bind_findIdx?_getElem?, Option.map_bind]
  rfl

/-- An outcome is the first of a query. -/
def FirstOf (outcomes : List Outcome) (query : QueryId) (outcome : Outcome) : Prop :=
  ∃ before after, outcomes = before ++ outcome :: after ∧ outcome.query = query ∧
    ∀ earlier ∈ before, earlier.query ≠ query

theorem find?_eq_some_iff {results : Results} {query : QueryId} {result : QueryResult} :
    results.find? query = some result ↔
      ∃ outcome, FirstOf results.outcomes query outcome ∧ outcome.result = result := by
  rw [find?_eq, Option.map_eq_some_iff]
  refine exists_congr fun outcome => and_congr_left fun _ => ?_
  rw [List.find?_eq_some_iff_append, FirstOf, beq_iff_eq]
  simp only [Bool.not_eq_true', beq_eq_false_iff_ne]
  constructor
  · rintro ⟨named, before, after, outcomes, others⟩
    exact ⟨before, after, outcomes, named, others⟩
  · rintro ⟨before, after, outcomes, named, others⟩
    exact ⟨named, before, after, outcomes, others⟩

theorem find?_eq_none_iff {results : Results} {query : QueryId} :
    results.find? query = none ↔ ∀ outcome ∈ results.outcomes, outcome.query ≠ query := by
  rw [find?_eq, Option.map_eq_none_iff, List.find?_eq_none]
  simp only [beq_iff_eq, ne_eq]

/-! ### Sorting -/

/-- Outcomes are sorted by their positions, and those of one position stand as they stood. -/
structure StablySorted (sorted outcomes : List Outcome) : Prop where
  perm : sorted.Perm outcomes
  ascending : sorted.Pairwise fun first second => first.index ≤ second.index
  stable : ∀ index, (sorted.filter fun outcome => outcome.index == index) =
    outcomes.filter fun outcome => outcome.index == index

theorem stablySorted_ordered (outcomes : List Outcome) :
    StablySorted (ofOutcomes outcomes).ordered.outcomes outcomes := by
  have compares (first second : Outcome) :
      decide (first.index ≤ second.index) = true ↔ first.index ≤ second.index :=
    decide_eq_true_iff
  refine ⟨List.mergeSort_perm _ _, Sorting.ascending_mergeSort compares outcomes, fun index =>
    Sorting.filter_mergeSort compares ?_⟩
  -- Outcomes of one position are in order already, so sorting keeps them as a part.
  refine List.pairwise_of_forall_mem_list fun first member second other => ?_
  have here := eq_of_beq (List.mem_filter.mp member).2
  have there := eq_of_beq (List.mem_filter.mp other).2
  exact Nat.le_of_eq (here.trans there.symm)

theorem ordered_eq_of_perm {outcomes others : List Outcome} (same : others.Perm outcomes)
    (distinct : (outcomes.map Outcome.index).Nodup) :
    (ofOutcomes others).ordered = (ofOutcomes outcomes).ordered :=
  congrArg Results.ofOutcomes
    (Sorting.mergeSort_eq_of_perm (fun _ _ => decide_eq_true_iff) distinct same.symm).symm

/-- Results in the order of the queries are their outcomes, stably sorted, and are looked up by the
first outcome in the new order. Where no position is there twice, they are the same in whatever
order the outcomes came. -/
theorem ordered_hides_arrival (outcomes : List Outcome) :
    StablySorted (ofOutcomes outcomes).ordered.outcomes outcomes ∧
    (∀ query result, (ofOutcomes outcomes).ordered.find? query = some result ↔
      ∃ outcome, FirstOf (ofOutcomes outcomes).ordered.outcomes query outcome ∧
        outcome.result = result) ∧
    (∀ query, (ofOutcomes outcomes).ordered.find? query = none ↔
      ∀ outcome ∈ outcomes, outcome.query ≠ query) ∧
    ∀ others : List Outcome, others.Perm outcomes → (outcomes.map Outcome.index).Nodup →
      (ofOutcomes others).ordered.outcomes = (ofOutcomes outcomes).ordered.outcomes ∧
      (∀ query, (ofOutcomes others).ordered.find? query =
        (ofOutcomes outcomes).ordered.find? query) ∧
      (ofOutcomes others).ordered.lists.entries = (ofOutcomes outcomes).ordered.lists.entries ∧
      (ofOutcomes others).ordered.failures.entries =
        (ofOutcomes outcomes).ordered.failures.entries := by
  have sorted := stablySorted_ordered outcomes
  refine ⟨sorted, fun query result => find?_eq_some_iff, fun query => ?_,
    fun others same distinct => ?_⟩
  · rw [find?_eq_none_iff]
    exact forall_congr' fun outcome => by rw [sorted.perm.mem_iff]
  · rw [ordered_eq_of_perm same distinct]
    exact ⟨rfl, fun _ => rfl, rfl, rfl⟩

theorem ordered_hides_arrival_repeated :
    let outcomes : List Outcome := [⟨2, "q", .ok ⟨["a"], none, none, true⟩⟩,
      ⟨0, "p", .error .cancelled⟩, ⟨1, "q", .error .cancelled⟩]
    let others : List Outcome := [⟨1, "q", .error .cancelled⟩, ⟨0, "p", .error .cancelled⟩,
      ⟨2, "q", .ok ⟨["a"], none, none, true⟩⟩]
    (ofOutcomes others).ordered.outcomes = (ofOutcomes outcomes).ordered.outcomes ∧
    (ofOutcomes outcomes).ordered.find? "q" = some (.error .cancelled) ∧
    (ofOutcomes others).ordered.lists.entries = (ofOutcomes outcomes).ordered.lists.entries := by
  intro outcomes others
  obtain ⟨-, found, -, again⟩ := ordered_hides_arrival outcomes
  obtain ⟨same, -, lists, -⟩ := again others (List.reverse_perm outcomes) (by decide)
  have first : FirstOf (ofOutcomes outcomes).ordered.outcomes "q" ⟨1, "q", .error .cancelled⟩ :=
    ⟨[⟨0, "p", .error .cancelled⟩], [⟨2, "q", .ok ⟨["a"], none, none, true⟩⟩], by
      simp [outcomes, ordered, List.mergeSort], rfl, by simp⟩
  exact ⟨same, (found _ _).mpr ⟨_, first, rfl⟩, lists⟩

end Results

end Holdout
