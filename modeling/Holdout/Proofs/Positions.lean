/-
This file says what it means that outcomes cover queries: there is one outcome for every position,
with the name of the query there, in any order.
-/

import Holdout.Batch.Outcome
import Mathlib.Data.List.Nodup

namespace Holdout

/-- The positions of queries, with their names. -/
def positions (queries : List Query) : List (Nat × QueryId) :=
  queries.zipIdx.map fun entry => (entry.2, entry.1.id)

theorem fst_positions (queries : List Query) :
    (positions queries).map Prod.fst = List.range queries.length := by
  rw [positions, List.map_map, List.range_eq_range']
  exact List.zipIdx_map_snd 0 queries

theorem snd_positions (queries : List Query) :
    (positions queries).map Prod.snd = queries.map Query.id := by
  conv_rhs => rw [← List.zipIdx_map_fst 0 queries, List.map_map]
  rw [positions, List.map_map]
  rfl

theorem ascending_positions (queries : List Query) :
    (positions queries).Pairwise fun first second => first.1 < second.1 := by
  have sorted : ((positions queries).map Prod.fst).Pairwise (· < ·) := by
    rw [fst_positions]
    exact List.pairwise_lt_range
  exact List.pairwise_map.mp sorted

theorem mem_positions {queries : List Query} {pair : Nat × QueryId} :
    pair ∈ positions queries ↔ ∃ query, queries[pair.1]? = some query ∧ pair.2 = query.id := by
  simp only [positions, List.mem_map, Prod.exists, List.mem_zipIdx_iff_getElem?]
  constructor
  · rintro ⟨query, index, present, rfl⟩
    exact ⟨query, present, rfl⟩
  · rintro ⟨query, present, name⟩
    exact ⟨query, pair.1, present, by rw [← name]⟩

/-- Outcomes that cover queries. -/
def Covers (queries : List Query) (outcomes : List Outcome) : Prop :=
  (outcomes.map fun outcome => (outcome.index, outcome.query)).Perm (positions queries)

namespace Covers

variable {queries : List Query} {outcomes : List Outcome}

theorem indexes (covers : Covers queries outcomes) :
    (outcomes.map Outcome.index).Perm (List.range queries.length) := by
  have mapped := List.Perm.map Prod.fst covers
  rw [fst_positions, List.map_map] at mapped
  exact mapped

theorem names (covers : Covers queries outcomes) :
    (outcomes.map Outcome.query).Perm (queries.map Query.id) := by
  have mapped := List.Perm.map Prod.snd covers
  rw [snd_positions, List.map_map] at mapped
  exact mapped

theorem length_eq (covers : Covers queries outcomes) : outcomes.length = queries.length := by
  simpa using covers.indexes.length_eq

theorem distinct (covers : Covers queries outcomes) : (outcomes.map Outcome.index).Nodup :=
  covers.indexes.nodup_iff.mpr List.nodup_range

/-- The order of the outcomes does not matter. -/
theorem of_perm (covers : Covers queries outcomes) {others : List Outcome}
    (same : others.Perm outcomes) : Covers queries others :=
  (same.map _).trans covers

/-- Outcomes cover queries if every position occurs once and every name is right. -/
theorem of_indexes (once : (outcomes.map Outcome.index).Perm (List.range queries.length))
    (named : ∀ outcome ∈ outcomes, ∃ query, queries[outcome.index]? = some query ∧
      outcome.query = query.id) : Covers queries outcomes := by
  have distinct : (outcomes.map fun outcome => (outcome.index, outcome.query)).Nodup := by
    refine List.Nodup.of_map Prod.fst ?_
    rw [List.map_map]
    exact once.nodup_iff.mpr List.nodup_range
  have others : (positions queries).Nodup := by
    refine List.Nodup.of_map Prod.fst ?_
    rw [fst_positions]
    exact List.nodup_range
  refine (List.perm_ext_iff_of_nodup distinct others).mpr fun pair => ?_
  rw [mem_positions]
  constructor
  · intro member
    obtain ⟨outcome, inside, rfl⟩ := List.mem_map.mp member
    exact named outcome inside
  · rintro ⟨query, present, name⟩
    have inside : pair.1 ∈ outcomes.map Outcome.index :=
      once.mem_iff.mpr (List.mem_range.mpr (List.getElem?_eq_some_iff.mp present).1)
    obtain ⟨outcome, member, same⟩ := List.mem_map.mp inside
    obtain ⟨found, foundPresent, foundName⟩ := named outcome member
    rw [same, present] at foundPresent
    cases foundPresent
    exact List.mem_map.mpr ⟨outcome, member, Prod.ext same (foundName.trans name.symm)⟩

end Covers

end Holdout
