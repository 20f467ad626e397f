/-
This file says what the mean popularity rank of a list is. An item without a rank counts as the
number of ranked items plus one. That is the rank just past the least popular of them exactly if no
rank is greater than that number and one is as great, as it is where ranks are counted from training
data; then an unknown item in the place of a known one always raises the mean.
-/

import Holdout.Proofs.Double.Shares
import Holdout.Proofs.Metric.Exact
import Holdout.Proofs.Metric.Measurable
import Holdout.Proofs.Popularity

namespace Holdout

/-! ### Ranks -/

/-- The greatest of some ranks, zero if there is none. -/
def greatestRank (ranks : Table Nat) : Nat := ranks.values.foldr max 0

theorem le_greatestRank {ranks : Table Nat} {item : ItemId} {rank : Nat}
    (known : ranks.find? item = some rank) : rank ≤ greatestRank ranks :=
  List.le_max_of_le' 0 (List.mem_map_of_mem (Table.find?_eq_some_iff.mp known)) (le_refl rank)

/-- The ranks of training data are counted through, so that the greatest is their number. -/
theorem greatestRank_popularityRanks (dataset : Dataset) :
    greatestRank dataset.popularityRanks = dataset.popularityRanks.size := by
  have values : dataset.popularityRanks.values = List.range' 1 dataset.popularityRanks.size := by
    rw [Table.values, Table.size, Dataset.entries_popularityRanks, List.length_zipIdx]
    exact List.zipIdx_map_snd _ _
  rw [greatestRank, values]
  refine le_antisymm (List.max_le_of_forall_le _ _ fun rank member => ?_) ?_
  · have := List.mem_range'_1.mp member
    omega
  · rcases Nat.eq_zero_or_pos dataset.popularityRanks.size with none | some
    · exact none.le.trans (Nat.zero_le _)
    · exact List.le_max_of_le' 0 (List.mem_range'_1.mpr ⟨some, by omega⟩) (le_refl _)

namespace RankingMetric

open Arithmetic Double

/-! ### The mean of some ranks -/

/-- The ranks at which some items count, if those without one stand at `unknown`. -/
def places (ranks : Table Nat) (unknown : Nat) (items : List ItemId) : List Nat :=
  items.map fun item => (ranks.find? item).getD unknown

/-- The mean of these ranks. -/
def meanPlace {Number : Type} (arithmetic : Arithmetic Number) (ranks : Table Nat) (unknown : Nat)
    (items : List ItemId) : Number :=
  arithmetic.ratio (places ranks unknown items).sum items.length

section

variable {ranks : Table Nat} {length : Option Nat} {recommended : ItemList}

/-- Every list with an item that can be cut has a mean. -/
theorem measure_meanPopularity {Number : Type} (arithmetic : Arithmetic Number)
    (reference : ItemList) (lengthy : length ≠ some 0)
    (ordered : length = none ∨ recommended.ordered = true) (something : recommended.ids ≠ []) :
    (⟨.meanPopularity ranks, length⟩ : RankingMetric).measure arithmetic recommended reference =
      .ok (meanPlace arithmetic ranks (ranks.size + 1)
        (ItemList.cut length recommended.ids)) := by
  obtain ⟨list, prepares, ids⟩ := Metric.prepare_meanPopularity reference lengthy ordered something
  rw [measure, prepares, ← ids]
  rfl

/-- The items without a rank, each of them with the rank at which they stand, and all others. -/
theorem sum_places (ranks : Table Nat) (unknown : Nat) (items : List ItemId) :
    (places ranks unknown items).sum =
      (items.filterMap ranks.find?).sum +
        items.countP (fun item => (ranks.find? item).isNone) * unknown := by
  induction items with
  | nil => simp [places]
  | cons item rest inductionHypothesis =>
    rw [places, List.map_cons, List.sum_cons, ← places, inductionHypothesis]
    cases known : ranks.find? item with
    | none =>
      rw [List.filterMap_cons_none known, List.countP_cons_of_pos (by simp [known]),
        Option.getD_none]
      ring
    | some rank =>
      rw [List.filterMap_cons_some known, List.countP_cons_of_neg (by simp [known]),
        Option.getD_some, List.sum_cons]
      ring

/-- Where the items without a rank stand matters if there is one. -/
theorem sum_places_eq_iff {unknown other : Nat} {items : List ItemId} :
    (places ranks unknown items).sum = (places ranks other items).sum ↔
      (∀ item ∈ items, ranks.find? item ≠ none) ∨ unknown = other := by
  rw [sum_places, sum_places, Nat.add_left_cancel_iff, mul_eq_mul_left_iff, List.countP_eq_zero,
    or_comm]
  simp only [Option.isNone_iff_eq_none, ne_eq]

theorem sum_set_add {counts : List Nat} {position count : Nat}
    (within : counts[position]? = some count) (other : Nat) :
    (counts.set position other).sum + count = counts.sum + other := by
  obtain ⟨inside, rfl⟩ := List.getElem?_eq_some_iff.mp within
  have before := List.sum_set counts position counts[position]
  rw [List.set_getElem_self, if_pos inside] at before
  rw [List.sum_set, if_pos inside, before]
  ring

/-! ### Unknown items in the place of known ones -/

/-- Of the items that are seen, one with a rank has given way to one without. -/
structure GivesWay (ranks : Table Nat) (length : Option Nat) (recommended changed : ItemList)
    (rank : Nat) : Prop where
  sameOrder : changed.ordered = recommended.ordered
  replaced : ∃ position item other, changed.ids = recommended.ids.set position other ∧
    (ItemList.cut length recommended.ids)[position]? = some item ∧
    ranks.find? item = some rank ∧ ranks.find? other = none

theorem GivesWay.known {changed : ItemList} {rank : Nat}
    (givesWay : GivesWay ranks length recommended changed rank) : rank ≤ greatestRank ranks := by
  obtain ⟨_, _, _, _, _, known, _⟩ := givesWay.replaced
  exact le_greatestRank known

theorem GivesWay.ids_ne_nil {changed : ItemList} {rank : Nat}
    (givesWay : GivesWay ranks length recommended changed rank) (something : recommended.ids ≠ []) :
    changed.ids ≠ [] := by
  obtain ⟨position, _, other, ids, -⟩ := givesWay.replaced
  rw [ids]
  exact fun none => something ((List.set_eq_nil_iff position other).mp none)

/-- There are as many items as before, and the sum of their ranks is greater by what the unknown
item counts for more. -/
theorem GivesWay.sum_places {changed : ItemList} {rank : Nat}
    (givesWay : GivesWay ranks length recommended changed rank) (unknown : Nat) :
    (ItemList.cut length changed.ids).length = (ItemList.cut length recommended.ids).length ∧
      (places ranks unknown (ItemList.cut length changed.ids)).sum + rank =
        (places ranks unknown (ItemList.cut length recommended.ids)).sum + unknown := by
  obtain ⟨position, item, other, ids, seen, known, new⟩ := givesWay.replaced
  have cut : ItemList.cut length changed.ids =
      (ItemList.cut length recommended.ids).set position other := by
    rw [ids]
    cases length with
    | none => rfl
    | some count => exact List.take_set
  have within : (places ranks unknown (ItemList.cut length recommended.ids))[position]? =
      some rank := by
    rw [places, List.getElem?_map, seen, Option.map_some, known, Option.getD_some]
  refine ⟨by rw [cut, List.length_set], ?_⟩
  rw [cut, ← sum_set_add within, places, List.map_set, new, Option.getD_none]
  rfl

end

/-! ### Means over exact numbers -/

section

variable {K : Type} [Field K] [LinearOrder K] [IsStrictOrderedRing K]
variable {value : Float → K} {discount : Nat → K}
variable {ranks : Table Nat} {length : Option Nat} {recommended changed : ItemList} {rank : Nat}

theorem cast_length_pos {items : List ItemId} (something : items ≠ []) : (0 : K) < items.length :=
  Nat.cast_pos.mpr (List.length_pos_iff.mpr something)

theorem meanPlace_eq_iff {unknown other : Nat} {items : List ItemId} (something : items ≠ []) :
    meanPlace (exact value discount) ranks unknown items =
        meanPlace (exact value discount) ranks other items ↔
      (∀ item ∈ items, ranks.find? item ≠ none) ∨ unknown = other := by
  show (((places ranks unknown items).sum : K) / items.length =
    ((places ranks other items).sum : K) / items.length) ↔ _
  rw [div_left_inj' (cast_length_pos something).ne', Nat.cast_inj, sum_places_eq_iff]

/-- The mean rises exactly if the unknown item counts for more than the known one. -/
theorem GivesWay.meanPlace_lt_iff (givesWay : GivesWay ranks length recommended changed rank)
    (something : ItemList.cut length recommended.ids ≠ []) (unknown : Nat) :
    meanPlace (exact value discount) ranks unknown (ItemList.cut length recommended.ids) <
        meanPlace (exact value discount) ranks unknown (ItemList.cut length changed.ids) ↔
      rank < unknown := by
  obtain ⟨asMany, sums⟩ := givesWay.sum_places unknown
  show ((places ranks unknown (ItemList.cut length recommended.ids)).sum : K) /
      (ItemList.cut length recommended.ids).length <
    ((places ranks unknown (ItemList.cut length changed.ids)).sum : K) /
      (ItemList.cut length changed.ids).length ↔ _
  rw [asMany, div_lt_div_iff_of_pos_right (cast_length_pos something), Nat.cast_lt]
  omega

end

/-! ### The mean popularity rank -/

section

variable {K : Type} [Field K] [LinearOrder K]

/-- What the mean popularity rank of a list is, and how it changes. -/
structure MeanOfRanks (value : Float → K) (discount : Nat → K) (ranks : Table Nat)
    (length : Option Nat) (recommended reference : ItemList) : Prop where
  /-- In any arithmetic it is the mean of the ranks of the items that are seen, where those without
  a rank stand behind as many as there are ranks. -/
  mean : ∀ (Number : Type) (arithmetic : Arithmetic Number),
    (⟨.meanPopularity ranks, length⟩ : RankingMetric).measure arithmetic recommended reference =
      .ok (meanPlace arithmetic ranks (ranks.size + 1) (ItemList.cut length recommended.ids))
  /-- They stand just past the least popular item if the greatest rank is the number of ranks, and
  only then, if there is one of them. -/
  pastLeast :
    (⟨.meanPopularity ranks, length⟩ : RankingMetric).measure (exact value discount) recommended
        reference =
      .ok (meanPlace (exact value discount) ranks (greatestRank ranks + 1)
        (ItemList.cut length recommended.ids)) ↔
    (∀ item ∈ ItemList.cut length recommended.ids, ranks.find? item ≠ none) ∨
      greatestRank ranks = ranks.size
  /-- So it is for ranks that are counted from training data. -/
  counted : ∀ dataset : Dataset, ranks = dataset.popularityRanks →
    greatestRank ranks = ranks.size
  /-- An unknown item in the place of a known one raises the mean, unless the rank of that one is
  greater than the number of ranks. -/
  rises : ∀ changed rank, GivesWay ranks length recommended changed rank →
    rank ≤ greatestRank ranks ∧ ∃ before after,
      (⟨.meanPopularity ranks, length⟩ : RankingMetric).measure (exact value discount) recommended
        reference = .ok before ∧
      (⟨.meanPopularity ranks, length⟩ : RankingMetric).measure (exact value discount) changed
        reference = .ok after ∧
      (before < after ↔ rank ≤ ranks.size)
  /-- Rounding does not hide it as long as the ranks do not sum up to more than doubles can tell
  apart. -/
  risesRounded : ∀ changed rank, GivesWay ranks length recommended changed rank →
    rank ≤ ranks.size →
    (places ranks (ranks.size + 1) (ItemList.cut length changed.ids)).sum ≤ 2 ^ 52 →
    recommended.size < 2 ^ 53 → ∃ before after,
      (⟨.meanPopularity ranks, length⟩ : RankingMetric).measure double recommended reference =
        .ok before ∧
      (⟨.meanPopularity ranks, length⟩ : RankingMetric).measure double changed reference =
        .ok after ∧
      before < after

variable [IsStrictOrderedRing K] {value : Float → K} {discount : Nat → K}

/-- Every list that is not empty and can be cut has a mean popularity rank. -/
theorem meanPopularity_of_ranks {ranks : Table Nat} {length : Option Nat}
    {recommended : ItemList} (lengthy : length ≠ some 0)
    (ordered : length = none ∨ recommended.ordered = true) (something : recommended.ids ≠ [])
    (reference : ItemList) :
    MeanOfRanks value discount ranks length recommended reference := by
  have measures (Number : Type) (arithmetic : Arithmetic Number) :
      (⟨.meanPopularity ranks, length⟩ : RankingMetric).measure arithmetic recommended reference =
        .ok (meanPlace arithmetic ranks (ranks.size + 1)
          (ItemList.cut length recommended.ids)) :=
    measure_meanPopularity arithmetic reference lengthy ordered something
  have seen : ItemList.cut length recommended.ids ≠ [] :=
    Metric.cut_ne_nil lengthy something
  refine ⟨measures, ?_, fun dataset counted => counted ▸ greatestRank_popularityRanks dataset,
    fun changed rank givesWay => ⟨givesWay.known, ?_⟩,
    fun changed rank givesWay inRange atMost few => ?_⟩
  · rw [measures, Except.ok.injEq, meanPlace_eq_iff seen, Nat.add_right_cancel_iff, eq_comm]
  · refine ⟨_, _, measures K _, measure_meanPopularity _ reference lengthy
      (givesWay.sameOrder ▸ ordered) (givesWay.ids_ne_nil something), ?_⟩
    rw [givesWay.meanPlace_lt_iff seen, Nat.lt_succ_iff]
  · refine ⟨_, _, measures Float _, measure_meanPopularity _ reference lengthy
      (givesWay.sameOrder ▸ ordered) (givesWay.ids_ne_nil something), ?_⟩
    obtain ⟨asMany, sums⟩ := givesWay.sum_places (ranks.size + 1)
    have most : (ItemList.cut length recommended.ids).length ≤ recommended.size :=
      (ItemList.cut_sublist length recommended.ids).length_le
    rw [meanPlace, meanPlace, asMany]
    exact ratio_lt_ratio (by omega) atMost (List.length_pos_iff.mpr seen) (by omega)

/-- Of three items the one that nobody met counts for most. -/
theorem meanPopularity_of_ranks_unknown :
    (∀ reference, MeanOfRanks (fun _ => (0 : ℚ)) (fun _ => 1)
        (Table.ofList [("a", 1), ("b", 2), ("c", 3)]) (some 2)
        ⟨["a", "b", "c"], none, some [1, 2, 3], true⟩ reference) ∧
      ∀ reference, ∃ before after,
        (⟨.meanPopularity (Table.ofList [("a", 1), ("b", 2), ("c", 3)]), some 2⟩ :
            RankingMetric).measure double ⟨["a", "b", "c"], none, some [1, 2, 3], true⟩ reference =
          .ok before ∧
        (⟨.meanPopularity (Table.ofList [("a", 1), ("b", 2), ("c", 3)]), some 2⟩ :
            RankingMetric).measure double ⟨["a", "z", "c"], none, some [1, 2, 3], true⟩ reference =
          .ok after ∧
        before < after := by
  have mean (reference : ItemList) : MeanOfRanks (fun _ => (0 : ℚ)) (fun _ => 1)
      (Table.ofList [("a", 1), ("b", 2), ("c", 3)]) (some 2)
      ⟨["a", "b", "c"], none, some [1, 2, 3], true⟩ reference :=
    meanPopularity_of_ranks (by decide) (Or.inr rfl) (by decide) reference
  exact ⟨mean, fun reference => (mean reference).risesRounded _ 2
    ⟨rfl, 1, "b", "z", rfl, rfl, rfl, rfl⟩ (by decide) (by decide) (by decide)⟩

/-- Where the only known item has a greater rank than one, an unknown one counts as more popular. -/
theorem unknown_counts_as_popular : ∃ known unknown,
    (⟨.meanPopularity (Table.ofList [("a", 10)]), none⟩ : RankingMetric).measure double
        ⟨["a"], none, some [1], true⟩ (ItemList.empty false) = .ok known ∧
      (⟨.meanPopularity (Table.ofList [("a", 10)]), none⟩ : RankingMetric).measure double
        ⟨["z"], none, some [1], true⟩ (ItemList.empty false) = .ok unknown ∧
      unknown ≠ meanPlace double (Table.ofList [("a", 10)])
        (greatestRank (Table.ofList [("a", 10)]) + 1) ["z"] ∧
      unknown < known := by
  refine ⟨_, _, rfl, rfl, ?_, ?_⟩ <;> decide

end

end RankingMetric

end Holdout
