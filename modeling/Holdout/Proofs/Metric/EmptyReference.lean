/-
This file follows what is measured against a reference without items. Every statistic that compares
a ranking with it is zero on doubles, with any positive discount in the place of the logarithm: what
is found is nothing, and what it is divided by is not zero. Graded gains alone may be refused, since
a list without items can have been built without scores.
-/

import Holdout.Proofs.Double.Zeros
import Holdout.Proofs.Metric.Gain

namespace Holdout

namespace Arithmetic

/-- The arithmetic of doubles, with any discount in the place of the logarithm. -/
def doubleWith (discount : Nat → Float) : Arithmetic Float := { double with discount := discount }

/-- With the logarithm it is the arithmetic in which metrics are measured. -/
theorem doubleWith_discount : doubleWith double.discount = double := rfl

theorem atMost_zero {discount : Nat → Float} {number : Float} (notMore : number ≤ Float.ofNat 0) :
    (doubleWith discount).atMost number ((doubleWith discount).ofNat 0) = true :=
  decide_eq_true notMore

end Arithmetic

namespace Metric

open Arithmetic Double

/-! ### Sums of zeros -/

section

variable {discount : Nat → Float}

theorem isZero_foldl {terms : List Float} {sum : Float} (zero : IsZero sum)
    (zeros : ∀ term ∈ terms, IsZero term) :
    IsZero (terms.foldl (fun first second => first + second) sum) := by
  induction terms generalizing sum with
  | nil => exact zero
  | cons term rest inductionHypothesis =>
    rw [List.forall_mem_cons] at zeros
    exact inductionHypothesis (zero.add zeros.1) zeros.2

/-- A sum begins with the negative zero, and stays a zero. -/
theorem isZero_sum {terms : List Float} (zeros : ∀ term ∈ terms, IsZero term) :
    IsZero ((doubleWith discount).sum terms) :=
  isZero_foldl isZero_negative zeros

theorem isZero_discounted (discounts : ∀ rank, 1 ≤ rank → 0 < discount rank) {rank : Nat}
    (ranked : 1 ≤ rank) {numbers : List Float} (zeros : ∀ number ∈ numbers, IsZero number) :
    ∀ term ∈ (doubleWith discount).discounted rank numbers, IsZero term := by
  induction numbers generalizing rank with
  | nil => exact fun _ member => absurd member List.not_mem_nil
  | cons number rest inductionHypothesis =>
    rw [List.forall_mem_cons] at zeros
    rw [discounted, List.forall_mem_cons]
    exact ⟨zeros.1.div (discounts rank ranked), inductionHypothesis (by omega) zeros.2⟩

end

/-! ### Nothing is relevant -/

section

variable {discount : Nat → Float} {list reference : ItemList} (empty : reference.ids = [])

include empty

theorem contains_of_empty (item : ItemId) : reference.contains item = false := by
  rw [ItemList.contains, empty, List.contains_nil]

theorem relevantCount_of_empty : relevantCount list reference = 0 :=
  List.countP_eq_zero.mpr fun item _ => by simp [contains_of_empty empty item]

theorem relevantPositions_of_empty (position : Nat) (items : List ItemId) :
    relevantPositions reference position items = [] := by
  induction items generalizing position with
  | nil => rfl
  | cons item rest inductionHypothesis =>
    rw [relevantPositions, contains_of_empty empty item]
    exact inductionHypothesis (position + 1)

theorem isZero_hit : IsZero (hit (doubleWith discount) list reference) := by
  have missed : list.ids.any reference.contains = false :=
    List.any_eq_false.mpr fun item _ => by simp [contains_of_empty empty item]
  rw [hit, missed]
  exact isZero_ofNat

theorem isZero_precisionShare : IsZero (precisionShare (doubleWith discount) list reference) := by
  rw [precisionShare, relevantCount_of_empty empty]
  split
  · exact isZero_ofNat
  · rename_i some
    have positive : 0 < list.size := List.length_pos_iff.mpr fun nothing => some (by
      rw [ItemList.isEmpty, nothing, List.isEmpty_nil])
    exact isZero_ofNat.div (ofNat_pos positive)

theorem isZero_recallShare : IsZero (recallShare (doubleWith discount) list reference) := by
  have isEmpty : reference.isEmpty = true := by rw [ItemList.isEmpty, empty, List.isEmpty_nil]
  rw [recallShare, if_pos isEmpty]
  exact isZero_ofNat

theorem isZero_reciprocalRank : IsZero (reciprocalRank (doubleWith discount) list reference) := by
  have missed : list.ids.findIdx? reference.contains = none :=
    List.findIdx?_eq_none_iff.mpr fun item _ => contains_of_empty empty item
  rw [reciprocalRank, missed]
  exact isZero_ofNat

theorem isZero_cumulativeGain (discounts : ∀ rank, 1 ≤ rank → 0 < discount rank) (gain : Gain) :
    IsZero (cumulativeGain (doubleWith discount) gain list reference) := by
  refine isZero_sum (isZero_discounted discounts (le_refl 1) fun one member => ?_)
  obtain ⟨item, -, rfl⟩ := List.mem_map.mp member
  rw [gainOf_of_not_mem (empty ▸ List.not_mem_nil)]
  exact isZero_ofNat

/-- An ideal of nothing is a zero, and the share of it is zero. -/
theorem isZero_normalizedGain (valid : reference.Valid) (gain : Gain) (length : Option Nat) :
    IsZero (normalizedGain (doubleWith discount) gain length list reference) := by
  have gains : referenceGains (doubleWith discount) gain reference = [] := by
    unfold referenceGains
    split
    · rename_i scores given
      have none : scores = [] := List.length_eq_zero_iff.mp
        ((valid.scored scores given).trans (by rw [empty, List.length_nil]))
      rw [none, List.map_nil]
    · rw [empty, List.map_nil]
  have ideal : idealGain (doubleWith discount) gain length reference = -0.0 := by
    rw [idealGain, idealGains, gains, List.mergeSort_nil]
    cases length with
    | none => rfl
    | some count => rw [ItemList.cut, List.take_nil]; rfl
  rw [normalizedGain, ideal, if_pos (atMost_zero (by decide))]
  exact isZero_ofNat

theorem isZero_rankBiased {patience : Float} (positive : 0 < patience) (less : patience < 1) :
    IsZero (rankBiased (doubleWith discount) patience list reference) := by
  rw [rankBiased, relevantPositions_of_empty empty, List.map_nil]
  exact isZero_negative.mul (isFinite_one_sub positive less)

/-- The best that can be reached without a relevant item is what one is more than one. -/
theorem isZero_rankBiasedShare (patience : Float) (length : Option Nat) :
    IsZero (rankBiasedShare (doubleWith discount) patience length list reference) := by
  have size : reference.size = 0 := by rw [ItemList.size, empty, List.length_nil]
  have best : rankBiasedBest (doubleWith discount) patience 0 = Float.ofNat 1 - Float.ofNat 1 := by
    rw [rankBiasedBest, power, powerFrom]
    rfl
  have none : (doubleWith discount).atMost (rankBiasedBest (doubleWith discount) patience 0)
      ((doubleWith discount).ofNat 0) = true := by
    rw [best]
    exact atMost_zero (by decide)
  cases length with
  | none =>
    simp only [rankBiasedShare, size, if_pos none]
    exact isZero_ofNat
  | some count =>
    simp only [rankBiasedShare, size, Nat.zero_min, if_pos none]
    exact isZero_ofNat

theorem isZero_value {metric : RankingMetric} (compares : metric.statistic.Compares)
    (discounts : ∀ rank, 1 ≤ rank → 0 < discount rank) (valid : reference.Valid) :
    IsZero (metric.value (doubleWith discount) list reference) := by
  obtain ⟨statistic, length⟩ := metric
  cases statistic with
  | hit => exact isZero_hit empty
  | precisionShare => exact isZero_precisionShare empty
  | recallShare => exact isZero_recallShare empty
  | reciprocalRank => exact isZero_reciprocalRank empty
  | cumulativeGain gain => exact isZero_cumulativeGain empty discounts gain
  | normalizedGain gain => exact isZero_normalizedGain empty valid gain length
  | rankBiased patience normalized =>
    cases normalized with
    | false => exact isZero_rankBiased empty compares.1 compares.2
    | true => exact isZero_rankBiasedShare empty patience length
  | meanPopularity ranks => exact compares.elim

end

/-! ### References without items -/

/-- What becomes of a ranking whose reference has no items. -/
structure NothingFound (discount : Nat → Float) (metric : RankingMetric)
    (recommended reference : ItemList) : Prop where
  /-- Its value is zero, of either sign. -/
  zero : (metric.statistic.IsGraded → reference.scores ≠ none) →
    ∃ value, metric.measure (doubleWith discount) recommended reference = .ok value ∧
      (value == 0) = true
  /-- Without scores there is no gain to read, and the metric is not defined. -/
  refused : metric.statistic.IsGraded → reference.scores = none →
    metric.measure (doubleWith discount) recommended reference =
      .error (.undefined metric.label .ungradedReference)

/-- Against a reference without items every statistic is zero, but for graded gains without
scores. -/
theorem nothing_found_of_empty {discount : Nat → Float} {metric : RankingMetric}
    {recommended reference : ItemList} (discounts : ∀ rank, 1 ≤ rank → 0 < discount rank)
    (compares : metric.statistic.Compares) (lengthy : metric.length ≠ some 0)
    (ordered : recommended.ordered = true) (valid : reference.Valid)
    (empty : reference.ids = []) : NothingFound discount metric recommended reference where
  zero := by
    intro graded
    obtain ⟨list, prepares, -⟩ := prepare_of_ordered compares lengthy ordered graded
    refine ⟨metric.value (doubleWith discount) list reference, ?_,
      (isZero_value empty compares discounts valid).beq⟩
    rw [RankingMetric.measure, prepares]
    rfl
  refused := by
    intro isGraded unscored
    rw [RankingMetric.measure, prepare_of_unscored isGraded ordered unscored]
    rfl

/-- Scores of no items are scores. -/
theorem nothing_found_of_empty_scored :
    NothingFound Float.ofNat ⟨.cumulativeGain .graded, some 2⟩
      ⟨["a", "b", "c"], none, some [1, 2, 3], true⟩ ⟨[], some [], none, false⟩ :=
  nothing_found_of_empty (fun _ ranked => ofNat_pos ranked) (by trivial) (by decide) rfl
    (.of_ranksTo (by decide) (by simp) (Or.inl rfl)) rfl

/-- The list that stands for a missing reference has no scores, so that graded gains have no value
where all others are zero. -/
theorem no_value_of_missing_reference :
    ¬ ∃ value, (⟨.normalizedGain .graded, none⟩ : RankingMetric).measure double
        ⟨["a"], none, some [1], true⟩ (ItemList.empty false) = .ok value ∧
      (value == 0) = true := by
  rintro ⟨value, measures, -⟩
  have refused : (⟨.normalizedGain .graded, none⟩ : RankingMetric).measure double
      ⟨["a"], none, some [1], true⟩ (ItemList.empty false) =
        .error (.undefined "NDCG" .ungradedReference) := rfl
  rw [refused] at measures
  cases measures

end Metric

end Holdout
