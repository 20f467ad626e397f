/-
This file proves that looking deeper into a ranking never lowers a statistic that adds up what it
finds. A ranking that is cut begins like one that is cut later, so the later cut is ahead: what
follows is worth nothing or more, also where scores are negative. From the last item on there is
nothing more to find.
-/

import Holdout.Proofs.Metric.Depth
import Holdout.Proofs.Metric.Promotion

namespace Holdout

/-- The statistic adds up what it finds. It is no share of the items that are seen, nor of the best
that the length allows. -/
def Statistic.IsCumulative : Statistic → Prop
  | .precisionShare | .normalizedGain _ | .meanPopularity _ => False
  | .rankBiased _ normalized => normalized = false
  | _ => True

theorem Statistic.IsCumulative.plain {statistic : Statistic}
    (cumulative : statistic.IsCumulative) : ¬ statistic.IsNormalized := by
  intro normalized
  cases statistic with
  | normalizedGain gain => exact cumulative
  | rankBiased patience share => exact Bool.false_ne_true (cumulative.symm.trans normalized)
  | _ => exact normalized

namespace Metric

open Arithmetic

variable {K : Type} [Field K] [LinearOrder K] [IsStrictOrderedRing K]
variable {value : Float → K} {discount : Nat → K}

/-! ### Lists that begin alike -/

theorem ahead_of_prefix {gain : Gain} {list other reference : ItemList}
    (begins : list.ids <+: other.ids) : Ahead value gain reference list other := by
  obtain ⟨rest, ids⟩ := begins
  unfold Ahead gainsOf
  rw [← ids, List.map_append]
  exact dominated_append (nonneg_gainsOf rest)

/-- A statistic without a length, of lists that begin alike. -/
theorem value_le_of_prefix {statistic : Statistic} {list other reference : ItemList}
    (discounts : MildDiscounts discount) (reads : ReadsPatience value)
    (compares : statistic.Compares) (cumulative : statistic.IsCumulative)
    (begins : list.ids <+: other.ids) :
    (⟨statistic, none⟩ : RankingMetric).value (exact value discount) list reference ≤
      (⟨statistic, none⟩ : RankingMetric).value (exact value discount) other reference := by
  have noShare (share : statistic = .precisionShare) : list.size = other.size := by
    rw [share] at cumulative
    exact cumulative.elim
  have ahead : Ahead value statistic.gain reference list other := ahead_of_prefix begins
  exact Ahead.value_le ahead discounts reads compares noShare

/-! ### Greater lengths -/

/-- What a statistic says of a ranking at two lengths and without one. -/
structure GrowsWithLength (arithmetic : Arithmetic K) (statistic : Statistic) (short long : Nat)
    (recommended reference : ItemList) (atShort atLong whole : K) : Prop where
  measuredShort : (⟨statistic, some short⟩ : RankingMetric).measure arithmetic recommended
    reference = .ok atShort
  measuredLong : (⟨statistic, some long⟩ : RankingMetric).measure arithmetic recommended
    reference = .ok atLong
  measuredAll : (⟨statistic, none⟩ : RankingMetric).measure arithmetic recommended reference =
    .ok whole
  deeper : atShort ≤ atLong
  deepest : atLong ≤ whole
  /-- A length that the ranking does not reach beyond sees all of it. -/
  reachedByShort : recommended.size ≤ short → atShort = whole
  reachedByLong : recommended.size ≤ long → atLong = whole

section

variable {statistic : Statistic} {recommended reference : ItemList} {count : Nat}

/-- A cumulative statistic with a length is the one without it, of the first items. -/
theorem exists_measure_take {Number : Type} (arithmetic : Arithmetic Number)
    (compares : statistic.Compares) (cumulative : statistic.IsCumulative)
    (graded : statistic.IsGraded → reference.scores ≠ none) (positive : 1 ≤ count)
    (ordered : recommended.ordered = true) :
    ∃ list : ItemList, list.ids = recommended.ids.take count ∧
      (⟨statistic, some count⟩ : RankingMetric).measure arithmetic recommended reference =
        .ok ((⟨statistic, none⟩ : RankingMetric).value arithmetic list reference) := by
  obtain ⟨list, ids, measured⟩ := exists_measure_of_ordered ⟨statistic, some count⟩ arithmetic
    compares (some_ne_zero positive) ordered graded
  refine ⟨list, ids, measured.trans (congrArg Except.ok ?_)⟩
  exact RankingMetric.value_at cumulative.plain arithmetic count list reference

/-- A cumulative statistic of a ranking is not lower at a greater length. -/
theorem cumulative_grows_with_length {short long : Nat} (discounts : MildDiscounts discount)
    (reads : ReadsPatience value) (compares : statistic.Compares)
    (cumulative : statistic.IsCumulative)
    (graded : statistic.IsGraded → reference.scores ≠ none)
    (ordered : recommended.ordered = true) (positive : 1 ≤ short) (longer : short ≤ long) :
    ∃ atShort atLong whole, GrowsWithLength (exact value discount) statistic short long recommended
      reference atShort atLong whole := by
  obtain ⟨few, fewIds, measuredFew⟩ := exists_measure_take (exact value discount) compares
    cumulative graded positive ordered
  obtain ⟨more, moreIds, measuredMore⟩ := exists_measure_take (exact value discount) compares
    cumulative graded (positive.trans longer) ordered
  obtain ⟨all, allIds, measuredAll⟩ := exists_measure_of_ordered ⟨statistic, none⟩
    (exact value discount) compares nofun ordered graded
  have wholeIds : all.ids = recommended.ids := allIds
  refine ⟨_, _, _, measuredFew, measuredMore, measuredAll, ?_, ?_, fun reached => ?_,
    fun reached => ?_⟩
  · refine value_le_of_prefix discounts reads compares cumulative ?_
    rw [fewIds, moreIds]
    exact List.take_prefix_take_left longer
  · refine value_le_of_prefix discounts reads compares cumulative ?_
    rw [moreIds, wholeIds]
    exact List.take_prefix long _
  · refine RankingMetric.value_congr _ ?_
    rw [fewIds, wholeIds, List.take_of_length_le reached]
  · refine RankingMetric.value_congr _ ?_
    rw [moreIds, wholeIds, List.take_of_length_le reached]

end

/-- An item that is disliked takes nothing away, and the last length goes past the end. -/
theorem cumulative_grows_with_length_disliked :
    ∃ atShort atLong whole, GrowsWithLength realNumbers (.cumulativeGain .graded) 1 5
      ⟨["a", "b", "c"], none, some [1, 2, 3], true⟩
      ⟨["b", "c", "a"], some [-2.0, 0.5, 1.0], none, false⟩ atShort atLong whole :=
  cumulative_grows_with_length discounts_realNumbers.mild readsPatience_realNumbers trivial trivial
    (fun _ => Option.some_ne_none _) rfl (by decide) (by decide)

end Metric

end Holdout
