/-
This file shows that no metric depends on the order of a reference list. What an item gains is read
under its name, and the gains of the ideal ranking are put in falling order, in which gains of one
height are one gain: a score that is no number, or not above zero, gains the positive zero. So the
doubles that are added up are the same ones in the same order. Metrics that do not look at ranks do
not depend on the order of the recommended items either.
-/

import Holdout.Proofs.Double.Zeros
import Holdout.Proofs.ItemList.Chains
import Holdout.Proofs.Metric.Gain

namespace Holdout

namespace Double

open Score

/-! ### Gains on doubles -/

/-- A gain is the positive zero or greater than zero. -/
def IsGain (double : Float) : Prop := double = Float.ofNat 0 ∨ 0 < double

section

variable {first second : Float}

/-- A positive double is the only one at its height. -/
theorem eq_of_height_eq (positive : 0 < first) (same : height first = height second) :
    first = second := by
  refine unpack_injective ?_
  rcases pos_iff.mp positive with shape | ⟨mantissa, exponent, isPositive, shape⟩
  · exact shape.trans (eq_infinity_of_height (shape ▸ same))
  · exact shape.trans (eq_finite_of_height (shape ▸ same))

theorem IsGain.isNaN (gain : IsGain first) : first.isNaN = false := by
  rcases gain with rfl | positive
  · rfl
  · exact (isNaN_of_lt positive).2

theorem IsGain.eq_of_height_eq (gain : IsGain first) (other : IsGain second)
    (same : height first = height second) : first = second := by
  rcases gain with rfl | positive
  · rcases other with rfl | positive
    · rfl
    · exact (Double.eq_of_height_eq positive same.symm).symm
  · exact Double.eq_of_height_eq positive same

theorem isGain_positivePart (score : Float) : IsGain (Arithmetic.double.positivePart score) := by
  rw [Arithmetic.positivePart]
  split
  · rename_i positive
    exact Or.inr (of_decide_eq_true positive)
  · exact Or.inl rfl

theorem isGain_one : IsGain (Float.ofNat 1) := Or.inr (ofNat_pos Nat.one_pos)

/-- Scores that are level gain the same. -/
theorem positivePart_of_level (level : Level first second) :
    Arithmetic.double.positivePart first = Arithmetic.double.positivePart second := by
  have positive {first second : Float} (level : Level first second) (positive : 0 < first) :
      first = second := by
    rcases level with same | ⟨isNaN, -⟩
    · obtain ⟨isFirst, isSecond⟩ := isNaN_of_beq same
      exact Double.eq_of_height_eq positive ((beq_iff_height isFirst isSecond).mp same)
    · exact absurd positive (not_lt_of_nan (Or.inr isNaN))
  have symmetric : Level second first := level_iff_place.mpr (level_iff_place.mp level).symm
  by_cases above : 0 < first
  · rw [positive level above]
  by_cases aboveToo : 0 < second
  · rw [positive symmetric aboveToo]
  · have zero {score : Float} (notAbove : ¬ 0 < score) :
        Arithmetic.double.positivePart score = Float.ofNat 0 :=
      if_neg fun less => notAbove (of_decide_eq_true less)
    rw [zero above, zero aboveToo]

/-- Doubles are in no total order, but their heights are, and gains compare as these do. -/
theorem mergeSort_gains {gains : List Float} (areGains : ∀ gain ∈ gains, IsGain gain) :
    (gains.mergeSort fun first second => Arithmetic.double.atMost second first) =
      gains.mergeSort fun first second => decide (height second ≤ height first) := by
  have mapped : (gains.mergeSort fun first second => Arithmetic.double.atMost second first).map id =
      (gains.map id).mergeSort fun first second => decide (height second ≤ height first) :=
    List.map_mergeSort fun first member second memberToo => decide_eq_decide.mpr <|
      le_iff_height (areGains second memberToo).isNaN (areGains first member).isNaN
  rwa [List.map_id, List.map_id] at mapped

/-- To fall in height is to rise in the dual order, in which sorting is stated. -/
theorem falls_iff_dual (first second : Float) : decide (height second ≤ height first) = true ↔
    OrderDual.toDual (height first) ≤ OrderDual.toDual (height second) :=
  decide_eq_true_iff

/-- The same gains are the same in falling order. -/
theorem mergeSort_gains_eq_of_perm {gains others : List Float} (perm : gains.Perm others)
    (areGains : ∀ gain ∈ gains, IsGain gain) :
    (gains.mergeSort fun first second => Arithmetic.double.atMost second first) =
      others.mergeSort fun first second => Arithmetic.double.atMost second first := by
  have areGainsToo (gain : Float) (member : gain ∈ others) : IsGain gain :=
    areGains gain (perm.mem_iff.mpr member)
  rw [mergeSort_gains areGains, mergeSort_gains areGainsToo]
  refine List.Perm.eq_of_pairwise (fun first second member memberToo after before => ?_)
    (Sorting.ascending_mergeSort falls_iff_dual gains)
    (Sorting.ascending_mergeSort falls_iff_dual others)
    ((List.mergeSort_perm _ _).trans (perm.trans (List.mergeSort_perm _ _).symm))
  exact (areGains first (List.mem_mergeSort.mp member)).eq_of_height_eq
    (areGainsToo second (List.mem_mergeSort.mp memberToo)) (le_antisymm before after)

end

end Double

/-! ### Lists of the same scored items -/

namespace ItemList

/-- The same items, each with the same score, or both lists without scores. The sequences, the ranks
and whether the lists are rankings may differ. -/
structure SameScores (first second : ItemList) : Prop where
  items : ∀ item, item ∈ first.ids ↔ item ∈ second.ids
  unscored : first.scores = none ↔ second.scores = none
  level : ∀ item score other, first.scoreOf? item = some score →
    second.scoreOf? item = some other → Score.Level score other

section

variable {first second : ItemList}

/-- Scores that are moved together with their items stay the same. -/
theorem SameScores.of_perm (validFirst : first.Valid) (validSecond : second.Valid)
    {pairs others : List (ItemId × Float)} (given : first.pairs? = some pairs)
    (givenToo : second.pairs? = some others) (perm : pairs.Perm others) :
    SameScores first second where
  items item := by
    rw [← (validFirst.pairs_eq given).1, ← (validSecond.pairs_eq givenToo).1]
    exact (perm.map Prod.fst).mem_iff
  unscored := by
    rw [(validFirst.pairs_eq given).2, (validSecond.pairs_eq givenToo).2]
    exact iff_of_false (Option.some_ne_none _) (Option.some_ne_none _)
  level item score other scored scoredToo := by
    have moved : second.scoreOf? item = some score :=
      (validSecond.scoreOf?_eq_some_iff givenToo).mpr
        (perm.mem_iff.mp ((validFirst.scoreOf?_eq_some_iff given).mp scored))
    rw [Option.some.inj (moved.symm.trans scoredToo)]
    exact Score.level_iff_place.mpr rfl

theorem SameScores.contains (same : SameScores first second) :
    first.contains = second.contains := by
  funext item
  rw [ItemList.contains, ItemList.contains, Bool.eq_iff_iff, List.contains_iff_mem,
    List.contains_iff_mem]
  exact same.items item

theorem SameScores.perm (same : SameScores first second) (validFirst : first.Valid)
    (validSecond : second.Valid) : first.ids.Perm second.ids :=
  (List.perm_ext_iff_of_nodup validFirst.distinct validSecond.distinct).mpr same.items

end

end ItemList

namespace Metric

/-! ### Gains of a reference in any order -/

section

variable {first second : ItemList} {gain : Gain}

theorem isGain_referenceGains (reference : ItemList) :
    ∀ number ∈ referenceGains .double gain reference, Double.IsGain number := by
  intro number member
  unfold referenceGains at member
  split at member
  · obtain ⟨score, -, rfl⟩ := List.mem_map.mp member
    exact Double.isGain_positivePart score
  · obtain ⟨item, -, rfl⟩ := List.mem_map.mp member
    exact Double.isGain_one

theorem relevantPositions_reference_congr (contains : first.contains = second.contains)
    (position : Nat) (items : List ItemId) :
    relevantPositions first position items = relevantPositions second position items := by
  induction items generalizing position with
  | nil => rfl
  | cons item rest inductionHypothesis =>
    rw [relevantPositions, relevantPositions, contains, inductionHypothesis]

variable (same : first.SameScores second) (validFirst : first.Valid) (validSecond : second.Valid)

include same validFirst validSecond

theorem gainOf_reference_congr : gainOf .double gain first = gainOf .double gain second := by
  funext item
  by_cases member : item ∈ first.ids
  · have memberToo := (same.items item).mp member
    cases gain with
    | binary => rw [gainOf, gainOf, same.contains]
    | graded =>
      rw [gainOf_graded, gainOf_graded]
      by_cases unscored : first.scores = none
      · rw [ItemList.scoreOf?_of_unscored unscored,
          ItemList.scoreOf?_of_unscored (same.unscored.mp unscored)]
      · obtain ⟨score, scored⟩ := Option.ne_none_iff_exists'.mp
          ((ItemList.Keeps.refl validFirst).known unscored item member)
        obtain ⟨other, scoredToo⟩ := Option.ne_none_iff_exists'.mp
          ((ItemList.Keeps.refl validSecond).known (mt same.unscored.mpr unscored) item memberToo)
        rw [scored, scoredToo, Option.elim_some, Option.elim_some]
        exact Double.positivePart_of_level (same.level item score other scored scoredToo)
  · rw [gainOf_of_not_mem member, gainOf_of_not_mem (mt (same.items item).mpr member)]

/-- References that say the same offer the same gains. -/
theorem perm_referenceGains :
    (referenceGains .double gain first).Perm (referenceGains .double gain second) := by
  have perm := same.perm validFirst validSecond
  by_cases graded : gain = .graded → first.scores ≠ none
  · have gradedToo (isGraded : gain = .graded) : second.scores ≠ none :=
      mt same.unscored.mpr (graded isGraded)
    rw [← gainsOf_reference validFirst graded, ← gainsOf_reference validSecond gradedToo, gainsOf,
      gainsOf, gainOf_reference_congr same validFirst validSecond]
    exact perm.map _
  · -- Gains that cannot be read are counted by item; such a reference is refused beforehand.
    obtain ⟨rfl, unscored⟩ := Classical.not_imp.mp graded
    have unscored := not_not.mp unscored
    simp only [referenceGains, unscored, same.unscored.mp unscored]
    exact perm.map _

theorem cumulativeGain_reference_congr (list : ItemList) :
    cumulativeGain .double gain list first = cumulativeGain .double gain list second := by
  rw [cumulativeGain, cumulativeGain, gainOf_reference_congr same validFirst validSecond]

theorem idealGain_reference_congr (length : Option Nat) :
    idealGain .double gain length first = idealGain .double gain length second := by
  have offered : (referenceGains .double gain first).Perm (referenceGains .double gain second) :=
    perm_referenceGains same validFirst validSecond
  rw [idealGain, idealGain, idealGains, idealGains,
    Double.mergeSort_gains_eq_of_perm offered (isGain_referenceGains first)]

theorem normalizedGain_reference_congr (length : Option Nat) (list : ItemList) :
    normalizedGain .double gain length list first =
      normalizedGain .double gain length list second := by
  rw [normalizedGain, normalizedGain, gainShare, gainShare,
    cumulativeGain_reference_congr same validFirst validSecond,
    idealGain_reference_congr same validFirst validSecond]

end

end Metric

namespace RankingMetric

/-! ### Values -/

section

variable {first second : ItemList}

/-- Of a reference it only matters for a refusal whether it has scores. -/
theorem prepare_reference_congr (metric : RankingMetric) (recommended : ItemList)
    (unscored : first.scores = none ↔ second.scores = none) :
    metric.prepare recommended first = metric.prepare recommended second := by
  unfold prepare requireGains
  simp only [unscored]

variable (same : first.SameScores second) (validFirst : first.Valid) (validSecond : second.Valid)

include same validFirst validSecond

/-- A value is the same beside references that say the same. -/
theorem value_reference_congr (metric : RankingMetric) (list : ItemList) :
    metric.value .double list first = metric.value .double list second := by
  have contains := same.contains
  have perm := same.perm validFirst validSecond
  have size : first.size = second.size := perm.length_eq
  have empty : first.isEmpty = second.isEmpty := perm.isEmpty_eq
  obtain ⟨statistic, length⟩ := metric
  cases statistic with
  | hit => simp only [value, Metric.hit, contains]
  | precisionShare => simp only [value, Metric.precisionShare, Metric.relevantCount, contains]
  | recallShare =>
    simp only [value, Metric.recallShare, Metric.relevantCount, contains, size, empty]
  | reciprocalRank => simp only [value, Metric.reciprocalRank, contains]
  | cumulativeGain gain =>
    exact Metric.cumulativeGain_reference_congr same validFirst validSecond list
  | normalizedGain gain =>
    exact Metric.normalizedGain_reference_congr same validFirst validSecond length list
  | rankBiased patience normalized =>
    simp only [value, Metric.rankBiasedShare, Metric.rankBiased,
      Metric.relevantPositions_reference_congr contains, size]
  | meanPopularity ranks => rfl

theorem measure_reference_congr (metric : RankingMetric) (recommended : ItemList) :
    metric.measure .double recommended first = metric.measure .double recommended second := by
  have values := funext fun list =>
    value_reference_congr same validFirst validSecond metric list
  rw [measure, measure, prepare_reference_congr metric recommended same.unscored, values]

end

section

variable {Number : Type} {statistic : Statistic} {recommended other : ItemList}

/-- A statistic that asks for no ranking counts the items in any order. -/
theorem value_eq_of_perm (arithmetic : Arithmetic Number)
    (unranked : ¬ statistic.NeedsRanking) (perm : recommended.ids.Perm other.ids)
    (reference : ItemList) :
    (⟨statistic, none⟩ : RankingMetric).value arithmetic recommended reference =
      (⟨statistic, none⟩ : RankingMetric).value arithmetic other reference := by
  have size : recommended.size = other.size := perm.length_eq
  have empty : recommended.isEmpty = other.isEmpty := perm.isEmpty_eq
  cases statistic with
  | hit => simp only [value, Metric.hit, perm.any_eq]
  | precisionShare =>
    simp only [value, Metric.precisionShare, Metric.relevantCount, perm.countP_eq, size, empty]
  | recallShare => simp only [value, Metric.recallShare, Metric.relevantCount, perm.countP_eq]
  | meanPopularity ranks =>
    have ranked : total (recommended.ids.map (popularityRank ranks)) =
        total (other.ids.map (popularityRank ranks)) := (perm.map _).sum_eq
    simp only [value, meanPopularity, ranked, size]
  | _ => exact absurd trivial unranked

theorem measure_eq_of_perm (arithmetic : Arithmetic Number)
    (unranked : ¬ statistic.NeedsRanking) (perm : recommended.ids.Perm other.ids)
    (reference : ItemList) :
    (⟨statistic, none⟩ : RankingMetric).measure arithmetic recommended reference =
      (⟨statistic, none⟩ : RankingMetric).measure arithmetic other reference := by
  rw [measure_of_shown arithmetic (fun needs => absurd needs unranked) rfl,
    measure_of_shown arithmetic (fun needs => absurd needs unranked) rfl,
    refusal?_congr perm.isEmpty_eq, value_eq_of_perm arithmetic unranked perm]

end

/-! ### Order plays no part -/

/-- References that hold the same items with the same scores are measured against alike, whatever
their order, and so are recommendations in any order by a statistic that asks for no ranking and has
no length. -/
theorem measure_order_free :
    (∀ first second : ItemList, first.Valid → second.Valid → first.SameScores second →
      ∀ (metric : RankingMetric) (recommended : ItemList),
        metric.measure .double recommended first = metric.measure .double recommended second) ∧
    ∀ (statistic : Statistic) (recommended other reference : ItemList),
      ¬ statistic.NeedsRanking → recommended.ids.Perm other.ids →
        (⟨statistic, none⟩ : RankingMetric).measure .double recommended reference =
          (⟨statistic, none⟩ : RankingMetric).measure .double other reference :=
  ⟨fun _ _ validFirst validSecond same metric recommended =>
      measure_reference_congr same validFirst validSecond metric recommended,
    fun _ _ _ reference unranked perm => measure_eq_of_perm .double unranked perm reference⟩

/-- One reference is a ranking and the other is not. Among the scores are two that are equal, one
that is negative and one that is no number. -/
theorem measure_order_free_reversed :
    (⟨.normalizedGain .graded, some 2⟩ : RankingMetric).measure .double
        ⟨["c", "a"], none, none, true⟩
        ⟨["a", "b", "c", "d"], some [2.0, -1.0, 0.0 / 0.0, 2.0], none, false⟩ =
      (⟨.normalizedGain .graded, some 2⟩ : RankingMetric).measure .double
        ⟨["c", "a"], none, none, true⟩
        ⟨["d", "c", "b", "a"], some [2.0, 0.0 / 0.0, -1.0, 2.0], some [1, 2, 3, 4], true⟩ ∧
    (⟨.precisionShare, none⟩ : RankingMetric).measure .double
        ⟨["c", "a", "d"], none, none, true⟩ ⟨["a", "b"], none, none, false⟩ =
      (⟨.precisionShare, none⟩ : RankingMetric).measure .double
        ⟨["d", "a", "c"], none, none, false⟩ ⟨["a", "b"], none, none, false⟩ := by
  have first : ItemList.Valid
      ⟨["a", "b", "c", "d"], some [2.0, -1.0, 0.0 / 0.0, 2.0], none, false⟩ :=
    .of_ranksTo (by decide) (by simp) (Or.inl rfl)
  have second : ItemList.Valid
      ⟨["d", "c", "b", "a"], some [2.0, 0.0 / 0.0, -1.0, 2.0], some [1, 2, 3, 4], true⟩ :=
    .of_ranksTo (by decide) (by simp) (Or.inr rfl)
  have same := ItemList.SameScores.of_perm first second rfl rfl (List.reverse_perm _).symm
  exact ⟨measure_order_free.1 _ _ first second same ⟨.normalizedGain .graded, some 2⟩
      ⟨["c", "a"], none, none, true⟩,
    measure_order_free.2 .precisionShare ⟨["c", "a", "d"], none, none, true⟩
      ⟨["d", "a", "c"], none, none, false⟩ ⟨["a", "b"], none, none, false⟩ not_false
      (List.reverse_perm ["d", "a", "c"])⟩

end RankingMetric

end Holdout
