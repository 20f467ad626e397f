/-
This file says what graded gains make of the scores of a reference. Scores of one gain what
relevance alone does. A score that is no number, or not above zero, gains the positive zero, and so
does an item that is not in the reference at all. In the ideal ranking these gains come last, and
zeros at the end of a sum change nothing: it is the same double, or a zero before as after, of which
no share is taken.
-/

import Holdout.Proofs.Double.Shares
import Holdout.Proofs.Metric.EmptyReference
import Holdout.Proofs.Metric.Order

namespace Holdout

/-! ### Scores that gain nothing -/

/-- The score is no number, or not above zero. -/
def GainsNothing (score : Float) : Prop := score.isNaN = true ∨ score ≤ 0

theorem positivePart_of_gainsNothing {score : Float} (nothing : GainsNothing score) :
    Arithmetic.double.positivePart score = Float.ofNat 0 := by
  refine if_neg fun positive => ?_
  have above : 0 < score := of_decide_eq_true positive
  obtain ⟨isZero, isNumber⟩ := Score.isNaN_of_lt above
  rcases nothing with isNaN | notAbove
  · exact Bool.false_ne_true (isNumber.symm.trans isNaN)
  · rw [Score.lt_iff_height isZero isNumber] at above
    rw [Score.le_iff_height isNumber isZero] at notAbove
    exact absurd notAbove (not_le_of_gt above)

theorem positivePart_of_one {score : Float} (one : score = 1) :
    Arithmetic.double.positivePart score = Float.ofNat 1 := by
  rw [one]
  exact if_pos (decide_eq_true (Double.ofNat_pos Nat.one_pos))

namespace ItemList

/-- A list is left of a reference if items were taken out that gain nothing. The others keep their
scores; ranks, and whether the lists are rankings, play no part. -/
def LeftOf (left reference : ItemList) : Prop :=
  ∃ kept pairs, left.pairs? = some kept ∧ reference.pairs? = some pairs ∧ kept.Sublist pairs ∧
    ∀ pair ∈ pairs, pair ∉ kept → GainsNothing pair.2

/-- What is left of a reference and what was taken out of it make up the reference. -/
theorem LeftOf.exists_perm {left reference : ItemList} (leftOf : left.LeftOf reference)
    (valid : reference.Valid) : ∃ kept gone pairs, left.pairs? = some kept ∧
      reference.pairs? = some pairs ∧ pairs.Perm (kept ++ gone) ∧
        ∀ pair ∈ gone, GainsNothing pair.2 := by
  obtain ⟨kept, pairs, givenLeft, given, sublist, nothing⟩ := leftOf
  obtain ⟨gone, perm⟩ := sublist.exists_perm_append
  refine ⟨kept, gone, pairs, givenLeft, given, perm, fun pair member => ?_⟩
  have distinct : (pairs.map Prod.fst).Nodup := (valid.pairs_eq given).1 ▸ valid.distinct
  have apart := List.nodup_append.mp (perm.nodup_iff.mp distinct.of_map)
  exact nothing pair (perm.mem_iff.mpr (List.mem_append_right _ member)) fun isKept =>
    apart.2.2 pair isKept pair member rfl

/-- Taking items out that gain nothing leaves a list of the reference. -/
theorem leftOf_without {reference excluded : ItemList} {pairs : List (ItemId × Float)}
    (valid : reference.Valid) (given : reference.pairs? = some pairs)
    (nothing : ∀ item ∈ excluded.ids, ∀ score, reference.scoreOf? item = some score →
      GainsNothing score) : (reference.without excluded).LeftOf reference := by
  refine ⟨_, pairs, valid.pairs?_without given excluded, given, List.filter_sublist,
    fun pair member gone => ?_⟩
  rw [List.mem_filter, not_and, Bool.not_eq_true, Bool.not_eq_false', contains,
    List.contains_iff_mem] at gone
  exact nothing pair.1 (gone member) pair.2 ((valid.scoreOf?_eq_some_iff given).mpr member)

end ItemList

namespace Metric

open Arithmetic Double

/-! ### Zeros at the end of a sum -/

section

variable {discount : Nat → Float}

theorem discounted_append {Number : Type} (arithmetic : Arithmetic Number) (rank : Nat)
    (first second : List Number) :
    arithmetic.discounted rank (first ++ second) =
      arithmetic.discounted rank first ++ arithmetic.discounted (rank + first.length) second := by
  induction first generalizing rank with
  | nil => rfl
  | cons number rest inductionHypothesis =>
    rw [List.cons_append, discounted, discounted, inductionHypothesis, List.length_cons,
      Nat.add_right_comm, Nat.add_assoc rank, List.cons_append]

/-- Once a sum is something else than zero, zeros change nothing. -/
theorem foldl_of_isZero {terms : List Float} {sum : Float} (something : ¬ IsZero sum)
    (zeros : ∀ term ∈ terms, IsZero term) :
    terms.foldl (fun first second => first + second) sum = sum := by
  induction terms with
  | nil => rfl
  | cons term rest inductionHypothesis =>
    rw [List.forall_mem_cons] at zeros
    rw [List.foldl_cons, add_of_isZero something zeros.1, inductionHypothesis zeros.2]

/-- Zeros at the end of a sum leave it as it is, unless it is a zero and becomes the other one. -/
theorem sum_append_zeros (terms : List Float) {zeros : List Float}
    (areZeros : ∀ term ∈ zeros, IsZero term) :
    (doubleWith discount).sum (terms ++ zeros) = (doubleWith discount).sum terms ∨
      IsZero ((doubleWith discount).sum (terms ++ zeros)) ∧
        IsZero ((doubleWith discount).sum terms) := by
  have joined : (doubleWith discount).sum (terms ++ zeros) =
      zeros.foldl (fun first second => first + second) ((doubleWith discount).sum terms) :=
    List.foldl_append
  rw [joined]
  by_cases zero : IsZero ((doubleWith discount).sum terms)
  · exact Or.inr ⟨isZero_foldl zero areZeros, zero⟩
  · exact Or.inl (foldl_of_isZero zero areZeros)

end

/-! ### Zeros among the gains -/

theorem pairwise_mergeSort_gains {gains : List Float} (areGains : ∀ gain ∈ gains, IsGain gain) :
    (gains.mergeSort fun first second => double.atMost second first).Pairwise fun first second =>
      double.atMost second first = true := by
  have falls : (gains.mergeSort fun first second => double.atMost second first).Pairwise
      fun first second => Score.height second ≤ Score.height first := by
    rw [mergeSort_gains areGains]
    exact Sorting.ascending_mergeSort falls_iff_dual gains
  refine falls.imp_of_mem fun first second below => ?_
  have number {gain : Float} (member : gain ∈ gains.mergeSort fun first second =>
      double.atMost second first) : gain.isNaN = false :=
    (areGains gain (List.mem_mergeSort.mp member)).isNaN
  exact (atMost_iff_height (number second) (number first)).mpr below

/-- Gains of zero come last in falling order. -/
theorem mergeSort_append_zeros {gains : List Float} (areGains : ∀ gain ∈ gains, IsGain gain)
    (count : Nat) :
    ((gains ++ List.replicate count (Float.ofNat 0)).mergeSort fun first second =>
        double.atMost second first) =
      (gains.mergeSort fun first second => double.atMost second first) ++
        List.replicate count (Float.ofNat 0) := by
  have areGainsToo : ∀ gain ∈ gains ++ List.replicate count (Float.ofNat 0), IsGain gain := by
    intro gain member
    rcases List.mem_append.mp member with offered | zero
    · exact areGains gain offered
    · exact Or.inl (List.eq_of_mem_replicate zero)
  have perm := (List.mergeSort_perm gains fun first second => double.atMost second first).symm
    |>.append_right (List.replicate count (Float.ofNat 0))
  rw [mergeSort_gains_eq_of_perm perm areGainsToo]
  refine List.mergeSort_of_pairwise (List.pairwise_append.mpr
    ⟨pairwise_mergeSort_gains areGains, ?_, fun gain member zero isZero => ?_⟩)
  · exact List.pairwise_replicate.mpr (Or.inr (isZero_ofNat.atMost isZero_ofNat))
  · rw [List.eq_of_mem_replicate isZero]
    rcases areGains gain (List.mem_mergeSort.mp member) with rfl | positive
    · exact isZero_ofNat.atMost isZero_ofNat
    · exact atMost_of_lt positive

theorem cut_append_replicate {Element : Type} (length : Option Nat) (elements : List Element)
    (count : Nat) (last : Element) :
    ∃ fewer, ItemList.cut length (elements ++ List.replicate count last) =
      ItemList.cut length elements ++ List.replicate fewer last := by
  cases length with
  | none => exact ⟨count, rfl⟩
  | some limit =>
    refine ⟨min (limit - elements.length) count, ?_⟩
    rw [ItemList.cut, List.take_append, List.take_replicate]
    rfl

section

variable {discount : Nat → Float} {left reference : ItemList}

/-- Scored items offer the gains of their scores. -/
theorem referenceGains_graded {pairs : List (ItemId × Float)} (valid : reference.Valid)
    (given : reference.pairs? = some pairs) :
    referenceGains double .graded reference =
      pairs.map fun pair => double.positivePart pair.2 := by
  simp only [referenceGains, (valid.pairs_eq given).2, List.map_map]
  rfl

variable (validLeft : left.Valid) (valid : reference.Valid) (leftOf : left.LeftOf reference)

include validLeft valid leftOf

theorem gainOf_of_leftOf :
    gainOf (doubleWith discount) .graded left = gainOf (doubleWith discount) .graded reference := by
  obtain ⟨kept, pairs, givenLeft, given, sublist, nothing⟩ := leftOf
  have inLeft {item : ItemId} {score : Float} :
      left.scoreOf? item = some score ↔ (item, score) ∈ kept :=
    validLeft.scoreOf?_eq_some_iff givenLeft
  have inReference {item : ItemId} {score : Float} :
      reference.scoreOf? item = some score ↔ (item, score) ∈ pairs :=
    valid.scoreOf?_eq_some_iff given
  funext item
  rw [gainOf_graded, gainOf_graded]
  cases found : left.scoreOf? item with
  | some score => rw [inReference.mpr (sublist.subset (inLeft.mp found))]
  | none =>
    cases foundToo : reference.scoreOf? item with
    | none => rfl
    | some score =>
      have gone : (item, score) ∉ kept := fun member => by
        rw [inLeft.mpr member] at found
        cases found
      exact (positivePart_of_gainsNothing (nothing _ (inReference.mp foundToo) gone)).symm

/-- The reference offers what is left of it, and zeros. -/
theorem perm_referenceGains_of_leftOf : ∃ count, (referenceGains double .graded reference).Perm
    (referenceGains double .graded left ++ List.replicate count (Float.ofNat 0)) := by
  obtain ⟨kept, gone, pairs, givenLeft, given, perm, nothing⟩ := leftOf.exists_perm valid
  have zeros : gone.map (fun pair => double.positivePart pair.2) =
      List.replicate gone.length (Float.ofNat 0) :=
    List.map_eq_replicate_iff.mpr fun pair member =>
      positivePart_of_gainsNothing (nothing pair member)
  refine ⟨gone.length, ?_⟩
  rw [referenceGains_graded valid given, referenceGains_graded validLeft givenLeft, ← zeros,
    ← List.map_append]
  exact perm.map _

/-- The ideal is the same, or nothing before as after. -/
theorem idealGain_of_leftOf (discounts : ∀ rank, 1 ≤ rank → 0 < discount rank)
    (length : Option Nat) :
    idealGain (doubleWith discount) .graded length reference =
        idealGain (doubleWith discount) .graded length left ∨
      IsZero (idealGain (doubleWith discount) .graded length reference) ∧
        IsZero (idealGain (doubleWith discount) .graded length left) := by
  obtain ⟨count, perm⟩ := perm_referenceGains_of_leftOf validLeft valid leftOf
  obtain ⟨fewer, ends⟩ := cut_append_replicate length
    ((referenceGains double .graded left).mergeSort fun first second => double.atMost second first)
    count (Float.ofNat 0)
  have ideal : idealGains (doubleWith discount) .graded length reference =
      idealGains (doubleWith discount) .graded length left ++
        List.replicate fewer (Float.ofNat 0) := by
    rw [← mergeSort_append_zeros (isGain_referenceGains left),
      ← mergeSort_gains_eq_of_perm perm (isGain_referenceGains reference)] at ends
    exact ends
  rw [idealGain, idealGain, ideal, discounted_append]
  refine sum_append_zeros _ (isZero_discounted discounts (by omega) fun number member => ?_)
  rw [List.eq_of_mem_replicate member]
  exact isZero_ofNat

theorem normalizedGain_of_leftOf (discounts : ∀ rank, 1 ≤ rank → 0 < discount rank)
    (length : Option Nat) (list : ItemList) :
    normalizedGain (doubleWith discount) .graded length list left =
      normalizedGain (doubleWith discount) .graded length list reference := by
  rw [normalizedGain, normalizedGain, gainShare, gainShare, cumulativeGain, cumulativeGain,
    gainOf_of_leftOf validLeft valid leftOf]
  rcases idealGain_of_leftOf validLeft valid leftOf discounts length with same | ⟨zero, zeroLeft⟩
  · rw [same]
  · have atMost {number : Float} (zero : IsZero number) :
        (doubleWith discount).atMost number ((doubleWith discount).ofNat 0) = true :=
      zero.atMost isZero_ofNat
    rw [if_pos (atMost zero), if_pos (atMost zeroLeft)]

end

/-! ### Scores of one -/

section

variable {discount : Nat → Float} {reference : ItemList} {scores : List Float}
variable (valid : reference.Valid) (given : reference.scores = some scores)
variable (ones : ∀ score ∈ scores, score = 1)

include valid given ones

theorem gainOf_of_ones : gainOf (doubleWith discount) .graded reference =
    gainOf (doubleWith discount) .binary reference := by
  funext item
  by_cases member : item ∈ reference.ids
  · have scored : reference.scoreOf? item ∈ reference.ids.map reference.scoreOf? :=
      List.mem_map_of_mem member
    rw [map_scoreOf? valid given] at scored
    obtain ⟨score, isScore, found⟩ := List.mem_map.mp scored
    rw [gainOf_graded, ← found, Option.elim_some, gainOf, ItemList.contains,
      List.contains_iff_mem.mpr member, if_pos rfl]
    exact positivePart_of_one (ones score isScore)
  · rw [gainOf_of_not_mem member, gainOf_of_not_mem member]

theorem referenceGains_of_ones : referenceGains (doubleWith discount) .graded reference =
    referenceGains (doubleWith discount) .binary reference := by
  have offered : scores.map (fun score => double.positivePart score) =
      List.replicate scores.length (Float.ofNat 1) :=
    List.map_eq_replicate_iff.mpr fun score member => positivePart_of_one (ones score member)
  have counted : reference.ids.map (fun _ => Float.ofNat 1) =
      List.replicate scores.length (Float.ofNat 1) := by
    rw [List.map_const', valid.scored scores given]
  simp only [referenceGains, given]
  exact offered.trans counted.symm

theorem cumulativeGain_of_ones (list : ItemList) :
    cumulativeGain (doubleWith discount) .graded list reference =
      cumulativeGain (doubleWith discount) .binary list reference := by
  rw [cumulativeGain, cumulativeGain, gainOf_of_ones valid given ones]

theorem normalizedGain_of_ones (length : Option Nat) (list : ItemList) :
    normalizedGain (doubleWith discount) .graded length list reference =
      normalizedGain (doubleWith discount) .binary length list reference := by
  have ideal : idealGain (doubleWith discount) .graded length reference =
      idealGain (doubleWith discount) .binary length reference := by
    rw [idealGain, idealGain, idealGains, idealGains, referenceGains_of_ones valid given ones]
  rw [normalizedGain, normalizedGain, gainShare, gainShare,
    cumulativeGain_of_ones valid given ones, ideal]

end

end Metric

namespace RankingMetric

open Arithmetic

/-! ### What is measured -/

/-- The statistics that read gains. -/
def gainStatistics : List (Gain → Statistic) := [.cumulativeGain, .normalizedGain]

section

variable {discount : Nat → Float} {statistic : Gain → Statistic} {length : Option Nat}
variable {recommended reference left : ItemList} (readsGains : statistic ∈ gainStatistics)

include readsGains

/-- A reference with scores is refused for the same reason whatever its gains are. -/
theorem prepare_graded (scored : reference.scores ≠ none) :
    (⟨statistic .graded, length⟩ : RankingMetric).prepare recommended reference =
      (⟨statistic .binary, length⟩ : RankingMetric).prepare recommended reference := by
  have passes (label : String) (gain : Gain) : requireGains label gain reference = .ok () :=
    if_neg fun refused => scored refused.2
  rcases List.mem_pair.mp readsGains with rfl | rfl <;>
    simp only [prepare, passes, label, name]

theorem measure_of_ones (valid : reference.Valid) {scores : List Float}
    (given : reference.scores = some scores) (ones : ∀ score ∈ scores, score = 1) :
    (⟨statistic .graded, length⟩ : RankingMetric).measure (doubleWith discount) recommended
        reference =
      (⟨statistic .binary, length⟩ : RankingMetric).measure (doubleWith discount) recommended
        reference := by
  rw [measure, measure, prepare_graded readsGains (by rw [given]; exact Option.some_ne_none _)]
  congr 1
  funext list
  rcases List.mem_pair.mp readsGains with rfl | rfl
  · exact Metric.cumulativeGain_of_ones valid given ones list
  · exact Metric.normalizedGain_of_ones valid given ones length list

theorem measure_of_leftOf (validLeft : left.Valid) (valid : reference.Valid)
    (leftOf : left.LeftOf reference)
    (discounts : statistic = .normalizedGain → ∀ rank, 1 ≤ rank → 0 < discount rank) :
    (⟨statistic .graded, length⟩ : RankingMetric).measure (doubleWith discount) recommended left =
      (⟨statistic .graded, length⟩ : RankingMetric).measure (doubleWith discount) recommended
        reference := by
  have unscored : left.scores = none ↔ reference.scores = none := by
    obtain ⟨kept, pairs, givenLeft, given, -⟩ := leftOf
    rw [(validLeft.pairs_eq givenLeft).2, (valid.pairs_eq given).2]
    exact iff_of_false (Option.some_ne_none _) (Option.some_ne_none _)
  rw [measure, measure, prepare_reference_congr _ recommended unscored]
  congr 1
  funext list
  rcases List.mem_pair.mp readsGains with rfl | rfl
  · show Metric.cumulativeGain _ _ _ _ = Metric.cumulativeGain _ _ _ _
    rw [Metric.cumulativeGain, Metric.cumulativeGain,
      Metric.gainOf_of_leftOf validLeft valid leftOf]
  · exact Metric.normalizedGain_of_leftOf validLeft valid leftOf (discounts rfl) length list

end

/-- What graded gains make of the scores of a reference. -/
structure GradesByScore (statistic : Gain → Statistic) (length : Option Nat)
    (recommended : ItemList) : Prop where
  /-- Scores of one are as good as none: the value is that of relevance alone, and so is the
  error. -/
  ones : ∀ discount (reference : ItemList) scores, reference.Valid →
    reference.scores = some scores → (∀ score ∈ scores, score = 1) →
    (⟨statistic .graded, length⟩ : RankingMetric).measure (doubleWith discount) recommended
        reference =
      (⟨statistic .binary, length⟩ : RankingMetric).measure (doubleWith discount) recommended
        reference
  /-- Items whose scores gain nothing can be taken out of the reference, any of them or all. Only
  the ideal asks for positive discounts, since it divides the zeros of these items by them. -/
  leftOf : ∀ discount, (statistic = .normalizedGain → ∀ rank, 1 ≤ rank → 0 < discount rank) →
    ∀ reference left : ItemList, reference.Valid → left.Valid → left.LeftOf reference →
    (⟨statistic .graded, length⟩ : RankingMetric).measure (doubleWith discount) recommended left =
      (⟨statistic .graded, length⟩ : RankingMetric).measure (doubleWith discount) recommended
        reference
  /-- So can they by the view that takes items out. -/
  without : ∀ discount, (statistic = .normalizedGain → ∀ rank, 1 ≤ rank → 0 < discount rank) →
    ∀ reference excluded : ItemList, reference.Valid → reference.scores ≠ none →
    (∀ item ∈ excluded.ids, ∀ score, reference.scoreOf? item = some score →
      GainsNothing score) →
    (⟨statistic .graded, length⟩ : RankingMetric).measure (doubleWith discount) recommended
        (reference.without excluded) =
      (⟨statistic .graded, length⟩ : RankingMetric).measure (doubleWith discount) recommended
        reference

/-- Graded gains of one are relevance, and only scores above zero count: without the items that
have others the values and the errors are the same. -/
theorem graded_by_scores {statistic : Gain → Statistic} (readsGains : statistic ∈ gainStatistics)
    (length : Option Nat) (recommended : ItemList) :
    GradesByScore statistic length recommended where
  ones := fun _ _ _ valid given ones => measure_of_ones readsGains valid given ones
  leftOf := fun _ discounts _ _ valid validLeft leftOf =>
    measure_of_leftOf readsGains validLeft valid leftOf discounts
  without := by
    intro discount discounts reference excluded valid scored nothing
    obtain ⟨scores, given⟩ := Option.ne_none_iff_exists'.mp scored
    have givenPairs : reference.pairs? = some (reference.ids.zip scores) := by
      rw [ItemList.pairs?, given, Option.map_some]
    exact measure_of_leftOf readsGains (ItemList.valid_without excluded valid) valid
      (ItemList.leftOf_without valid givenPairs nothing) discounts

/-- The discounts of the first three ranks, which are the binary logarithms of two, three and four
as doubles. Later ranks count like the third. -/
def earlyDiscount : Nat → Float
  | 0 | 1 => 1
  | 2 => 1.584962500721156
  | _ => 2

theorem earlyDiscount_pos (rank : Nat) : 0 < earlyDiscount rank := by
  unfold earlyDiscount
  split <;> decide

/-- The reference loses a score that is no number and one below zero, and keeps a zero. -/
theorem graded_by_scores_mixed :
    (⟨.normalizedGain .graded, some 2⟩ : RankingMetric).measure double
        ⟨["c", "a"], none, none, true⟩ ⟨["a", "b"], some [1, 1], none, false⟩ =
      (⟨.normalizedGain .binary, some 2⟩ : RankingMetric).measure double
        ⟨["c", "a"], none, none, true⟩ ⟨["a", "b"], some [1, 1], none, false⟩ ∧
    (⟨.normalizedGain .graded, some 2⟩ : RankingMetric).measure (doubleWith earlyDiscount)
        ⟨["c", "a"], none, none, true⟩ ⟨["a", "d"], some [2, 0], none, false⟩ =
      (⟨.normalizedGain .graded, some 2⟩ : RankingMetric).measure (doubleWith earlyDiscount)
        ⟨["c", "a"], none, none, true⟩
        ⟨["a", "b", "c", "d"], some [2, 0.0 / 0.0, -1, 0], none, false⟩ := by
  have graded := @graded_by_scores .normalizedGain (by simp [gainStatistics]) (some 2)
    ⟨["c", "a"], none, none, true⟩
  have valid : ItemList.Valid ⟨["a", "b", "c", "d"], some [2, 0.0 / 0.0, -1, 0], none, false⟩ :=
    .of_ranksTo (by decide) (by simp) (Or.inl rfl)
  refine ⟨graded.ones double.discount ⟨["a", "b"], some [1, 1], none, false⟩ [1, 1]
    (.of_ranksTo (by decide) (by simp) (Or.inl rfl)) rfl (by simp), ?_⟩
  have left : ItemList.without ⟨["a", "b", "c", "d"], some [2, 0.0 / 0.0, -1, 0], none, false⟩
      ⟨["b", "c"], none, none, false⟩ = ⟨["a", "d"], some [2, 0], none, false⟩ := rfl
  rw [← left]
  refine graded.without earlyDiscount (fun _ rank _ => earlyDiscount_pos rank) _ _ valid
    (Option.some_ne_none _) ?_
  simp only [List.forall_mem_cons]
  refine ⟨?_, ?_, by simp⟩
  · rintro score found
    obtain rfl := Option.some.inj found
    exact Or.inl rfl
  · rintro score found
    obtain rfl := Option.some.inj found
    exact Or.inr (by decide)

end RankingMetric

end Holdout
