/-
This file proves that the normalized gain needs no clamp. The gain of an item by itself and the
gains that the reference list offers are the same numbers, so what is recommended, each item once,
never gains more than as many of the greatest gains; and what is gained later counts for less. Over
exact numbers the share of the ideal is thus between zero and one, and it is one exactly if at every
rank the greatest gain that is left was recommended.
-/

import Holdout.Proofs.ItemList.History
import Holdout.Proofs.Metric.Exact
import Holdout.Proofs.Metric.Measurable
import Holdout.Proofs.Sorting

namespace Holdout

namespace Metric

/-! ### Gains by item and by list -/

section

variable {Number : Type} {arithmetic : Arithmetic Number} {gain : Gain} {reference : ItemList}

/-- The gain of each of some items. -/
def gainsOf (arithmetic : Arithmetic Number) (gain : Gain) (reference : ItemList)
    (items : List ItemId) : List Number :=
  items.map (gainOf arithmetic gain reference)

/-- Reading the scores of distinct items one by one gives the scores. -/
theorem map_scoreOf? (valid : reference.Valid) {scores : List Float}
    (given : reference.scores = some scores) :
    reference.ids.map reference.scoreOf? = scores.map some := by
  have same := valid.scored scores given
  refine List.ext_getElem (by simp [same]) fun position within _ => ?_
  have inside : position < reference.ids.length := by simpa using within
  rw [List.getElem_map, List.getElem_map, ItemList.scoreOf?, ItemList.pairs?, given,
    Option.map_some, Option.bind_some, ItemList.lookup_zip same,
    valid.distinct.idxOf_getElem position inside]
  exact List.getElem?_eq_getElem (same ▸ inside)

theorem gainOf_graded (item : ItemId) :
    gainOf arithmetic .graded reference item =
      (reference.scoreOf? item).elim (arithmetic.ofNat 0) fun score =>
        arithmetic.positivePart (arithmetic.ofFloat score) := by
  rw [gainOf]
  cases reference.scoreOf? item <;> rfl

/-- The gains of the items of the reference are the gains that it offers. -/
theorem gainsOf_reference (valid : reference.Valid)
    (graded : gain = .graded → reference.scores ≠ none) :
    gainsOf arithmetic gain reference reference.ids =
      referenceGains arithmetic gain reference := by
  cases gain with
  | binary =>
    refine List.map_congr_left fun item member => ?_
    simp [gainOf, ItemList.contains, member]
  | graded =>
    obtain ⟨scores, given⟩ := Option.ne_none_iff_exists'.mp (graded rfl)
    have read := congrArg (List.map fun score? => score?.elim (arithmetic.ofNat 0) fun score =>
      arithmetic.positivePart (arithmetic.ofFloat score)) (map_scoreOf? valid given)
    rw [List.map_map, List.map_map] at read
    simp only [referenceGains, given, gainsOf, funext gainOf_graded]
    exact read

/-- An item that is not in the reference gains nothing. -/
theorem gainOf_of_not_mem {item : ItemId} (absent : item ∉ reference.ids) :
    gainOf arithmetic gain reference item = arithmetic.ofNat 0 := by
  cases gain with
  | binary => simp [gainOf, ItemList.contains, absent]
  | graded =>
    have unscored : reference.scoreOf? item = none := by
      cases given : reference.scores with
      | none => simp [ItemList.scoreOf?, ItemList.pairs?, given]
      | some scores =>
        simp only [ItemList.scoreOf?, ItemList.pairs?, given, Option.map_some, Option.bind_some]
        refine List.lookup_eq_none_iff.mpr fun pair member => bne_iff_ne.mpr fun same => ?_
        exact absent (same ▸ (List.of_mem_zip member).1)
    rw [gainOf_graded, unscored, Option.elim_none]

end

/-! ### What is measured -/

theorem prepare_normalizedGain {gain : Gain} {length : Option Nat}
    {recommended reference : ItemList} (ordered : recommended.ordered = true)
    (lengthy : length ≠ some 0) (graded : gain = .graded → reference.scores ≠ none) :
    ∃ list, (⟨.normalizedGain gain, length⟩ : RankingMetric).prepare recommended reference =
        .ok list ∧ list.ids = ItemList.cut length recommended.ids :=
  prepare_of_ordered trivial lengthy ordered graded

/-! ### Gains over exact numbers -/

section

open Arithmetic

variable {K : Type} [Field K] [LinearOrder K]
variable {value : Float → K} {discount : Nat → K} {gain : Gain}
variable {recommended list reference : ItemList} {length : Option Nat}

theorem perm_idealGains (valid : reference.Valid)
    (graded : gain = .graded → reference.scores ≠ none) :
    (idealGains (exact value discount) gain none reference).Perm
      (gainsOf (exact value discount) gain reference reference.ids) := by
  rw [gainsOf_reference valid graded]
  exact List.mergeSort_perm _ _

theorem pairwise_idealGains :
    (idealGains (exact value discount) gain none reference).Pairwise (· ≥ ·) := by
  have compares (first second : K) :
      decide (second ≤ first) = true ↔ OrderDual.toDual first ≤ OrderDual.toDual second :=
    decide_eq_true_iff
  exact Sorting.ascending_mergeSort compares _

/-- There is one way only to put the gains of the reference in falling order. -/
theorem idealGains_eq (valid : reference.Valid)
    (graded : gain = .graded → reference.scores ≠ none) {sorted : List K}
    (perm : sorted.Perm (gainsOf (exact value discount) gain reference reference.ids))
    (falling : sorted.Pairwise (· ≥ ·)) :
    idealGains (exact value discount) gain length reference = ItemList.cut length sorted :=
  congrArg (ItemList.cut length) <|
    ((perm_idealGains valid graded).trans perm.symm).eq_of_pairwise
      (fun _ _ _ _ before after => le_antisymm after before) pairwise_idealGains falling

theorem gainsOf_cut (ids : list.ids = ItemList.cut length recommended.ids) :
    gainsOf (exact value discount) gain reference list.ids =
      ItemList.cut length (gainsOf (exact value discount) gain reference recommended.ids) := by
  rw [ids]
  exact ItemList.map_cut length _ _

theorem cumulativeGain_exact :
    cumulativeGain (exact value discount) gain list reference =
      weigh discount 1 (gainsOf (exact value discount) gain reference list.ids) :=
  sum_discounted 1 _

theorem idealGain_exact :
    idealGain (exact value discount) gain length reference =
      weigh discount 1 (idealGains (exact value discount) gain length reference) :=
  sum_discounted 1 _

theorem normalizedGain_of_nothing
    (nothing : idealGain (exact value discount) gain length reference = 0) :
    normalizedGain (exact value discount) gain length list reference = 0 := by
  have atMost : (exact value discount).atMost
      (idealGain (exact value discount) gain length reference)
      ((exact value discount).ofNat 0) = true :=
    decide_eq_true (nothing.trans Nat.cast_zero.symm).le
  rw [normalizedGain, if_pos atMost]
  exact Nat.cast_zero

theorem normalizedGain_of_bounded
    (something : 0 < idealGain (exact value discount) gain length reference)
    (nonneg : 0 ≤ gainShare (exact value discount) gain length list reference)
    (atMostOne : gainShare (exact value discount) gain length list reference ≤ 1) :
    normalizedGain (exact value discount) gain length list reference =
      gainShare (exact value discount) gain length list reference := by
  have more : ¬ (exact value discount).atMost
      (idealGain (exact value discount) gain length reference)
      ((exact value discount).ofNat 0) = true := fun atMost =>
    something.not_ge ((of_decide_eq_true atMost).trans_eq Nat.cast_zero)
  rw [normalizedGain, if_neg more, clamp_exact nonneg atMostOne]

variable [IsStrictOrderedRing K]

theorem nonneg_gainsOf (items : List ItemId) :
    ∀ one ∈ gainsOf (exact value discount) gain reference items, 0 ≤ one := by
  intro one member
  obtain ⟨item, -, rfl⟩ := List.mem_map.mp member
  cases gain with
  | binary => exact Nat.cast_nonneg _
  | graded =>
    rw [gainOf_graded]
    cases reference.scoreOf? item with
    | none => exact Nat.cast_nonneg _
    | some score => exact (le_max_right _ _).trans_eq (positivePart_exact _).symm

theorem nonneg_idealGains (valid : reference.Valid)
    (graded : gain = .graded → reference.scores ≠ none) :
    ∀ one ∈ idealGains (exact value discount) gain length reference, 0 ≤ one := by
  intro one member
  have sorted : one ∈ idealGains (exact value discount) gain none reference := by
    cases length with
    | none => exact member
    | some count => exact List.mem_of_mem_take member
  exact nonneg_gainsOf _ _ ((perm_idealGains valid graded).mem_iff.mp sorted)

/-- Of the recommended items only those in the reference gain anything, and each is there once. -/
theorem dominated_gainsOf {items : List ItemId} (distinct : items.Nodup) {sorted : List K}
    (perm : sorted.Perm (gainsOf (exact value discount) gain reference reference.ids))
    (falling : sorted.Pairwise (· ≥ ·)) :
    Dominated (gainsOf (exact value discount) gain reference items) sorted := by
  intro count
  let worth := gainOf (exact value discount) gain reference
  let found := (items.take count).filter (· ∈ reference.ids)
  have lost : (((items.take count).filter (¬ · ∈ reference.ids)).map worth).sum = 0 := by
    refine List.sum_eq_zero fun term member => ?_
    obtain ⟨item, kept, rfl⟩ := List.mem_map.mp member
    have absent : item ∉ reference.ids := of_decide_eq_true (List.mem_filter.mp kept).2
    exact (gainOf_of_not_mem absent).trans Nat.cast_zero
  have subperm : (found.map worth).Subperm (reference.ids.map worth) := by
    have once : found.Nodup := (distinct.sublist (List.take_sublist _ _)).filter _
    obtain ⟨part, same, sublist⟩ := List.subperm_of_subset once fun item member =>
      of_decide_eq_true (List.mem_filter.mp member).2
    exact ⟨part.map worth, same.map worth, sublist.map worth⟩
  have few : (found.map worth).length ≤ count := by
    rw [List.length_map]
    exact (List.length_filter_le _ _).trans (List.length_take_le _ _)
  calc ((items.map worth).take count).sum
      = ((items.take count).map worth).sum := by rw [List.map_take]
    _ = (found.map worth).sum := by
      rw [← List.sum_map_filter_add_sum_map_filter_not (· ∈ reference.ids), lost, add_zero]
    _ ≤ (sorted.take count).sum := sum_le_of_subperm falling perm (nonneg_gainsOf _) subperm few

section

variable (distinct : recommended.Valid) (valid : reference.Valid)
variable (graded : gain = .graded → reference.scores ≠ none)
variable (ids : list.ids = ItemList.cut length recommended.ids)

include distinct valid graded ids

theorem dominated_idealGains :
    Dominated (gainsOf (exact value discount) gain reference list.ids)
      (idealGains (exact value discount) gain length reference) := by
  rw [gainsOf_cut ids]
  exact (dominated_gainsOf distinct.distinct (perm_idealGains valid graded)
    pairwise_idealGains).cut length

theorem cumulativeGain_le_idealGain (discounts : Discounts discount) :
    cumulativeGain (exact value discount) gain list reference ≤
      idealGain (exact value discount) gain length reference := by
  rw [cumulativeGain_exact, idealGain_exact]
  exact (dominated_idealGains distinct valid graded ids).weigh_le discounts.mild (le_refl 1)
    (nonneg_idealGains valid graded)

theorem gainShare_eq_one_iff (discounts : Discounts discount)
    (something : 0 < idealGain (exact value discount) gain length reference) {sorted : List K}
    (perm : sorted.Perm (gainsOf (exact value discount) gain reference reference.ids))
    (falling : sorted.Pairwise (· ≥ ·)) :
    gainShare (exact value discount) gain length list reference = 1 ↔
      ∀ position, (∀ count ∈ length, position < count) →
        (gainsOf (exact value discount) gain reference recommended.ids).getD position 0 =
          sorted.getD position 0 :=
  calc gainShare (exact value discount) gain length list reference = 1
      ↔ cumulativeGain (exact value discount) gain list reference =
          idealGain (exact value discount) gain length reference :=
        div_eq_one_iff_eq something.ne'
    _ ↔ ∀ position, (gainsOf (exact value discount) gain reference list.ids).getD position 0 =
          (idealGains (exact value discount) gain length reference).getD position 0 := by
        rw [cumulativeGain_exact, idealGain_exact]
        exact (dominated_idealGains distinct valid graded ids).weigh_eq_iff discounts (le_refl 1)
          (nonneg_gainsOf _) (nonneg_idealGains valid graded)
    _ ↔ _ := by
        rw [gainsOf_cut ids, idealGains_eq valid graded perm falling]
        exact getD_cut length

end

/-! ### The share of the ideal -/

/-- What a ranking gains, weighed exactly, next to what the reference has to offer. -/
structure WithinIdeal (arithmetic : Arithmetic K) (gain : Gain) (length : Option Nat)
    (recommended list reference : ItemList) : Prop where
  nonneg : 0 ≤ cumulativeGain arithmetic gain list reference
  atMostIdeal : cumulativeGain arithmetic gain list reference ≤
    idealGain arithmetic gain length reference
  /-- A reference that offers nothing gives zero. -/
  nothing : idealGain arithmetic gain length reference = 0 →
    (⟨.normalizedGain gain, length⟩ : RankingMetric).measure arithmetic recommended reference =
      .ok 0
  shareNonneg : 0 ≤ gainShare arithmetic gain length list reference
  shareAtMostOne : gainShare arithmetic gain length list reference ≤ 1
  /-- The share of what is offered is measured as it is. -/
  unclamped : 0 < idealGain arithmetic gain length reference →
    (⟨.normalizedGain gain, length⟩ : RankingMetric).measure arithmetic recommended reference =
      .ok (gainShare arithmetic gain length list reference)
  /-- The share is all of it exactly if at every position that counts stands the greatest gain that
  is left, where past an end nothing is gained. -/
  perfect : 0 < idealGain arithmetic gain length reference → ∀ sorted : List K,
    sorted.Perm (gainsOf arithmetic gain reference reference.ids) → sorted.Pairwise (· ≥ ·) →
    (gainShare arithmetic gain length list reference = 1 ↔
      ∀ position, (∀ count ∈ length, position < count) →
        (gainsOf arithmetic gain reference recommended.ids).getD position 0 =
          sorted.getD position 0)

/-- The normalized gain of every ranking is defined, and the clamp leaves it as it is. -/
theorem normalizedGain_unclamped (discounts : Discounts discount) (distinct : recommended.Valid)
    (valid : reference.Valid) (ordered : recommended.ordered = true) (lengthy : length ≠ some 0)
    (graded : gain = .graded → reference.scores ≠ none) :
    ∃ list, (⟨.normalizedGain gain, length⟩ : RankingMetric).prepare recommended reference =
        .ok list ∧ list.ids = ItemList.cut length recommended.ids ∧
      WithinIdeal (exact value discount) gain length recommended list reference := by
  obtain ⟨list, prepares, ids⟩ := prepare_normalizedGain ordered lengthy graded
  have measures : (⟨.normalizedGain gain, length⟩ : RankingMetric).measure (exact value discount)
      recommended reference =
        .ok (normalizedGain (exact value discount) gain length list reference) := by
    rw [RankingMetric.measure, prepares]
    rfl
  have nonneg : 0 ≤ cumulativeGain (exact value discount) gain list reference := by
    rw [cumulativeGain_exact]
    exact weigh_nonneg discounts.mild (le_refl 1) (nonneg_gainsOf _)
  have atMostIdeal : cumulativeGain (exact value discount) gain list reference ≤
      idealGain (exact value discount) gain length reference :=
    cumulativeGain_le_idealGain distinct valid graded ids discounts
  have shareNonneg : 0 ≤ gainShare (exact value discount) gain length list reference :=
    div_nonneg nonneg (nonneg.trans atMostIdeal)
  have shareAtMostOne : gainShare (exact value discount) gain length list reference ≤ 1 :=
    div_le_one_of_le₀ atMostIdeal (nonneg.trans atMostIdeal)
  refine ⟨list, prepares, ids, nonneg, atMostIdeal, fun nothing => ?_, shareNonneg,
    shareAtMostOne, fun something => ?_, fun something sorted perm falling => ?_⟩
  · rw [measures, normalizedGain_of_nothing nothing]
  · rw [measures, normalizedGain_of_bounded something shareNonneg shareAtMostOne]
  · exact gainShare_eq_one_iff distinct valid graded ids discounts something perm falling

/-- What is disliked is recommended first, and what is liked is cut off. -/
theorem normalizedGain_unclamped_graded :
    ∃ list, (⟨.normalizedGain .graded, some 1⟩ : RankingMetric).prepare
        ⟨["b", "a"], none, none, true⟩ ⟨["a", "b"], some [2.0, -1.0], none, false⟩ = .ok list ∧
      list.ids = ["b"] ∧
      WithinIdeal (exact (fun score => if score < 0 then -1 else (2 : ℚ)) fun rank => (rank : ℚ))
        .graded (some 1) ⟨["b", "a"], none, none, true⟩ list
        ⟨["a", "b"], some [2.0, -1.0], none, false⟩ :=
  normalizedGain_unclamped
    ⟨fun _ ranked => Nat.cast_pos.mpr ranked, fun _ _ _ less => Nat.cast_lt.mpr less⟩
    (.of_ranksTo (by decide) (by simp) (Or.inl rfl))
    (.of_ranksTo (by decide) (by simp) (Or.inl rfl)) rfl (by decide)
    fun _ => Option.some_ne_none _

end

end Metric

end Holdout
