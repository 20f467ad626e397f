/-
This file proves that better rankings never score lower. A ranking is ahead of another if its first
items, however many, are never worth less. So is a ranking in which an item has changed places with
a neighbour before it that is worth no more: only a cut between the two can tell. Every statistic
that compares a ranking with a reference follows what its first items are worth, with any discount
that does not fall.
-/

import Holdout.Proofs.Double.Reading
import Holdout.Proofs.Metric.Patience
import Holdout.Proofs.Metric.Relevance

namespace Holdout

/-- What makes an item worth something to a statistic: its gain, or that it is relevant if no gain
is read. -/
def Statistic.gain : Statistic → Gain
  | .cumulativeGain gain | .normalizedGain gain => gain
  | _ => .binary

namespace Arithmetic

/-! ### Neighbours that change places -/

section

variable {K : Type} [Field K] [LinearOrder K] [IsStrictOrderedRing K] {gains others : List K}

theorem Dominated.cons (gain : K) (dominated : Dominated gains others) :
    Dominated (gain :: gains) (gain :: others) := by
  intro count
  cases count with
  | zero => exact le_rfl
  | succ count =>
    rw [List.take_succ_cons, List.take_succ_cons, List.sum_cons, List.sum_cons]
    exact add_le_add_right (dominated count) gain

/-- The greater of two neighbours may come first. -/
theorem dominated_swap {lesser greater : K} (atMost : lesser ≤ greater) (before after : List K) :
    Dominated (before ++ lesser :: greater :: after) (before ++ greater :: lesser :: after) := by
  induction before with
  | nil =>
    intro count
    match count with
    | 0 => exact le_rfl
    | 1 => simpa using atMost
    | count + 2 => simp [add_left_comm]
  | cons gain rest inductionHypothesis => exact inductionHypothesis.cons gain

omit [IsStrictOrderedRing K] in
theorem Dominated.sum_le (dominated : Dominated gains others) : gains.sum ≤ others.sum := by
  have all := dominated (gains.length + others.length)
  rwa [List.take_of_length_le (Nat.le_add_right _ _),
    List.take_of_length_le (Nat.le_add_left _ _)] at all

end

end Arithmetic

namespace Metric

open Arithmetic

variable {K : Type} [Field K] [LinearOrder K]
variable {value : Float → K} {discount : Nat → K} {gain : Gain} {length : Option Nat}
variable {list other reference : ItemList}

/-! ### Rankings that are ahead -/

/-- The first items of the second list, however many, gain no less than those of the first. -/
def Ahead (value : Float → K) (gain : Gain) (reference list other : ItemList) : Prop :=
  Dominated (gainsOf (exact value fun _ => 1) gain reference list.ids)
    (gainsOf (exact value fun _ => 1) gain reference other.ids)

/-- What an item gains does not depend on its rank. -/
theorem Ahead.dominated (ahead : Ahead value gain reference list other) (discount : Nat → K) :
    Dominated (gainsOf (exact value discount) gain reference list.ids)
      (gainsOf (exact value discount) gain reference other.ids) :=
  ahead

/-! ### Statistics that count relevant items -/

/-- Every relevant item gains one. -/
theorem sum_gainsOf_binary (items : List ItemId) :
    (gainsOf (exact value discount) .binary reference items).sum =
      (items.countP reference.contains : K) := by
  induction items with
  | nil => exact Nat.cast_zero.symm
  | cons item rest inductionHypothesis =>
    rw [gainsOf, List.map_cons, List.sum_cons, ← gainsOf, inductionHypothesis, gainOf_binary,
      List.countP_cons]
    by_cases relevant : item ∈ reference.ids <;>
      simp [ItemList.contains, relevant, add_comm]

variable [IsStrictOrderedRing K]

theorem Ahead.countP_take_le (ahead : Ahead value .binary reference list other) (count : Nat) :
    (list.ids.take count).countP reference.contains ≤
      (other.ids.take count).countP reference.contains := by
  have first := ahead count
  rw [gainsOf, gainsOf, ← List.map_take, ← List.map_take, ← gainsOf, ← gainsOf,
    sum_gainsOf_binary, sum_gainsOf_binary] at first
  exact Nat.cast_le.mp first

theorem Ahead.relevantCount_le (ahead : Ahead value .binary reference list other) :
    relevantCount list reference ≤ relevantCount other reference := by
  have all := Dominated.sum_le ahead
  rw [sum_gainsOf_binary, sum_gainsOf_binary] at all
  exact Nat.cast_le.mp all

theorem Ahead.hit_le (ahead : Ahead value .binary reference list other) :
    hit (exact value discount) list reference ≤ hit (exact value discount) other reference := by
  have more := ahead.relevantCount_le
  rw [hit_exact, hit_exact]
  split_ifs
  · exact le_rfl
  · omega
  · exact zero_le_one
  · exact le_rfl

theorem Ahead.precisionShare_le (ahead : Ahead value .binary reference list other)
    (sameSize : list.size = other.size) :
    precisionShare (exact value discount) list reference ≤
      precisionShare (exact value discount) other reference := by
  rw [precisionShare_exact, precisionShare_exact, sameSize]
  exact div_le_div_of_nonneg_right (Nat.cast_le.mpr ahead.relevantCount_le) (Nat.cast_nonneg _)

theorem Ahead.recallShare_le (ahead : Ahead value .binary reference list other) :
    recallShare (exact value discount) list reference ≤
      recallShare (exact value discount) other reference := by
  rw [recallShare_exact, recallShare_exact]
  exact div_le_div_of_nonneg_right (Nat.cast_le.mpr ahead.relevantCount_le) (Nat.cast_nonneg _)

/-- As soon as the list behind has a relevant item, the one that is ahead has one too. -/
theorem Ahead.reciprocalRank_le (ahead : Ahead value .binary reference list other) :
    reciprocalRank (exact value discount) list reference ≤
      reciprocalRank (exact value discount) other reference := by
  rw [reciprocalRank_exact, reciprocalRank_exact]
  cases first : list.ids.findIdx? reference.contains with
  | none =>
    cases other.ids.findIdx? reference.contains with
    | none => exact le_rfl
    | some position => exact one_div_nonneg.mpr (Nat.cast_nonneg _)
  | some position =>
    have found : 0 < (other.ids.take (position + 1)).countP reference.contains := by
      have one := (countP_take_of_findIdx? first).2
      have more := ahead.countP_take_le (position + 1)
      omega
    obtain ⟨earlier, notLater, firstOther⟩ := exists_findIdx?_of_countP_take found
    rw [firstOther]
    exact one_div_le_one_div_of_le (Nat.cast_pos.mpr (Nat.succ_pos earlier))
      (Nat.cast_le.mpr notLater)

/-! ### Statistics with a discount -/

theorem Ahead.cumulativeGain_le (ahead : Ahead value gain reference list other)
    (discounts : MildDiscounts discount) :
    cumulativeGain (exact value discount) gain list reference ≤
      cumulativeGain (exact value discount) gain other reference := by
  rw [cumulativeGain_exact, cumulativeGain_exact]
  exact (ahead.dominated discount).weigh_le discounts (le_refl 1) (nonneg_gainsOf _)

/-- The ideal is the same for both lists. -/
theorem Ahead.normalizedGain_le (ahead : Ahead value gain reference list other)
    (discounts : MildDiscounts discount) :
    normalizedGain (exact value discount) gain length list reference ≤
      normalizedGain (exact value discount) gain length other reference := by
  rw [normalizedGain, normalizedGain]
  split_ifs with nothing
  · exact le_rfl
  · exact clamp_le_clamp (div_le_div_of_nonneg_right (ahead.cumulativeGain_le discounts)
      (pos_of_not_atMost nothing).le)

section

variable {patience : K} (positive : 0 < patience) (less : patience < 1)

include positive less

theorem Ahead.rankBiased_le (ahead : Ahead value .binary reference list other) :
    rankBiased (exact value discount) patience list reference ≤
      rankBiased (exact value discount) patience other reference := by
  rw [rankBiased_exact, rankBiased_exact]
  exact mul_le_mul_of_nonneg_left (ahead.cumulativeGain_le (discounts_decay positive less).mild)
    (sub_nonneg.mpr less.le)

/-- So is the best that can be reached. -/
theorem Ahead.rankBiasedShare_le (ahead : Ahead value .binary reference list other) :
    rankBiasedShare (exact value discount) patience length list reference ≤
      rankBiasedShare (exact value discount) patience length other reference := by
  unfold rankBiasedShare
  dsimp only
  split_ifs with nothing
  · exact le_rfl
  · exact div_le_div_of_nonneg_right (ahead.rankBiased_le positive less)
      (pos_of_not_atMost nothing).le

end

/-! ### Every statistic -/

/-- A patience that is accepted is read as what it is, a probability that is neither zero nor
one. -/
def ReadsPatience (value : Float → K) : Prop :=
  ∀ patience : Float, 0 < patience ∧ patience < 1 → 0 < value patience ∧ value patience < 1

/-- A statistic of the list that is ahead is not lower. For a share of the items there have to be as
many of them. -/
theorem Ahead.value_le {metric : RankingMetric}
    (ahead : Ahead value metric.statistic.gain reference list other)
    (discounts : MildDiscounts discount) (reads : ReadsPatience value)
    (compares : metric.statistic.Compares)
    (sameSize : metric.statistic = .precisionShare → list.size = other.size) :
    metric.value (exact value discount) list reference ≤
      metric.value (exact value discount) other reference := by
  obtain ⟨statistic, length⟩ := metric
  cases statistic with
  | hit => exact ahead.hit_le
  | precisionShare => exact ahead.precisionShare_le (sameSize rfl)
  | recallShare => exact ahead.recallShare_le
  | reciprocalRank => exact ahead.reciprocalRank_le
  | cumulativeGain gain => exact ahead.cumulativeGain_le discounts
  | normalizedGain gain => exact ahead.normalizedGain_le discounts
  | rankBiased patience normalized =>
    obtain ⟨positive, less⟩ := reads patience compares
    cases normalized with
    | false => exact ahead.rankBiased_le positive less
    | true => exact ahead.rankBiasedShare_le positive less
  | meanPopularity ranks => exact compares.elim

/-! ### Items that change places -/

/-- Two rankings that only differ in a pair of neighbours, which have changed places. -/
structure Promotes (recommended promoted : ItemList) (lesser greater : ItemId) : Prop where
  ordered : recommended.ordered = true
  orderedAfter : promoted.ordered = true
  ids : ∃ before after, recommended.ids = before ++ lesser :: greater :: after ∧
    promoted.ids = before ++ greater :: lesser :: after

theorem Promotes.sameSize {recommended promoted : ItemList} {lesser greater : ItemId}
    (promotes : Promotes recommended promoted lesser greater) :
    recommended.size = promoted.size := by
  obtain ⟨before, after, ids, idsAfter⟩ := promotes.ids
  rw [ItemList.size, ItemList.size, ids, idsAfter, List.length_append, List.length_append]
  rfl

/-- Wherever the rankings are cut, the one in which the greater item came forward is ahead. -/
theorem Promotes.ahead {recommended promoted : ItemList} {lesser greater : ItemId}
    (promotes : Promotes recommended promoted lesser greater)
    (worth : gainOf (exact value discount) gain reference lesser ≤
      gainOf (exact value discount) gain reference greater)
    (ids : list.ids = ItemList.cut length recommended.ids)
    (idsAfter : other.ids = ItemList.cut length promoted.ids) :
    Ahead value gain reference list other := by
  obtain ⟨before, after, whole, wholeAfter⟩ := promotes.ids
  rw [Ahead, gainsOf_cut ids, gainsOf_cut idsAfter, whole, wholeAfter]
  refine Dominated.cut ?_ length
  simp only [gainsOf, List.map_append, List.map_cons]
  exact dominated_swap worth _ _

/-- What becomes of a metric when a ranking gives way to another. -/
structure NotLower (arithmetic : Arithmetic K) (metric : RankingMetric)
    (recommended promoted reference : ItemList) : Prop where
  /-- Where a ranking can be measured, the value is not lower than it was. -/
  defined : metric.statistic.Compares → metric.length ≠ some 0 →
    (metric.statistic.IsGraded → reference.scores ≠ none) →
    ∃ before after, metric.measure arithmetic recommended reference = .ok before ∧
      metric.measure arithmetic promoted reference = .ok after ∧ before ≤ after
  /-- What was refused is refused for the same reason, and nothing else is. -/
  refused : ∀ error, metric.measure arithmetic recommended reference = .error error ↔
    metric.measure arithmetic promoted reference = .error error

/-- An item that changes places with a neighbour before it that is worth no more does not lower any
metric. -/
theorem promotion_not_lower {metric : RankingMetric} {recommended promoted : ItemList}
    {lesser greater : ItemId} (discounts : MildDiscounts discount) (reads : ReadsPatience value)
    (promotes : Promotes recommended promoted lesser greater)
    (worth : gainOf (exact value discount) metric.statistic.gain reference lesser ≤
      gainOf (exact value discount) metric.statistic.gain reference greater) :
    NotLower (exact value discount) metric recommended promoted reference where
  defined := by
    intro compares lengthy graded
    obtain ⟨list, ids, measured⟩ := exists_measure_of_ordered metric (exact value discount)
      compares lengthy promotes.ordered graded
    obtain ⟨other, idsAfter, measuredAfter⟩ := exists_measure_of_ordered metric
      (exact value discount) compares lengthy promotes.orderedAfter graded
    have sameSize : list.size = other.size := by
      rw [ItemList.size_eq_of_cut ids, ItemList.size_eq_of_cut idsAfter, promotes.sameSize]
    exact ⟨_, _, measured, measuredAfter, (promotes.ahead worth ids idsAfter).value_le discounts
      reads compares fun _ => sameSize⟩
  refused := RankingMetric.measure_error_congr (exact value discount) promotes.ordered
    promotes.orderedAfter promotes.sameSize

/-! ### Real numbers -/

/-- The arithmetic of real numbers, in which finite doubles are what they stand for and the discount
of a rank is the binary logarithm of the next one. -/
noncomputable def realNumbers : Arithmetic ℝ :=
  exact (fun double => (Double.reading double : ℝ)) fun rank => Real.logb 2 (rank + 1)

theorem readsPatience_realNumbers : ReadsPatience fun double => (Double.reading double : ℝ) := by
  intro patience accepted
  obtain ⟨positive, less⟩ := Double.reading_between accepted.1 accepted.2
  have lessCast : (Double.reading patience : ℝ) < 1 := by exact_mod_cast less
  exact ⟨Rat.cast_pos.mpr positive, lessCast⟩

theorem discounts_realNumbers : Discounts fun rank : Nat => Real.logb 2 (rank + 1) where
  positive rank ranked := by
    have more : (1 : ℝ) < rank + 1 := by exact_mod_cast Nat.lt_succ_of_le ranked
    exact Real.logb_pos one_lt_two more
  increasing first second ranked later := by
    have positive : (0 : ℝ) < first + 1 := by exact_mod_cast Nat.succ_pos first
    have more : (first : ℝ) + 1 < second + 1 := by exact_mod_cast Nat.succ_lt_succ later
    exact Real.logb_lt_logb one_lt_two positive more

/-- The cut at the second rank lets the greater item in. -/
theorem promotion_not_lower_cut :
    Promotes ⟨["a", "b", "c", "d"], none, some [1, 2, 3, 4], true⟩
      ⟨["a", "c", "b", "d"], none, none, true⟩ "b" "c" ∧
    NotLower realNumbers ⟨.normalizedGain .graded, some 2⟩
      ⟨["a", "b", "c", "d"], none, some [1, 2, 3, 4], true⟩ ⟨["a", "c", "b", "d"], none, none, true⟩
      ⟨["c", "a", "b"], some [3, -1, 1], none, false⟩ := by
  have promotes : Promotes ⟨["a", "b", "c", "d"], none, some [1, 2, 3, 4], true⟩
      ⟨["a", "c", "b", "d"], none, none, true⟩ "b" "c" :=
    ⟨rfl, rfl, ["a"], ["d"], rfl, rfl⟩
  have one : Double.reading 1 = 1 :=
    (Double.holds_ofNat (by decide : 0 < 1) (by decide)).reading_eq.trans Nat.cast_one
  have three : Double.reading 3 = 3 :=
    (Double.holds_ofNat (by decide : 0 < 3) (by decide)).reading_eq
  refine ⟨promotes, promotion_not_lower discounts_realNumbers.mild readsPatience_realNumbers
    promotes ?_⟩
  show realNumbers.positivePart (Double.reading 1 : ℝ) ≤
    realNumbers.positivePart (Double.reading 3 : ℝ)
  rw [realNumbers, positivePart_exact, positivePart_exact, one, three]
  norm_num

end Metric

end Holdout
