/-
This file proves that rank-biased precision is bounded and that its normalization is exact. A reader
who goes on with a fixed probability discounts the ranks by the powers of it, so the metric is a
discounted gain, and what it is divided by is the gain of an ideal ranking, whose powers sum up in
closed form. Over exact numbers it thus stays below one, its share of the best is between zero and
one, and it is one exactly if the ranking begins with as many relevant items as it has room for.
-/

import Holdout.Proofs.Metric.Gain

namespace Holdout

namespace Metric

open Arithmetic

variable {K : Type} [Field K] [LinearOrder K]

/-! ### Powers as a discount -/

/-- The discount at a rank if a reader goes on to the next one with this probability. -/
def decay (patience : K) (rank : Nat) : K := (patience ^ (rank - 1))⁻¹

/-- How many items of a reference have a place before the length. -/
def reachable (length : Option Nat) (reference : ItemList) : Nat :=
  length.elim reference.size (min reference.size)

section

variable {value : Float → K} {discount : Nat → K} {patience : K} {rank : Nat} {gains : List K}
variable {recommended list reference : ItemList} {length : Option Nat}

omit [LinearOrder K] in
theorem div_decay (gain patience : K) (position : Nat) :
    gain / decay patience (position + 1) = gain * patience ^ position := by
  rw [decay, div_inv_eq_mul, Nat.add_sub_cancel]

omit [LinearOrder K] in
/-- The powers of all ranks up to a count, of which the first is zero. -/
theorem weigh_decay_ones (patience : K) (count position : Nat) :
    (1 - patience) * weigh (decay patience) (position + 1) (List.replicate count 1) =
      patience ^ position * (1 - patience ^ count) := by
  induction count generalizing position with
  | zero => simp [weigh]
  | succ count inductionHypothesis =>
    rw [List.replicate_succ, weigh, div_decay, mul_add, inductionHypothesis (position + 1)]
    ring

theorem gainOf_binary (item : ItemId) :
    gainOf (exact value discount) .binary reference item =
      if item ∈ reference.ids then 1 else 0 := by
  by_cases member : item ∈ reference.ids <;>
    simp [gainOf, exact, ItemList.contains, member]

variable (value discount) in
/-- The powers of the positions of the relevant items are their discounted gains. -/
theorem sum_relevantPositions (position : Nat) (items : List ItemId) :
    ((relevantPositions reference position items).map (patience ^ ·)).sum =
      weigh (decay patience) (position + 1)
        (gainsOf (exact value discount) .binary reference items) := by
  induction items generalizing position with
  | nil => rfl
  | cons item rest inductionHypothesis =>
    rw [gainsOf, List.map_cons, weigh, div_decay, ← gainsOf, ← inductionHypothesis (position + 1),
      gainOf_binary, relevantPositions]
    by_cases member : item ∈ reference.ids
    · simp [ItemList.contains, member]
    · simp [ItemList.contains, member]

/-- Rank-biased precision is a discounted gain. -/
theorem rankBiased_exact :
    rankBiased (exact value discount) patience list reference =
      (1 - patience) * cumulativeGain (exact value (decay patience)) .binary list reference := by
  have powers : (exact value discount).power patience = (patience ^ ·) :=
    funext (power_exact patience)
  have one : (exact value discount).ofNat 1 = 1 := Nat.cast_one
  rw [rankBiased, powers, sum_exact, one, cumulativeGain_exact,
    sum_relevantPositions value (decay patience)]
  exact mul_comm _ _

theorem rankBiasedBest_eq (count : Nat) :
    rankBiasedBest (exact value discount) patience count = 1 - patience ^ count := by
  rw [rankBiasedBest, power_exact]
  exact congrArg (· - patience ^ count) Nat.cast_one

/-- So is the best that it can be. -/
theorem rankBiasedBest_exact (count : Nat) :
    rankBiasedBest (exact value discount) patience count =
      (1 - patience) * weigh (decay patience) 1 (List.replicate count 1) := by
  rw [rankBiasedBest_eq, weigh_decay_ones patience count 0, pow_zero, one_mul]

/-! ### The ideal ranking -/

/-- Every item of the reference gains as much as any other. -/
theorem idealGains_binary [IsStrictOrderedRing K] (valid : reference.Valid) :
    idealGains (exact value discount) .binary length reference =
      List.replicate (reachable length reference) 1 := by
  have ones : gainsOf (exact value discount) .binary reference reference.ids =
      List.replicate reference.size 1 :=
    List.eq_replicate_iff.mpr ⟨List.length_map _, fun gain member => by
      obtain ⟨item, relevant, rfl⟩ := List.mem_map.mp member
      rw [gainOf_binary, if_pos relevant]⟩
  have perm : (List.replicate reference.size 1).Perm
      (gainsOf (exact value discount) .binary reference reference.ids) := by rw [ones]
  have graded : Gain.binary = .graded → reference.scores ≠ none := nofun
  rw [idealGains_eq valid graded perm (List.pairwise_replicate.mpr (Or.inr le_rfl))]
  cases length with
  | none => rfl
  | some count => exact List.take_replicate.trans (by rw [Nat.min_comm]; rfl)

theorem gains_begin_with_ones_iff [IsStrictOrderedRing K] {count : Nat} {items : List ItemId} :
    (gainsOf (exact value discount) .binary reference items).take count =
        List.replicate count 1 ↔
      count ≤ items.length ∧ ∀ item ∈ items.take count, item ∈ reference.ids := by
  rw [gainsOf, ← List.map_take, List.eq_replicate_iff, List.length_map, List.length_take,
    min_eq_left_iff, List.forall_mem_map]
  refine and_congr_right fun _ => forall₂_congr fun item _ => ?_
  rw [gainOf_binary]
  by_cases relevant : item ∈ reference.ids <;> simp [relevant]

/-- What is reachable is before the length. -/
theorem take_reachable (items : List ItemId) :
    (ItemList.cut length items).take (reachable length reference) =
      items.take (reachable length reference) := by
  cases length with
  | none => rfl
  | some count =>
    show (items.take count).take (min reference.size count) = _
    rw [List.take_take, Nat.min_eq_left (Nat.min_le_right _ _)]
    rfl

theorem reachable_of_empty (empty : reference.ids = []) : reachable length reference = 0 := by
  have size : reference.size = 0 := by rw [ItemList.size, empty, List.length_nil]
  cases length with
  | none => exact size
  | some count => exact Nat.min_eq_left (size.trans_le (Nat.zero_le _)) |>.trans size

theorem reachable_pos (lengthy : length ≠ some 0) (something : reference.ids ≠ []) :
    0 < reachable length reference := by
  have size : 0 < reference.size := List.length_pos_iff.mpr something
  match length, lengthy with
  | none, _ => exact size
  | some (count + 1), _ => exact Nat.lt_min.mpr ⟨size, Nat.succ_pos count⟩

/-! ### The share of the best -/

theorem rankBiasedShare_of_nothing (empty : reference.ids = []) :
    rankBiasedShare (exact value discount) patience length list reference = 0 := by
  have best : rankBiasedBest (exact value discount) patience (reachable length reference) = 0 := by
    rw [rankBiasedBest_eq, reachable_of_empty empty, pow_zero, sub_self]
  have atMost : (exact value discount).atMost
      (rankBiasedBest (exact value discount) patience (reachable length reference))
      ((exact value discount).ofNat 0) = true :=
    decide_eq_true (best.trans Nat.cast_zero.symm).le
  cases length <;> exact (if_pos atMost).trans Nat.cast_zero

theorem rankBiasedShare_of_something
    (something : 0 < rankBiasedBest (exact value discount) patience (reachable length reference)) :
    rankBiasedShare (exact value discount) patience length list reference =
      rankBiased (exact value discount) patience list reference /
        rankBiasedBest (exact value discount) patience (reachable length reference) := by
  have more : ¬ (exact value discount).atMost
      (rankBiasedBest (exact value discount) patience (reachable length reference))
      ((exact value discount).ofNat 0) = true := fun atMost =>
    something.not_ge ((of_decide_eq_true atMost).trans_eq Nat.cast_zero)
  cases length <;> exact if_neg more

/-! ### The best that can be reached -/

variable [IsStrictOrderedRing K]

theorem discounts_decay (positive : 0 < patience) (less : patience < 1) :
    Discounts (decay patience) where
  positive _ _ := inv_pos.mpr (pow_pos positive _)
  increasing first second ranked later :=
    inv_strictAnti₀ (pow_pos positive _)
      (pow_lt_pow_right_of_lt_one₀ positive less (by omega))

section

variable (positive : 0 < patience) (less : patience < 1)

include positive less

theorem rankBiased_nonneg : 0 ≤ rankBiased (exact value discount) patience list reference := by
  rw [rankBiased_exact, cumulativeGain_exact]
  exact mul_nonneg (sub_nonneg.mpr less.le)
    (weigh_nonneg (discounts_decay positive less).mild (le_refl 1) (nonneg_gainsOf _))

omit less in
theorem rankBiasedBest_lt_one (count : Nat) :
    rankBiasedBest (exact value discount) patience count < 1 := by
  rw [rankBiasedBest_eq]
  exact sub_lt_self 1 (pow_pos positive count)

theorem rankBiasedBest_pos {count : Nat} (some : 0 < count) :
    0 < rankBiasedBest (exact value discount) patience count := by
  rw [rankBiasedBest_eq]
  exact sub_pos.mpr (pow_lt_one₀ positive.le less some.ne')

variable (distinct : recommended.Valid) (valid : reference.Valid)
variable (ids : list.ids = ItemList.cut length recommended.ids)

include distinct valid ids

omit positive less in
/-- No ranking is ahead of one that begins with as many relevant items as are reachable. -/
theorem dominated_ones :
    Dominated (gainsOf (exact value (decay patience)) .binary reference list.ids)
      (List.replicate (reachable length reference) 1) := by
  have ideal : idealGains (exact value (decay patience)) .binary length reference =
      List.replicate (reachable length reference) 1 := idealGains_binary valid
  rw [← ideal]
  exact dominated_idealGains distinct valid nofun ids

theorem rankBiased_le_best :
    rankBiased (exact value discount) patience list reference ≤
      rankBiasedBest (exact value discount) patience (reachable length reference) := by
  rw [rankBiased_exact, rankBiasedBest_exact, cumulativeGain_exact]
  refine mul_le_mul_of_nonneg_left ?_ (sub_nonneg.mpr less.le)
  refine (dominated_ones distinct valid ids).weigh_le (discounts_decay positive less).mild
    (le_refl 1) fun gain member => ?_
  exact zero_le_one.trans_eq (List.eq_of_mem_replicate member).symm

/-- The best is reached exactly by the rankings that begin with relevant items. -/
theorem rankBiased_eq_best_iff :
    rankBiased (exact value discount) patience list reference =
        rankBiasedBest (exact value discount) patience (reachable length reference) ↔
      reachable length reference ≤ recommended.size ∧
        ∀ item ∈ recommended.ids.take (reachable length reference), item ∈ reference.ids := by
  -- As far as something is reachable, the list that is measured is the ranking itself.
  rw [rankBiased_exact, rankBiasedBest_exact, cumulativeGain_exact,
    mul_right_inj' (sub_pos.mpr less).ne',
    (dominated_ones distinct valid ids).weigh_eq_ones_iff (discounts_decay positive less)
      (le_refl 1) (nonneg_gainsOf _), gainsOf, ← List.map_take, ids, take_reachable,
    List.map_take]
  exact gains_begin_with_ones_iff

end

end

/-! ### Rank-biased precision -/

/-- What rank-biased precision says of a ranking, weighed exactly. -/
structure BoundedByPatience (arithmetic : Arithmetic K) (patience : Float) (length : Option Nat)
    (recommended reference : ItemList) : Prop where
  plain : ∃ score, (⟨.rankBiased patience false, length⟩ : RankingMetric).measure arithmetic
      recommended reference = .ok score ∧ 0 ≤ score ∧ score < 1
  /-- As a share of the best it is one exactly if as many items as are reachable are there, and are
  relevant, at the beginning of the ranking. -/
  normalized : ∃ share, (⟨.rankBiased patience true, length⟩ : RankingMetric).measure arithmetic
      recommended reference = .ok share ∧ 0 ≤ share ∧ share ≤ 1 ∧
    (reference.ids = [] → share = 0) ∧
    (share = 1 ↔ reference.ids ≠ [] ∧ reachable length reference ≤ recommended.size ∧
      ∀ item ∈ recommended.ids.take (reachable length reference), item ∈ reference.ids)

variable {value : Float → K} {discount : Nat → K} {patience : Float}
variable {recommended reference : ItemList} {length : Option Nat}

variable (value discount reference) in
theorem measure_rankBiased (accepted : 0 < patience ∧ patience < 1) (normalized : Bool)
    (ordered : recommended.ordered = true) (lengthy : length ≠ some 0) :
    ∃ list, list.ids = ItemList.cut length recommended.ids ∧
      (⟨.rankBiased patience normalized, length⟩ : RankingMetric).measure (exact value discount)
          recommended reference =
        .ok ((⟨.rankBiased patience normalized, length⟩ : RankingMetric).value
          (exact value discount) list reference) :=
  exists_measure_of_ordered ⟨.rankBiased patience normalized, length⟩ (exact value discount)
    accepted lengthy ordered nofun

variable [IsStrictOrderedRing K]

/-- Rank-biased precision of every ranking is defined and below one, and its share of the best is
all of it only for the rankings that are best. -/
theorem rankBiased_bounded (accepted : 0 < patience ∧ patience < 1)
    (positive : 0 < value patience) (less : value patience < 1) (distinct : recommended.Valid)
    (valid : reference.Valid) (ordered : recommended.ordered = true) (lengthy : length ≠ some 0) :
    BoundedByPatience (exact value discount) patience length recommended reference := by
  constructor
  case plain =>
    obtain ⟨list, ids, measured⟩ :=
      measure_rankBiased value discount reference accepted false ordered lengthy
    exact ⟨_, measured, rankBiased_nonneg positive less,
      (rankBiased_le_best positive less distinct valid ids).trans_lt
        (rankBiasedBest_lt_one positive _)⟩
  case normalized =>
    obtain ⟨list, ids, measured⟩ :=
      measure_rankBiased value discount reference accepted true ordered lengthy
    refine ⟨_, measured, ?_⟩
    show 0 ≤ rankBiasedShare (exact value discount) (value patience) length list reference ∧
      rankBiasedShare (exact value discount) (value patience) length list reference ≤ 1 ∧
      (_ → rankBiasedShare (exact value discount) (value patience) length list reference = 0) ∧
      (rankBiasedShare (exact value discount) (value patience) length list reference = 1 ↔ _)
    by_cases empty : reference.ids = []
    · rw [rankBiasedShare_of_nothing empty]
      exact ⟨le_refl 0, zero_le_one, fun _ => rfl, fun zero => absurd zero zero_ne_one,
        fun perfect => absurd empty perfect.1⟩
    · have best : 0 < rankBiasedBest (exact value discount) (value patience)
          (reachable length reference) :=
        rankBiasedBest_pos positive less (reachable_pos lengthy empty)
      rw [rankBiasedShare_of_something best]
      refine ⟨div_nonneg (rankBiased_nonneg positive less) best.le,
        div_le_one_of_le₀ (rankBiased_le_best positive less distinct valid ids) best.le,
        fun none => absurd none empty, ?_⟩
      rw [div_eq_one_iff_eq best.ne', rankBiased_eq_best_iff positive less distinct valid ids]
      exact (and_iff_right empty).symm

/-- The second of two relevant items comes one place too late, and the length cuts it off. -/
theorem rankBiased_bounded_late :
    BoundedByPatience (exact (fun _ => (1 / 2 : ℚ)) fun _ => 1) 0.5 (some 2)
      ⟨["a", "x", "b"], none, some [1, 2, 3], true⟩ ⟨["b", "a"], none, none, false⟩ :=
  rankBiased_bounded (by decide) (by norm_num) (by norm_num)
    (.of_ranksTo (by decide) (by simp) (Or.inr rfl))
    (.of_ranksTo (by decide) (by simp) (Or.inl rfl)) rfl (by decide)

end Metric

end Holdout
