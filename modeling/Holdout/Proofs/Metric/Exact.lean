/-
This file reads the arithmetic of metrics over an ordered field, where its operations are exact,
with any discount in the place of the logarithm. Gains of which the first ones never sum up to more
than those of another list have no greater discounted sum either, because what is found later counts
for less; and they have the same only if they are the same.
-/

import Holdout.Arithmetic
import Holdout.ItemList.Ranking
import Mathlib.Algebra.Order.BigOperators.Group.List
import Mathlib.Algebra.Order.Field.Basic
import Mathlib.Tactic.Linarith
import Mathlib.Tactic.Ring

namespace Holdout

variable {K : Type} [Field K] [LinearOrder K]

/-! ### Exact numbers -/

namespace Arithmetic

/-- Exact arithmetic, in which doubles are read as `value` says. -/
def exact (value : Float → K) (discount : Nat → K) : Arithmetic K where
  emptySum := 0
  add := fun first second => first + second
  sub := fun first second => first - second
  mul := fun first second => first * second
  div := fun first second => first / second
  less := fun first second => decide (first < second)
  atMost := fun first second => decide (first ≤ second)
  ofNat := fun count => count
  ofFloat := value
  discount := discount

variable {value : Float → K} {discount : Nat → K}

theorem sum_exact (terms : List K) : (exact value discount).sum terms = terms.sum :=
  List.sum_eq_foldl.symm

theorem positivePart_exact (number : K) :
    (exact value discount).positivePart number = max number 0 := by
  simp only [positivePart, exact, Nat.cast_zero, decide_eq_true_eq]
  split
  · rename_i positive
    exact (max_eq_left positive.le).symm
  · rename_i negative
    exact (max_eq_right (not_lt.mp negative)).symm

theorem clamp_exact {number : K} (nonneg : 0 ≤ number) (atMostOne : number ≤ 1) :
    (exact value discount).clamp number = number := by
  simp [clamp, exact, nonneg.not_gt, atMostOne.not_gt]

theorem clamp_le_clamp [IsStrictOrderedRing K] {first second : K} (atMost : first ≤ second) :
    (exact value discount).clamp first ≤ (exact value discount).clamp second := by
  simp only [clamp, exact, Nat.cast_zero, Nat.cast_one, decide_eq_true_eq]
  split_ifs <;> linarith

/-- What passes the guard before a division is greater than zero. -/
theorem pos_of_not_atMost {number : K}
    (passes : ¬ (exact value discount).atMost number ((exact value discount).ofNat 0) = true) :
    0 < number :=
  not_le.mp fun atMost => passes (decide_eq_true (atMost.trans_eq Nat.cast_zero.symm))

/-- Repeated squaring multiplies by the power. -/
theorem powerFrom_exact (result base : K) (exponent : Nat) :
    (exact value discount).powerFrom result base exponent = result * base ^ exponent := by
  induction exponent using Nat.strong_induction_on generalizing result base with
  | _ exponent inductionHypothesis =>
    have split : result * base ^ exponent =
        (if exponent % 2 = 1 then result * base else result) * (base * base) ^ (exponent / 2) := by
      conv_lhs => rw [← Nat.mod_add_div exponent 2, pow_add, pow_mul, pow_two, ← mul_assoc]
      rcases Nat.mod_two_eq_zero_or_one exponent with even | odd
      · rw [even, pow_zero, mul_one, if_neg Nat.zero_ne_one]
      · rw [odd, pow_one, if_pos rfl]
    rw [powerFrom]
    by_cases last : exponent / 2 = 0
    · rw [if_pos last, split, last, pow_zero, mul_one]
      rfl
    · rw [if_neg last, inductionHypothesis (exponent / 2) (by omega), split]
      rfl

theorem power_exact (base : K) (exponent : Nat) :
    (exact value discount).power base exponent = base ^ exponent := by
  rw [power, powerFrom_exact]
  exact (congrArg (· * base ^ exponent) Nat.cast_one).trans (one_mul _)

/-! ### Discounted sums -/

/-- A discount by which later ranks count for less. -/
structure Discounts (discount : Nat → K) : Prop where
  positive : ∀ rank, 1 ≤ rank → 0 < discount rank
  increasing : ∀ first second, 1 ≤ first → first < second → discount first < discount second

/-- A discount by which later ranks count for no more than earlier ones. -/
structure MildDiscounts (discount : Nat → K) : Prop where
  positive : ∀ rank, 1 ≤ rank → 0 < discount rank
  nondecreasing : ∀ first second, 1 ≤ first → first ≤ second → discount first ≤ discount second

theorem Discounts.mild (discounts : Discounts discount) : MildDiscounts discount where
  positive := discounts.positive
  nondecreasing first second ranked later := by
    rcases later.eq_or_lt with rfl | later
    · exact le_rfl
    · exact (discounts.increasing first second ranked later).le

/-- The discounted sum of some gains, of which the first stands at a rank. -/
def weigh (discount : Nat → K) (rank : Nat) : List K → K
  | [] => 0
  | gain :: rest => gain / discount rank + weigh discount (rank + 1) rest

theorem sum_discounted (rank : Nat) (gains : List K) :
    (exact value discount).sum ((exact value discount).discounted rank gains) =
      weigh discount rank gains := by
  rw [sum_exact]
  induction gains generalizing rank with
  | nil => rfl
  | cons gain rest inductionHypothesis =>
    rw [discounted, List.sum_cons, inductionHypothesis (rank + 1)]
    rfl

omit [LinearOrder K] in
/-- A list without items counts like one that begins with nothing. -/
theorem weigh_eq (rank : Nat) (gains : List K) :
    weigh discount rank gains =
      gains.headD 0 / discount rank + weigh discount (rank + 1) gains.tail := by
  cases gains <;> simp [weigh]

omit [LinearOrder K] in
theorem sum_take_succ (count : Nat) (gains : List K) :
    (gains.take (count + 1)).sum = gains.headD 0 + (gains.tail.take count).sum := by
  cases gains <;> simp

omit [LinearOrder K] in
theorem getD_zero (gains : List K) : gains.getD 0 0 = gains.headD 0 := by
  cases gains <;> rfl

omit [LinearOrder K] in
theorem getD_succ (index : Nat) (gains : List K) :
    gains.getD (index + 1) 0 = gains.tail.getD index 0 := by
  cases gains <;> rfl

variable [IsStrictOrderedRing K] {rank : Nat} {gains others : List K}

theorem weigh_nonneg (discounts : MildDiscounts discount) (ranked : 1 ≤ rank)
    (nonneg : ∀ gain ∈ gains, 0 ≤ gain) : 0 ≤ weigh discount rank gains := by
  induction gains generalizing rank with
  | nil => exact le_refl _
  | cons gain rest inductionHypothesis =>
    rw [List.forall_mem_cons] at nonneg
    exact add_nonneg (div_nonneg nonneg.1 (discounts.positive rank ranked).le)
      (inductionHypothesis (by omega) nonneg.2)

/-- What is ahead by `lead` may be counted at the first rank. -/
theorem weigh_le_of_lead (discounts : MildDiscounts discount) (ranked : 1 ≤ rank) {lead : K}
    (ahead : 0 ≤ lead) (nonneg : ∀ gain ∈ others, 0 ≤ gain)
    (dominated : ∀ count, (gains.take count).sum ≤ lead + (others.take count).sum) :
    weigh discount rank gains ≤ lead / discount rank + weigh discount rank others := by
  induction gains generalizing rank lead others with
  | nil =>
    exact add_nonneg (div_nonneg ahead (discounts.positive rank ranked).le)
      (weigh_nonneg discounts ranked nonneg)
  | cons gain rest inductionHypothesis =>
    -- What is left of the lead after this rank counts for less at the next one.
    have left : 0 ≤ lead + others.headD 0 - gain := by
      have first := dominated 1
      rw [sum_take_succ, sum_take_succ] at first
      simp only [List.headD_cons, List.take_zero, List.sum_nil] at first
      linarith
    have later : weigh discount (rank + 1) rest ≤
        (lead + others.headD 0 - gain) / discount (rank + 1) +
          weigh discount (rank + 1) others.tail := by
      refine inductionHypothesis (by omega) left (fun other member =>
        nonneg other (List.mem_of_mem_tail member)) fun count => ?_
      have next := dominated (count + 1)
      rw [sum_take_succ, sum_take_succ] at next
      simp only [List.headD_cons, List.tail_cons] at next
      linarith
    have less : (lead + others.headD 0 - gain) / discount (rank + 1) ≤
        (lead + others.headD 0 - gain) / discount rank :=
      div_le_div_of_nonneg_left left (discounts.positive rank ranked)
        (discounts.nondecreasing rank (rank + 1) ranked (Nat.le_succ rank))
    calc weigh discount rank (gain :: rest)
        = gain / discount rank + weigh discount (rank + 1) rest := rfl
      _ ≤ gain / discount rank + ((lead + others.headD 0 - gain) / discount rank +
            weigh discount (rank + 1) others.tail) := by linarith
      _ = lead / discount rank + weigh discount rank others := by
        rw [weigh_eq rank others]
        ring

/-- Gains of which the first ones never sum up to more than as many of others. -/
def Dominated (gains others : List K) : Prop :=
  ∀ count, (gains.take count).sum ≤ (others.take count).sum

theorem Dominated.weigh_le (dominated : Dominated gains others) (discounts : MildDiscounts discount)
    (ranked : 1 ≤ rank) (nonneg : ∀ gain ∈ others, 0 ≤ gain) :
    weigh discount rank gains ≤ weigh discount rank others := by
  have lead (count : Nat) : (gains.take count).sum ≤ 0 + (others.take count).sum :=
    (dominated count).trans_eq (zero_add _).symm
  simpa only [zero_div, zero_add] using
    weigh_le_of_lead discounts ranked (le_refl 0) nonneg lead

/-- If they weigh the same as the others, they begin with the same gain. -/
theorem Dominated.headD_eq (dominated : Dominated gains others) (discounts : Discounts discount)
    (ranked : 1 ≤ rank) (nonneg : ∀ gain ∈ others, 0 ≤ gain)
    (same : weigh discount rank gains = weigh discount rank others) :
    gains.headD 0 = others.headD 0 := by
  have first : gains.headD 0 ≤ others.headD 0 := by
    simpa only [sum_take_succ, List.take_zero, List.sum_nil, add_zero] using dominated 1
  by_contra different
  have lead : 0 < others.headD 0 - gains.headD 0 :=
    sub_pos.mpr (lt_of_le_of_ne first different)
  have later : weigh discount (rank + 1) gains.tail ≤
      (others.headD 0 - gains.headD 0) / discount (rank + 1) +
        weigh discount (rank + 1) others.tail := by
    refine weigh_le_of_lead discounts.mild (by omega) lead.le
      (fun other member => nonneg other (List.mem_of_mem_tail member)) fun count => ?_
    have next := dominated (count + 1)
    rw [sum_take_succ, sum_take_succ] at next
    linarith
  -- A lead at this rank counts for more than what can be made up for it later.
  have more : (others.headD 0 - gains.headD 0) / discount (rank + 1) <
      (others.headD 0 - gains.headD 0) / discount rank :=
    div_lt_div_of_pos_left lead (discounts.positive rank ranked)
      (discounts.increasing rank (rank + 1) ranked (Nat.lt_succ_self rank))
  rw [weigh_eq rank gains, weigh_eq rank others] at same
  rw [sub_div (others.headD 0) _ (discount rank)] at more
  linarith

theorem Dominated.tail (dominated : Dominated gains others)
    (same : gains.headD 0 = others.headD 0) : Dominated gains.tail others.tail := by
  intro count
  have next := dominated (count + 1)
  rw [sum_take_succ, sum_take_succ] at next
  linarith

/-- If they weigh the same as the others, they are the same at every position, nothing counting as
zero. -/
theorem Dominated.getD_eq (dominated : Dominated gains others) (discounts : Discounts discount)
    (ranked : 1 ≤ rank) (nonneg : ∀ gain ∈ others, 0 ≤ gain)
    (same : weigh discount rank gains = weigh discount rank others) (index : Nat) :
    gains.getD index 0 = others.getD index 0 := by
  have head := dominated.headD_eq discounts ranked nonneg same
  induction index generalizing rank gains others with
  | zero => rwa [getD_zero, getD_zero]
  | succ index inductionHypothesis =>
    rw [weigh_eq rank gains, weigh_eq rank others, head] at same
    have nonnegTail (other : K) (member : other ∈ others.tail) : 0 ≤ other :=
      nonneg other (List.mem_of_mem_tail member)
    have sameTail := add_left_cancel same
    have dominatedTail := dominated.tail head
    rw [getD_succ, getD_succ]
    exact inductionHypothesis dominatedTail (by omega) nonnegTail sameTail
      (dominatedTail.headD_eq discounts (by omega) nonnegTail sameTail)

omit [LinearOrder K] [IsStrictOrderedRing K] in
/-- Gains that are the same at every position sum up to the same. -/
theorem sum_take_congr (same : ∀ index, gains.getD index 0 = others.getD index 0) (count : Nat) :
    (gains.take count).sum = (others.take count).sum := by
  induction count generalizing gains others with
  | zero => rfl
  | succ count inductionHypothesis =>
    have head := same 0
    rw [getD_zero, getD_zero] at head
    rw [sum_take_succ, sum_take_succ, head, inductionHypothesis fun index => ?_]
    simpa only [getD_succ] using same (index + 1)

/-- Gains that are dominated by others weigh the same exactly if they are the same. -/
theorem Dominated.weigh_eq_iff (dominated : Dominated gains others)
    (discounts : Discounts discount) (ranked : 1 ≤ rank) (nonneg : ∀ gain ∈ gains, 0 ≤ gain)
    (nonnegOthers : ∀ gain ∈ others, 0 ≤ gain) :
    weigh discount rank gains = weigh discount rank others ↔
      ∀ index, gains.getD index 0 = others.getD index 0 := by
  refine ⟨dominated.getD_eq discounts ranked nonnegOthers, fun same => ?_⟩
  refine le_antisymm (dominated.weigh_le discounts.mild ranked nonnegOthers) ?_
  have back : Dominated others gains := fun count => (sum_take_congr same count).ge
  exact back.weigh_le discounts.mild ranked nonneg

omit [IsStrictOrderedRing K] in
theorem Dominated.cut (dominated : Dominated gains others) (limit : Option Nat) :
    Dominated (ItemList.cut limit gains) (ItemList.cut limit others) := by
  cases limit with
  | none => exact dominated
  | some most =>
    intro count
    simpa only [ItemList.cut, List.take_take] using dominated (min count most)

/-- Gains are dominated by those that only go on after them. -/
theorem dominated_append (nonneg : ∀ gain ∈ others, 0 ≤ gain) :
    Dominated gains (gains ++ others) := by
  intro count
  rw [List.take_append, List.sum_append]
  exact le_add_of_nonneg_right
    (List.sum_nonneg fun gain member => nonneg gain (List.mem_of_mem_take member))

omit [LinearOrder K] [IsStrictOrderedRing K] in
theorem take_eq_ones_of_getD {count : Nat}
    (same : ∀ index, gains.getD index 0 = (List.replicate count 1).getD index 0) :
    gains.take count = List.replicate count 1 := by
  refine List.ext_getElem? fun index => ?_
  by_cases within : index < count
  · have here := same index
    rw [List.getD_eq_getElem?_getD, List.getD_eq_getElem?_getD,
      List.getElem?_replicate_of_lt within, Option.getD_some] at here
    rw [List.getElem?_take_of_lt within, List.getElem?_replicate_of_lt within]
    cases found : gains[index]? with
    | none =>
      rw [found, Option.getD_none] at here
      exact absurd here.symm one_ne_zero
    | some gain =>
      rw [found, Option.getD_some] at here
      rw [here]
  · rw [List.getElem?_eq_none (by simp; omega), List.getElem?_eq_none (by simpa using within)]

/-- Gains that are dominated by some ones weigh the same exactly if they begin with these. -/
theorem Dominated.weigh_eq_ones_iff {count : Nat}
    (dominated : Dominated gains (List.replicate count 1)) (discounts : Discounts discount)
    (ranked : 1 ≤ rank) (nonneg : ∀ gain ∈ gains, 0 ≤ gain) :
    weigh discount rank gains = weigh discount rank (List.replicate count 1) ↔
      gains.take count = List.replicate count 1 := by
  have ones : ∀ gain ∈ List.replicate count (1 : K), 0 ≤ gain := fun gain member =>
    zero_le_one.trans_eq (List.eq_of_mem_replicate member).symm
  constructor
  · intro same
    exact take_eq_ones_of_getD
      ((dominated.weigh_eq_iff discounts ranked nonneg ones).mp same)
  · intro begins
    refine le_antisymm (dominated.weigh_le discounts.mild ranked ones) ?_
    have goesOn : Dominated (List.replicate count 1) gains := by
      rw [← begins]
      conv_rhs => rw [← List.take_append_drop count gains]
      exact dominated_append fun gain member => nonneg gain (List.mem_of_mem_drop member)
    exact goesOn.weigh_le discounts.mild ranked nonneg

omit [LinearOrder K] [IsStrictOrderedRing K] in
/-- What is cut off plays no part. -/
theorem getD_cut (limit : Option Nat) :
    (∀ position, (ItemList.cut limit gains).getD position 0 =
        (ItemList.cut limit others).getD position 0) ↔
      ∀ position, (∀ count ∈ limit, position < count) →
        gains.getD position 0 = others.getD position 0 := by
  cases limit with
  | none => simp [ItemList.cut]
  | some most =>
    simp only [ItemList.cut, List.getD_eq_getElem?_getD, List.getElem?_take, Option.mem_some_iff,
      forall_eq']
    refine forall_congr' fun position => ?_
    by_cases within : position < most <;> simp [within]

/-! ### The greatest gains -/

/-- Some of the gains that stand in falling order sum up to no more than the first ones. -/
theorem sum_le_of_sublist {few sorted : List K} (falling : sorted.Pairwise (· ≥ ·))
    (nonneg : ∀ gain ∈ sorted, 0 ≤ gain) (some : few.Sublist sorted) {count : Nat}
    (atMost : few.length ≤ count) : few.sum ≤ (sorted.take count).sum := by
  induction sorted generalizing few count with
  | nil =>
    rw [List.sublist_nil.mp some]
    simp
  | cons greatest rest inductionHypothesis =>
    cases few with
    | nil => exact List.sum_nonneg fun gain member => nonneg gain (List.mem_of_mem_take member)
    | cons first others =>
      obtain ⟨fallsFirst, fallsRest⟩ := List.pairwise_cons.mp falling
      have atMostGreatest : first ≤ greatest := by
        rcases List.mem_cons.mp (some.subset List.mem_cons_self) with same | later
        · exact same.le
        · exact fallsFirst first later
      obtain ⟨count, rfl⟩ : ∃ fewer, count = fewer + 1 :=
        ⟨count - 1, by rw [List.length_cons] at atMost; omega⟩
      rw [List.take_succ_cons, List.sum_cons, List.sum_cons]
      refine add_le_add atMostGreatest (inductionHypothesis fallsRest
        (fun gain member => nonneg gain (List.mem_cons_of_mem _ member)) some.tail ?_)
      simpa using atMost

/-- Some of the gains sum up to no more than as many of the greatest. -/
theorem sum_le_of_subperm {few all sorted : List K} (falling : sorted.Pairwise (· ≥ ·))
    (perm : sorted.Perm all) (nonneg : ∀ gain ∈ all, 0 ≤ gain) (some : few.Subperm all)
    {count : Nat} (atMost : few.length ≤ count) : few.sum ≤ (sorted.take count).sum := by
  obtain ⟨part, same, sublist⟩ := perm.subperm_left.mpr some
  rw [← same.sum_eq]
  refine sum_le_of_sublist falling (fun gain member => nonneg gain (perm.mem_iff.mp member))
    sublist ?_
  rw [same.length_eq]
  exact atMost

end Arithmetic

end Holdout
