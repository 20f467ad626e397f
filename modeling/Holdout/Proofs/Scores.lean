/-
This file puts scores in a linear order. A score that is a number has a height, by which numbers
compare exactly as they do as floats, both zeros being of one height. The place of a score in a
ranking is its height turned around, with every value that is no number behind every number. To
compare two scores is to compare their places.
-/

import Holdout.ItemList.Ranking
import Mathlib

namespace Holdout

namespace Score

open Float.Model (UnpackedFloat)

/-! ### The height of a number -/

/-- Numbers go by their kind first: the negative infinity, the negative numbers, zero, the positive
numbers, the positive infinity. Then they go by exponent and mantissa. -/
abbrev Height := Int ×ₗ Int ×ₗ Int

def heightAt (kind exponent mantissa : Int) : Height := toLex (kind, toLex (exponent, mantissa))

def heightOf : UnpackedFloat → Height
  | .infinity .negative => heightAt (-2) 0 0
  | .finite .negative mantissa exponent _ => heightAt (-1) (-exponent) (-mantissa)
  | .zero _ | .notANumber => heightAt 0 0 0
  | .finite .positive mantissa exponent _ => heightAt 1 exponent mantissa
  | .infinity .positive => heightAt 2 0 0

theorem heightAt_inj {kind otherKind exponent otherExponent mantissa otherMantissa : Int} :
    heightAt kind exponent mantissa = heightAt otherKind otherExponent otherMantissa ↔
      kind = otherKind ∧ exponent = otherExponent ∧ mantissa = otherMantissa := by
  rw [heightAt, heightAt, toLex_inj, Prod.mk_inj, toLex_inj, Prod.mk_inj]

/-- Only the positive infinity is at its height. -/
theorem eq_infinity_of_height {number : UnpackedFloat}
    (same : heightOf (.infinity .positive) = heightOf number) : .infinity .positive = number := by
  cases number with
  | infinity sign | finite sign => cases sign <;> simp [heightOf, heightAt_inj] at same ⊢
  | _ => simp [heightOf, heightAt_inj] at same

/-- At the height of a positive number there is no other. -/
theorem eq_finite_of_height {mantissa : Nat} {exponent : Int} {positive : 0 < mantissa}
    {number : UnpackedFloat}
    (same : heightOf (.finite .positive mantissa exponent positive) = heightOf number) :
    .finite .positive mantissa exponent positive = number := by
  cases number with
  | infinity sign => cases sign <;> simp [heightOf, heightAt_inj] at same
  | finite sign other otherExponent otherPositive =>
    cases sign with
    | negative => simp [heightOf, heightAt_inj] at same
    | positive =>
      obtain ⟨-, rfl, sameMantissa⟩ := heightAt_inj.mp same
      obtain rfl := Int.ofNat_inj.mp sameMantissa
      rfl
  | _ => simp [heightOf, heightAt_inj] at same

theorem compare_neg (first second : Int) :
    compare (-first) (-second) = (compare first second).swap := by
  rw [Int.compare_swap]
  simp only [Int.compare_eq_ite_lt, Int.neg_lt_neg_iff]

theorem compare_natCast (first second : Nat) :
    compare (first : Int) (second : Int) = compare first second := by
  simp only [Int.compare_eq_ite_lt, Nat.compare_eq_ite_lt, Int.ofNat_lt]

theorem compare_heightAt (kind firstExponent firstMantissa secondExponent secondMantissa : Int) :
    compare (heightAt kind firstExponent firstMantissa)
        (heightAt kind secondExponent secondMantissa) =
      (compare firstExponent secondExponent).then (compare firstMantissa secondMantissa) := by
  show (compare kind kind).then _ = _
  rw [compare_eq_iff_eq.mpr rfl]
  rfl

/-- Floats that are numbers compare as their heights do. -/
theorem compare_unpacked {first second : UnpackedFloat} (isFirst : first.isNaN = false)
    (isSecond : second.isNaN = false) :
    first.compare second = some (compare (heightOf first) (heightOf second)) := by
  cases first with
  | notANumber => cases isFirst
  | infinity sign =>
    cases second with
    | notANumber => cases isSecond
    | infinity other => cases sign <;> cases other <;> rfl
    | zero other => cases sign <;> rfl
    | finite other mantissa exponent positive => cases sign <;> cases other <;> rfl
  | zero sign =>
    cases second with
    | notANumber => cases isSecond
    | infinity other => cases other <;> rfl
    | zero other => rfl
    | finite other mantissa exponent positive => cases other <;> rfl
  | finite sign mantissa exponent positive =>
    cases second with
    | notANumber => cases isSecond
    | infinity other => cases sign <;> cases other <;> rfl
    | zero other => cases sign <;> rfl
    | finite other otherMantissa otherExponent otherPositive =>
      -- Numbers of one sign go by exponent and mantissa, the negative ones the other way around.
      cases sign <;> cases other
      case negative.negative =>
        show some _ = some (compare (heightAt _ _ _) (heightAt _ _ _))
        rw [compare_heightAt, compare_neg, compare_neg, compare_natCast, Ordering.swap_then]
      case positive.positive =>
        show some _ = some (compare (heightAt _ _ _) (heightAt _ _ _))
        rw [compare_heightAt, compare_natCast]
      all_goals rfl

def height (score : Float) : Height := heightOf score.toModel.unpack

/-- A double is what its sign, its mantissa and its exponent say. -/
theorem unpack_injective : Function.Injective fun score : Float => score.toModel.unpack := by
  rintro ⟨⟨first, validFirst⟩⟩ ⟨⟨second, validSecond⟩⟩ same
  have bits := (UnpackedFloat.unpack_inj_of_valid validFirst validSecond).mp same
  obtain rfl : first = second := UInt64.toBitVec_inj.mp bits
  rfl

section

variable {first second : Float}

theorem compare_model (isFirst : first.isNaN = false) (isSecond : second.isNaN = false) :
    first.toModel.unpack.compare second.toModel.unpack =
      some (compare (height first) (height second)) :=
  compare_unpacked isFirst isSecond

theorem lt_iff_height (isFirst : first.isNaN = false) (isSecond : second.isNaN = false) :
    first < second ↔ height first < height second := by
  show decide (UnpackedFloat.lt _ _ = true) = true ↔ _
  rw [decide_eq_true_iff, UnpackedFloat.lt, compare_model isFirst isSecond, beq_iff_eq,
    Option.some_inj, compare_lt_iff_lt]

theorem le_iff_height (isFirst : first.isNaN = false) (isSecond : second.isNaN = false) :
    first ≤ second ↔ height first ≤ height second := by
  show decide (UnpackedFloat.le _ _ = true) = true ↔ _
  rw [decide_eq_true_iff, UnpackedFloat.le, compare_model isFirst isSecond, Option.any_some,
    Ordering.isLE_iff_ne_gt]
  exact compare_le_iff_le

theorem beq_iff_height (isFirst : first.isNaN = false) (isSecond : second.isNaN = false) :
    (first == second) = true ↔ height first = height second := by
  show UnpackedFloat.beq _ _ = true ↔ _
  rw [UnpackedFloat.beq, compare_model isFirst isSecond, beq_iff_eq, Option.some_inj,
    compare_eq_iff_eq]

theorem isNaN_of_compare {result : Ordering}
    (compared : first.toModel.unpack.compare second.toModel.unpack = some result) :
    first.isNaN = false ∧ second.isNaN = false := by
  show first.toModel.unpack.isNaN = false ∧ second.toModel.unpack.isNaN = false
  revert compared
  cases first.toModel.unpack <;> cases second.toModel.unpack <;>
    simp [UnpackedFloat.compare, UnpackedFloat.isNaN]

theorem isNaN_of_lt (less : first < second) : first.isNaN = false ∧ second.isNaN = false :=
  isNaN_of_compare (beq_iff_eq.mp (of_decide_eq_true less))

theorem isNaN_of_beq (same : (first == second) = true) :
    first.isNaN = false ∧ second.isNaN = false :=
  isNaN_of_compare (beq_iff_eq.mp same)

end

/-! ### The place of a score in a ranking -/

/-- The greater score stands before the lesser, and a number before what is no number. -/
def Before (first second : Float) : Prop :=
  second < first ∨ first.isNaN = false ∧ second.isNaN = true

/-- Scores that are equal as floats, both zeros among them, are level, and so are all values that
are no numbers. -/
def Level (first second : Float) : Prop :=
  (first == second) = true ∨ first.isNaN = true ∧ second.isNaN = true

def place (score : Float) : WithTop Heightᵒᵈ :=
  if score.isNaN then ⊤ else ↑(OrderDual.toDual (height score))

theorem place_of_number {score : Float} (isNumber : score.isNaN = false) :
    place score = ↑(OrderDual.toDual (height score)) :=
  if_neg (Bool.eq_false_iff.mp isNumber)

theorem place_of_nan {score : Float} (isNaN : score.isNaN = true) : place score = ⊤ := if_pos isNaN

section

variable {first second : Float}

theorem not_lt_of_nan (isNaN : first.isNaN = true ∨ second.isNaN = true) : ¬ first < second := by
  intro less
  obtain ⟨isFirst, isSecond⟩ := isNaN_of_lt less
  rw [isFirst, isSecond] at isNaN
  rcases isNaN with impossible | impossible <;> cases impossible

theorem not_beq_of_nan (isNaN : first.isNaN = true ∨ second.isNaN = true) :
    ¬ (first == second) = true := by
  intro same
  obtain ⟨isFirst, isSecond⟩ := isNaN_of_beq same
  rw [isFirst, isSecond] at isNaN
  rcases isNaN with impossible | impossible <;> cases impossible

theorem before_iff_place : Before first second ↔ place first < place second := by
  unfold Before
  cases isFirst : first.isNaN with
  | true =>
    rw [place_of_nan isFirst]
    refine iff_of_false ?_ not_top_lt
    rintro (greater | ⟨impossible, -⟩)
    · exact not_lt_of_nan (Or.inr isFirst) greater
    · cases impossible
  | false =>
    cases isSecond : second.isNaN with
    | true =>
      rw [place_of_number isFirst, place_of_nan isSecond]
      exact iff_of_true (Or.inr ⟨rfl, rfl⟩) (WithTop.coe_lt_top _)
    | false =>
      rw [place_of_number isFirst, place_of_number isSecond, WithTop.coe_lt_coe,
        OrderDual.toDual_lt_toDual, ← lt_iff_height isSecond isFirst]
      exact or_iff_left fun impossible => Bool.false_ne_true impossible.2

theorem level_iff_place : Level first second ↔ place first = place second := by
  unfold Level
  cases isFirst : first.isNaN with
  | true =>
    cases isSecond : second.isNaN with
    | true =>
      rw [place_of_nan isFirst, place_of_nan isSecond]
      exact iff_of_true (Or.inr ⟨rfl, rfl⟩) rfl
    | false =>
      rw [place_of_nan isFirst, place_of_number isSecond]
      refine iff_of_false ?_ WithTop.top_ne_coe
      rintro (same | ⟨-, impossible⟩)
      · exact not_beq_of_nan (Or.inl isFirst) same
      · cases impossible
  | false =>
    cases isSecond : second.isNaN with
    | true =>
      rw [place_of_number isFirst, place_of_nan isSecond]
      refine iff_of_false ?_ WithTop.coe_ne_top
      rintro (same | ⟨impossible, -⟩)
      · exact not_beq_of_nan (Or.inr isSecond) same
      · cases impossible
    | false =>
      rw [place_of_number isFirst, place_of_number isSecond, WithTop.coe_inj, OrderDual.toDual_inj,
        ← beq_iff_height isFirst isSecond]
      exact or_iff_left fun impossible => Bool.false_ne_true impossible.1

theorem compareScores_of_numbers (isFirst : first.isNaN = false) (isSecond : second.isNaN = false) :
    ItemList.compareScores first second =
      if second < first then .lt else if first < second then .gt else .eq := by
  rw [ItemList.compareScores, isFirst, isSecond]

theorem compareScores_of_before (before : Before first second) :
    ItemList.compareScores first second = .lt := by
  rcases before with greater | ⟨isFirst, isSecond⟩
  · obtain ⟨isSecond, isFirst⟩ := isNaN_of_lt greater
    rw [compareScores_of_numbers isFirst isSecond, if_pos greater]
  · rw [ItemList.compareScores, isFirst, isSecond]

theorem compareScores_of_after (after : Before second first) :
    ItemList.compareScores first second = .gt := by
  have notBefore : ¬ second < first := fun greater =>
    lt_asymm (before_iff_place.mp after) (before_iff_place.mp (Or.inl greater))
  rcases after with less | ⟨isSecond, isFirst⟩
  · obtain ⟨isFirst, isSecond⟩ := isNaN_of_lt less
    rw [compareScores_of_numbers isFirst isSecond, if_neg notBefore, if_pos less]
  · rw [ItemList.compareScores, isFirst, isSecond]

theorem compareScores_of_level (level : Level first second) :
    ItemList.compareScores first second = .eq := by
  have same := level_iff_place.mp level
  have notBefore : ¬ second < first := fun greater =>
    (before_iff_place.mp (Or.inl greater)).ne same
  have notAfter : ¬ first < second := fun less =>
    (before_iff_place.mp (Or.inl less)).ne same.symm
  rcases level with equal | ⟨isFirst, isSecond⟩
  · obtain ⟨isFirst, isSecond⟩ := isNaN_of_beq equal
    rw [compareScores_of_numbers isFirst isSecond, if_neg notBefore, if_neg notAfter]
  · rw [ItemList.compareScores, isFirst, isSecond]

/-- To compare two scores is to compare their places. -/
theorem compareScores_eq_compare :
    ItemList.compareScores first second = compare (place first) (place second) := by
  rcases lt_trichotomy (place first) (place second) with less | same | more
  · rw [compare_lt_iff_lt.mpr less]
    exact compareScores_of_before (before_iff_place.mpr less)
  · rw [compare_eq_iff_eq.mpr same]
    exact compareScores_of_level (level_iff_place.mpr same)
  · rw [compare_gt_iff_gt.mpr more]
    exact compareScores_of_after (before_iff_place.mpr more)

end

end Score

end Holdout
