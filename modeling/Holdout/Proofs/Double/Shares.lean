/-
This file compares shares of one count on doubles. The whole is a share of one, exactly, and of two
different parts the greater has the greater share, as long as the counts are not too great for a
mantissa to tell them apart.
-/

import Holdout.Arithmetic
import Holdout.Proofs.Double.Zeros

namespace Holdout

namespace Double

open Arithmetic Float.Model

/-! ### The double that holds a number -/

/-- No two doubles hold one number. -/
theorem Holds.unique {first second : Float} {number : ℚ} (holds : Holds first number)
    (holdsToo : Holds second number) : first = second := by
  obtain ⟨mantissa, exponent, positive, shape, full, small, rfl⟩ := holds
  obtain ⟨other, otherExponent, otherPositive, otherShape, otherFull, otherSmall, same⟩ := holdsToo
  have unit : (0 : ℚ) < 2 ^ exponent := zpow_pos two_pos _
  obtain ⟨atLeast, below⟩ := bounds_of_full exponent full small
  rw [same] at atLeast below
  have bounds := exponent_bounds _ _ otherFull otherSmall atLeast below
  obtain rfl : exponent = otherExponent := by omega
  obtain rfl : mantissa = other := by exact_mod_cast mul_right_cancel₀ unit.ne' same
  apply Score.unpack_injective
  show first.toModel.unpack = second.toModel.unpack
  rw [shape, otherShape]

/-- Next to one there is no other double so near that it could be what one is rounded to. -/
theorem eq_one_of_near {mantissa : Nat} {exponent : Int} (full : 2 ^ 52 ≤ mantissa)
    (small : mantissa < 2 ^ 53)
    (near : |(mantissa : ℚ) * 2 ^ exponent - 1| ≤ mantissa * 2 ^ exponent / 2 ^ 53) :
    (mantissa : ℚ) * 2 ^ exponent = 1 := by
  obtain ⟨notLess, notMore⟩ := abs_le.mp near
  have isFull : (2 : ℚ) ^ 52 ≤ mantissa := by exact_mod_cast full
  have isSmall : (mantissa : ℚ) + 1 ≤ 2 ^ 53 := by exact_mod_cast small
  have atLeast : (2 : ℚ) ^ (-1 : Int) ≤ mantissa * 2 ^ exponent := by
    norm_num
    linarith
  have below : (mantissa : ℚ) * 2 ^ exponent < 2 ^ (1 : Int) := by
    norm_num
    linarith
  have bounds := exponent_bounds (-1) 1 full small atLeast below
  obtain rfl | rfl : exponent = -53 ∨ exponent = -52 := by omega
  · -- The numbers below one stop short of it by more than that.
    norm_num at notLess isSmall
    linarith
  · have above : (mantissa : ℚ) < 2 ^ 52 + 1 := by
      norm_num at notMore
      linarith
    have notAbove : mantissa < 2 ^ 52 + 1 := by exact_mod_cast above
    obtain rfl : mantissa = 2 ^ 52 := by omega
    norm_num

/-! ### Shares of one count -/

section

variable {part other whole : Nat}

theorem exists_holds_ratio (some : 0 < part) (few : part < 2 ^ 53) (something : 0 < whole)
    (fewer : whole < 2 ^ 53) :
    ∃ share, Holds (double.ratio part whole) share ∧
      |share - (part : ℚ) / whole| ≤ share / 2 ^ 53 :=
  (holds_ofNat some few).div (holds_ofNat something fewer)
    ⟨by exact_mod_cast some, by exact_mod_cast few⟩
    ⟨by exact_mod_cast something, by exact_mod_cast fewer⟩

theorem isZero_ratio (something : 0 < whole) : IsZero (double.ratio 0 whole) :=
  isZero_ofNat.div (ofNat_pos something)

theorem isNaN_ratio (few : part < 2 ^ 53) (something : 0 < whole) (fewer : whole < 2 ^ 53) :
    (double.ratio part whole).isNaN = false := by
  rcases Nat.eq_zero_or_pos part with rfl | some
  · obtain ⟨sign, shape⟩ := isZero_ratio something
    show (double.ratio 0 whole).toModel.unpack.isNaN = false
    rw [shape]
    rfl
  · obtain ⟨share, holds, -⟩ := exists_holds_ratio some few something fewer
    exact holds.isNaN

/-- All of a count is a share of one. -/
theorem ratio_self (something : 0 < whole) (few : whole < 2 ^ 53) :
    double.ratio whole whole = Float.ofNat 1 := by
  obtain ⟨share, holds, near⟩ := exists_holds_ratio something few something few
  rw [div_self (by exact_mod_cast something.ne')] at near
  have one : share = (1 : Nat) := by
    obtain ⟨mantissa, exponent, -, -, full, small, rfl⟩ := holds
    exact (eq_one_of_near full small near).trans Nat.cast_one.symm
  exact holds.unique (one ▸ holds_ofNat (by decide) (by decide))

/-- A greater count in relation to the same one is greater on doubles, below a limit. -/
theorem ratio_lt_ratio (less : part < other) (atMost : other ≤ 2 ^ 52) (something : 0 < whole)
    (few : whole < 2 ^ 53) : double.ratio part whole < double.ratio other whole := by
  rcases Nat.eq_zero_or_pos part with rfl | positive
  · obtain ⟨share, holds, -⟩ := exists_holds_ratio less (by omega) something few
    exact (isZero_ratio something).lt holds.pos
  · exact div_lt_div_of_holds (holds_ofNat positive (by omega))
      (holds_ofNat (by omega : 0 < other) (by omega)) (holds_ofNat something few)
      (by exact_mod_cast positive) (by exact_mod_cast less) (by exact_mod_cast atMost)
      ⟨by exact_mod_cast something, by exact_mod_cast few⟩

end

/-! ### Comparing shares -/

theorem atMost_iff_height {first second : Float} (isFirst : first.isNaN = false)
    (isSecond : second.isNaN = false) :
    double.atMost first second = true ↔ Score.height first ≤ Score.height second :=
  decide_eq_true_iff.trans (Score.le_iff_height isFirst isSecond)

theorem atMost_of_lt {first second : Float} (less : first < second) :
    double.atMost first second = true := by
  obtain ⟨isFirst, isSecond⟩ := Score.isNaN_of_lt less
  exact (atMost_iff_height isFirst isSecond).mpr
    ((Score.lt_iff_height isFirst isSecond).mp less).le

/-- Zeros are at most as great as one another, whatever their signs are. -/
theorem IsZero.atMost {first second : Float} (zero : IsZero first) (other : IsZero second) :
    double.atMost first second = true := by
  obtain ⟨sign, shape⟩ := zero
  obtain ⟨otherSign, otherShape⟩ := other
  refine decide_eq_true ?_
  show decide (UnpackedFloat.le first.toModel.unpack second.toModel.unpack = true) = true
  rw [shape, otherShape]
  rfl

end Double

end Holdout
