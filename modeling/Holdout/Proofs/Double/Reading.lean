/-
This file reads doubles as the numbers they stand for. What a double holds is what is read of it,
and so is what its bits say, and a double strictly between zero and one is read as such a number in
every ordered field.
-/

import Holdout.Decimal.Basic
import Holdout.Proofs.Double.Zeros

namespace Holdout

namespace Double

open Float.Model Float.Model.UnpackedFloat

/-- The number that a finite double stands for; all others are read as zero. -/
def reading (double : Float) : ℚ :=
  match double.toModel.unpack with
  | .finite .positive mantissa exponent _ => mantissa * 2 ^ exponent
  | .finite .negative mantissa exponent _ => -(mantissa * 2 ^ exponent)
  | _ => 0

theorem Holds.reading_eq {double : Float} {number : ℚ} (holds : Holds double number) :
    reading double = number := by
  obtain ⟨mantissa, exponent, positive, shape, -, -, rfl⟩ := holds
  simp only [reading, shape]

theorem reading_between {double : Float} (positive : 0 < double) (less : double < 1) :
    0 < reading double ∧ reading double < 1 := by
  obtain ⟨shift, mantissa, isPositive, below, -, shape⟩ := shape_of_lt_one positive less
  have unit : (0 : ℚ) < 2 ^ (-52 - shift : Int) := zpow_pos two_pos _
  have whole : (2 : ℚ) ^ 52 * 2 ^ shift * 2 ^ (-52 - shift : Int) = 1 := by
    rw [← zpow_natCast, ← zpow_natCast, ← zpow_add₀ two_ne_zero, ← zpow_add₀ two_ne_zero]
    norm_num
  have belowCast : (mantissa : ℚ) < 2 ^ 52 * 2 ^ shift := by exact_mod_cast below
  simp only [reading, shape]
  exact ⟨mul_pos (Nat.cast_pos.mpr isPositive) unit,
    (mul_lt_mul_of_pos_right belowCast unit).trans_eq whole⟩

/-! ### The bits -/

theorem toNat_unpackMantissa (bits : BitVec 64) :
    (@unpackMantissa Format.binary64 bits).toNat = bits.toNat % 2 ^ 52 := by
  simp [unpackMantissa, BitVec.extractLsb_toNat]

theorem toNat_unpackExponent (bits : BitVec 64) :
    (@unpackExponent Format.binary64 bits).toNat = bits.toNat / 2 ^ 52 % 2 ^ 11 := by
  simp [unpackExponent, BitVec.extractLsb_toNat, Nat.shiftRight_eq_div_pow]

/-- The parts that are cut out of the bits of a double are its mantissa and its exponent. -/
theorem binaryParts_of_unpack {double : Float} {sign : Sign} {mantissa : Nat} {exponent : Int}
    {positive : 0 < mantissa}
    (shape : double.toModel.unpack = .finite sign mantissa exponent positive) :
    Decimal.binaryParts double = (mantissa, exponent) := by
  have fraction := toNat_unpackMantissa double.toModel.toBits.toBitVec
  have field := toNat_unpackExponent double.toModel.toBits.toBitVec
  have bits : double.toBits.toNat = double.toModel.toBits.toBitVec.toNat := rfl
  unfold Float.Model.unpack UnpackedFloat.unpack at shape
  unfold Decimal.binaryParts
  rw [bits]
  dsimp only [twoTo, Nat.pow_eq] at shape ⊢
  rw [← fraction, ← field]
  split at shape
  · split at shape <;> cases shape
  · split at shape
    · rename_i least
      split at shape
      · cases shape
      · cases shape
        rw [least]
        rfl
    · rename_i notLeast
      cases shape
      have something : (@unpackExponent Format.binary64 double.toModel.toBits.toBitVec).toNat ≠ 0 :=
        fun none => notLeast (BitVec.eq_of_toNat_eq none)
      rw [if_neg something, toNat_leading, Nat.add_comm]
      rfl

end Double

end Holdout
