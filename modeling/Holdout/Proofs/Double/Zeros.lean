/-
This file shows that zeros stay zeros where they are added, scaled by something finite, or divided
by something positive, and that they leave whatever else they are added to as it is. It finds what
is positive and what is finite among the numbers that metrics scale and divide by: every count but
zero, and what a probability leaves of one.
-/

import Holdout.Proofs.Double.Counts

namespace Holdout

namespace Double

open Float.Model Float.Model.UnpackedFloat

/-! ### Zeros -/

/-- One of both zeros. -/
def IsZero (double : Float) : Prop := ∃ sign, double.toModel.unpack = .zero sign

section

variable {first second : Float}

theorem IsZero.beq (zero : IsZero first) : (first == 0) = true := by
  obtain ⟨sign, shape⟩ := zero
  show UnpackedFloat.beq first.toModel.unpack (0 : Float).toModel.unpack = true
  rw [shape]
  cases sign <;> rfl

theorem isZero_ofNat : IsZero (Float.ofNat 0) := ⟨.positive, rfl⟩

theorem isZero_negative : IsZero (-0.0) := ⟨.negative, rfl⟩

theorem isZero_ofModel (sign : Sign) : IsZero (.ofModel (pack (.zero sign))) :=
  ⟨sign, by cases sign <;> rfl⟩

theorem IsZero.add (zero : IsZero first) (other : IsZero second) : IsZero (first + second) := by
  obtain ⟨sign, shape⟩ := zero
  obtain ⟨otherSign, otherShape⟩ := other
  show IsZero (.ofModel (pack (UnpackedFloat.add Format.binary64 _ _)))
  rw [shape, otherShape]
  cases sign <;> cases otherSign <;> exact isZero_ofModel _

theorem pack_unpack (double : Float) : Float.ofModel (pack double.toModel.unpack) = double := by
  obtain ⟨⟨⟨bits⟩, valid⟩⟩ := double
  have packed :
      UnpackedFloat.pack Format.binary64 (UnpackedFloat.unpack Format.binary64 bits) = bits :=
    pack_unpack_of_valid valid
  simp only [Float.Model.pack, Float.Model.unpack, packed]

/-- A zero is added to anything else without a trace, be this an infinity or no number. -/
theorem add_of_isZero (something : ¬ IsZero first) (zero : IsZero second) :
    first + second = first := by
  obtain ⟨sign, zeroShape⟩ := zero
  have stays : UnpackedFloat.add Format.binary64 first.toModel.unpack (.zero sign) =
      first.toModel.unpack := by
    cases shape : first.toModel.unpack with
    | zero other => exact absurd ⟨other, shape⟩ something
    | _ => rfl
  show Float.ofModel (pack (UnpackedFloat.add Format.binary64 _ _)) = first
  rw [zeroShape, stays, pack_unpack]

theorem IsZero.mul (zero : IsZero first) (isFinite : second.isFinite = true) :
    IsZero (first * second) := by
  obtain ⟨sign, shape⟩ := zero
  show IsZero (.ofModel (pack (UnpackedFloat.mul Format.binary64 _ _)))
  rw [Float.isFinite, Float.Model.isFinite] at isFinite
  rw [shape]
  cases otherShape : second.toModel.unpack with
  | notANumber | infinity => simp [otherShape, UnpackedFloat.isFinite] at isFinite
  | zero | finite => exact isZero_ofModel _

/-- A positive double is infinite or has a mantissa. -/
theorem pos_iff : 0 < first ↔ first.toModel.unpack = .infinity .positive ∨
    ∃ mantissa exponent positive,
      first.toModel.unpack = .finite .positive mantissa exponent positive := by
  show decide (UnpackedFloat.lt (.zero .positive) first.toModel.unpack = true) = true ↔ _
  cases first.toModel.unpack with
  | notANumber => simp [UnpackedFloat.lt, UnpackedFloat.compare]
  | infinity sign => cases sign <;> simp [UnpackedFloat.lt, UnpackedFloat.compare]
  | zero sign => simp [UnpackedFloat.lt, UnpackedFloat.compare]
  | finite sign mantissa exponent positive =>
    cases sign <;> simp [UnpackedFloat.lt, UnpackedFloat.compare, positive]

theorem IsZero.div (zero : IsZero first) (positive : 0 < second) : IsZero (first / second) := by
  obtain ⟨sign, shape⟩ := zero
  show IsZero (.ofModel (pack (UnpackedFloat.div Format.binary64 _ _)))
  rw [shape]
  rcases pos_iff.mp positive with infinite | ⟨mantissa, exponent, positive, finite⟩
  · rw [infinite]
    exact isZero_ofModel _
  · rw [finite]
    exact isZero_ofModel _

theorem IsZero.lt (zero : IsZero first) (positive : 0 < second) : first < second := by
  obtain ⟨sign, shape⟩ := zero
  show decide (UnpackedFloat.lt first.toModel.unpack second.toModel.unpack = true) = true
  rw [shape]
  rcases pos_iff.mp positive with infinite | ⟨mantissa, exponent, positive, finite⟩
  · rw [infinite]
    cases sign <;> rfl
  · rw [finite]
    cases sign <;> simp [UnpackedFloat.lt, UnpackedFloat.compare]

end

theorem Holds.pos {double : Float} {number : ℚ} (holds : Holds double number) : 0 < double := by
  obtain ⟨mantissa, exponent, positive, shape, -⟩ := holds
  exact pos_iff.mpr (Or.inr ⟨mantissa, exponent, positive, shape⟩)

theorem Rounded.pos {last : Int} {exact : ℚ} {result : UnpackedFloat}
    (rounded : Rounded .positive last exact result) (least : -1074 ≤ last) :
    0 < Float.ofModel (pack result) := by
  obtain ⟨mantissa, exponent, positive, rfl, full, small, notBefore, -⟩ := rounded
  by_cases great : 971 < exponent
  · exact pos_iff.mpr (Or.inl (unpack_pack_of_great _ positive great))
  · exact pos_iff.mpr (Or.inr ⟨_, _, _,
      unpack_pack_of_full _ positive full small (by omega) (by omega)⟩)

/-- A count is positive as a double, however great it is. -/
theorem ofNat_pos {count : Nat} (positive : 0 < count) : 0 < Float.ofNat count := by
  by_cases small : count < 2 ^ 53
  · exact (holds_ofNat positive small).pos
  -- Beyond the limit the digits of the count are taken as they are, with zeros after them.
  have made : Float.ofNat count = .ofModel (pack (roundWithAccuracy Format.binary64 .positive
      (count <<< 53 * 10 ^ 0) (-53 + 0) .exact)) := by
    have bits : (0 : Int) ≤ 2 ^ Format.binary64.exponentBits := by positivity
    show Float.ofScientific count false 0 = _
    rw [Float.ofScientific, dif_neg fun fits => small fits.1]
    show Float.ofModel (pack (UnpackedFloat.ofScientific Format.binary64 count 0)) = _
    rw [UnpackedFloat.ofScientific, dif_neg positive.ne', if_neg (by decide), if_neg (by omega),
      if_pos (le_refl _)]
    rfl
  have digits : 53 ≤ (count <<< 53 * 10 ^ 0).log2 := by
    rw [Nat.pow_zero, Nat.mul_one, Nat.shiftLeft_eq, Nat.le_log2 (by omega)]
    omega
  have normal : -1022 ≤ ((count <<< 53 * 10 ^ 0).log2 : Int) + (-53 + 0) := by omega
  have rounded := rounded_roundWithAccuracy .positive (by omega) normal (represents_exact _)
  rw [made]
  exact rounded.pos (by omega)

/-! ### What is left of one -/

theorem mantissa_lt_of_unpack {double : Float} {sign : Sign} {mantissa : Nat} {exponent : Int}
    {positive : 0 < mantissa}
    (shape : double.toModel.unpack = .finite sign mantissa exponent positive) :
    mantissa < 2 ^ 53 := by
  unfold Float.Model.unpack UnpackedFloat.unpack at shape
  dsimp only at shape
  split at shape
  · split at shape <;> cases shape
  · split at shape
    · split at shape
      · cases shape
      · cases shape
        exact (BitVec.isLt _).trans (by decide)
    · cases shape
      exact BitVec.isLt _

theorem unpack_one :
    (1 : Float).toModel.unpack = .finite .positive (2 ^ 52) (-52) (by decide) := rfl

/-- A positive double below one, by its digits. -/
theorem shape_of_lt_one {double : Float} (positive : 0 < double) (less : double < 1) :
    ∃ (shift mantissa : Nat) (isPositive : 0 < mantissa), mantissa < 2 ^ 52 * 2 ^ shift ∧
      mantissa < 2 ^ 53 ∧
        double.toModel.unpack = .finite .positive mantissa (-52 - shift) isPositive := by
  have compared : UnpackedFloat.lt double.toModel.unpack (1 : Float).toModel.unpack = true :=
    of_decide_eq_true less
  rcases pos_iff.mp positive with infinite | ⟨mantissa, exponent, isPositive, shape⟩
  · rw [infinite] at compared
    cases compared
  have small := mantissa_lt_of_unpack shape
  have before : exponent < -52 ∨ exponent = -52 ∧ mantissa < 2 ^ 52 := by
    rw [shape, unpack_one] at compared
    simpa [UnpackedFloat.lt, UnpackedFloat.compare, Ordering.then_eq_lt, compare_lt_iff_lt]
      using compared
  refine ⟨(-52 - exponent).toNat, mantissa, isPositive, ?_, small, ?_⟩
  · rcases before with below | ⟨rfl, less⟩
    · obtain ⟨more, shift⟩ := Nat.exists_eq_add_of_le (by omega : 1 ≤ (-52 - exponent).toNat)
      rw [shift, pow_add]
      calc mantissa < 2 ^ 52 * 2 ^ 1 := small
        _ ≤ 2 ^ 52 * (2 ^ 1 * 2 ^ more) :=
          Nat.mul_le_mul_left _ (Nat.le_mul_of_pos_right _ (Nat.two_pow_pos more))
    · exact less
  · rw [shape]
    congr 1
    omega

/-- One less something between zero and one is no infinity. -/
theorem isFinite_one_sub {double : Float} (positive : 0 < double) (less : double < 1) :
    (1 - double).isFinite = true := by
  obtain ⟨shift, mantissa, isPositive, below, small, shape⟩ := shape_of_lt_one positive less
  have made : 1 - double = .ofModel (pack (UnpackedFloat.round Format.binary64 .positive
      (2 ^ 52 * 2 ^ shift - mantissa) (-52 - shift))) := by
    have smaller : min (-52) (-52 - (shift : Int)) = -52 - shift := by omega
    have up : (-52 - (-52 - (shift : Int))).toNat = shift := by omega
    have stays : (-52 - (shift : Int) - (-52 - shift)).toNat = 0 := by omega
    have difference : ((2 ^ 52 * 2 ^ shift : Nat) : Int) - mantissa =
        ((2 ^ 52 * 2 ^ shift - mantissa : Nat) : Int) := by omega
    rw [← normalize_of_pos (by omega) .positive, ← difference]
    show Float.ofModel (pack (UnpackedFloat.sub Format.binary64 (1 : Float).toModel.unpack _)) = _
    rw [shape, unpack_one]
    simp only [UnpackedFloat.sub, decreaseExponent, smaller, up, stays, Nat.shiftLeft_eq,
      Sign.apply, pow_zero, mul_one]
  have log : (2 ^ 52 * 2 ^ shift - mantissa).log2 ≤ 52 + shift := by
    rw [← Nat.lt_succ_iff, Nat.log2_lt (by omega), ← pow_add]
    exact (Nat.sub_le _ _).trans_lt (Nat.pow_lt_pow_right (by decide) (Nat.lt_succ_self _))
  have normal : -1022 ≤ ((2 ^ 52 * 2 ^ shift - mantissa).log2 : Int) + (-52 - shift) := by
    rcases Nat.lt_or_ge shift 2 with few | many
    · omega
    · -- What is taken away is less than half.
      have half : 2 ^ 52 * 2 ^ shift = 2 * 2 ^ (51 + shift) := by ring
      have great : 2 ^ 53 ≤ 2 ^ (51 + shift) := Nat.pow_le_pow_right (by decide) (by omega)
      have digits : 51 + shift ≤ (2 ^ 52 * 2 ^ shift - mantissa).log2 :=
        (Nat.le_log2 (by omega)).mpr (by omega)
      omega
  have rounded := rounded_round .positive (by omega) normal
  rw [made]
  exact rounded.isFinite (by omega) (by omega)

end Double

end Holdout
