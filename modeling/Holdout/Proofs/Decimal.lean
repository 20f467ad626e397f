/-
This file proves what the texts of numbers are made of. The digits of a natural number are digits,
do not begin with a superfluous zero and stand for the number; a run of digits ends where something
else begins; and the text of a double is never empty and holds nothing but digits, a point, an
exponent, signs, and what its style adds.
-/

import Holdout.Decimal.Layout
import Holdout.Decimal.Numeral
import Mathlib.Data.List.TakeWhile

namespace Holdout

namespace Decimal

/-! ### Digits -/

theorem isDigit_iff {character : Char} :
    isDigit character = true ↔ 48 ≤ character.toNat ∧ character.toNat ≤ 57 := by
  rw [isDigit, Bool.and_eq_true, decide_eq_true_iff, decide_eq_true_iff]
  exact Iff.rfl

theorem isDigit_of_mem_digitsOf {number : Nat} {character : Char}
    (member : character ∈ digitsOf number) : isDigit character = true := by
  have digit := Nat.isDigit_of_mem_toDigits (by decide) (by decide) member
  rw [Char.isDigit, Bool.and_eq_true, decide_eq_true_iff, decide_eq_true_iff] at digit
  exact isDigit_iff.mpr ⟨digit.1, digit.2⟩

theorem digitsOf_ne_nil (number : Nat) : digitsOf number ≠ [] := Nat.toDigits_ne_nil

theorem valueOf_digitsOf (number : Nat) : valueOf (digitsOf number) = number :=
  Nat.ofDigitChars_ten_toDigits

theorem digitsOf_zero : digitsOf 0 = ['0'] := Nat.toDigits_zero 10

/-- The digits of a positive number do not begin with a zero. -/
theorem head?_digitsOf {number : Nat} (positive : 0 < number) :
    (digitsOf number).head? ≠ some '0' := by
  induction number using Nat.strongRecOn with
  | ind number inductionHypothesis =>
    rw [digitsOf, Nat.toDigits_eq_if (by decide)]
    split
    · rename_i small
      have digit : ∀ value < 10, 0 < value → Nat.digitChar value ≠ '0' := by decide
      simpa using digit number small positive
    · have earlier := inductionHypothesis (number / 10) (by omega) (by omega)
      obtain ⟨first, rest, same⟩ := List.exists_cons_of_ne_nil (digitsOf_ne_nil (number / 10))
      rw [same] at earlier
      rw [digitsOf] at same
      rw [same]
      exact earlier

/-! ### Runs of digits -/

/-- A run of digits ends where no digit follows. -/
theorem spanDigits_append (text : List Char) {rest : List Char}
    (stops : ∀ character ∈ rest.head?, isDigit character = false) :
    spanDigits (text ++ rest) = ((spanDigits text).1, (spanDigits text).2 ++ rest) := by
  induction text with
  | nil =>
    cases rest with
    | nil => rfl
    | cons character others =>
      have other := stops character rfl
      simp [spanDigits, other]
  | cons character others inductionHypothesis =>
    obtain ⟨same, after⟩ := Prod.mk.inj inductionHypothesis
    by_cases digit : isDigit character = true
    · simp only [spanDigits, List.cons_append, List.takeWhile_cons_of_pos digit,
        List.dropWhile_cons_of_pos digit, same, after]
    · simp only [spanDigits, List.cons_append, List.takeWhile_cons_of_neg digit,
        List.dropWhile_cons_of_neg digit]

theorem spanDigits_digitsOf (number : Nat) : spanDigits (digitsOf number) = (digitsOf number, []) :=
  Prod.ext (List.takeWhile_eq_self_iff.mpr fun _ => isDigit_of_mem_digitsOf)
    (List.dropWhile_eq_nil_iff.mpr fun _ => isDigit_of_mem_digitsOf)

/-! ### The text of a double -/

theorem positional_ne_nil (afterWhole : List Char) (decimal : Decimal) :
    positional afterWhole decimal ≠ [] := by
  unfold positional
  cases decimal.exponent with
  | ofNat zeros => simp [digitsOf_ne_nil]
  | negSucc places => simp

theorem scientific_ne_nil (beforePositive : List Char) (decimal : Decimal) :
    scientific beforePositive decimal ≠ [] := by
  simp [scientific]

theorem render_ne_nil (style : Style) (number : Float) (named : style.notANumber ≠ [])
    (infinite : style.infinity ≠ []) : render style number ≠ [] := by
  have laid (decimal : Decimal) : lay style decimal ≠ [] := by
    unfold lay
    split
    · exact positional_ne_nil _ _
    · exact scientific_ne_nil _ _
  unfold render
  split
  · exact named
  · split_ifs <;> simp [infinite, laid]

section

variable {character : Char} (other : isDigit character = false) (point : character ≠ '.')
  (minus : character ≠ '-') (mark : character ≠ 'e')

include other

theorem notMem_digitsOf (number : Nat) : character ∉ digitsOf number := by
  intro member
  rw [isDigit_of_mem_digitsOf member] at other
  cases other

theorem notMem_zeros (count : Nat) : character ∉ List.replicate count '0' := by
  intro member
  rw [List.eq_of_mem_replicate member] at other
  cases other

include point

theorem notMem_positional (afterWhole : List Char) (decimal : Decimal)
    (after : character ∉ afterWhole) : character ∉ positional afterWhole decimal := by
  have digits := notMem_digitsOf other decimal.digits
  unfold positional
  cases decimal.exponent with
  | ofNat zeros => simp [digits, notMem_zeros other, after]
  | negSucc places =>
    have padded : character ∉ List.replicate (places + 2 - (digitsOf decimal.digits).length) '0' ++
        digitsOf decimal.digits := by
      simp [digits, notMem_zeros other]
    rintro member
    rcases List.mem_append.mp member with before | rest
    · exact padded (List.mem_of_mem_take before)
    · rcases List.mem_cons.mp rest with same | behind
      · exact point same
      · exact padded (List.mem_of_mem_drop behind)

include minus mark

theorem notMem_scientific (beforePositive : List Char) (decimal : Decimal)
    (positive : character ∉ beforePositive) : character ∉ scientific beforePositive decimal := by
  have digits := notMem_digitsOf other
  have first : character ∉ (digitsOf decimal.digits).take 1 := fun member =>
    digits _ (List.mem_of_mem_take member)
  have rest : character ∉ (digitsOf decimal.digits).drop 1 := fun member =>
    digits _ (List.mem_of_mem_drop member)
  simp only [scientific]
  split <;> split <;> simp_all

/-- Nothing is in the text of a double but digits, a point, a minus sign, an exponent, and what the
style adds. -/
theorem notMem_render (style : Style) (number : Float) (after : character ∉ style.afterWhole)
    (positive : character ∉ style.beforePositive) (named : character ∉ style.notANumber)
    (infinite : character ∉ style.infinity) : character ∉ render style number := by
  have laid (decimal : Decimal) : character ∉ lay style decimal := by
    unfold lay
    split
    · exact notMem_positional other point _ _ after
    · exact notMem_scientific other point minus mark _ _ positive
  unfold render
  split
  · exact named
  · split_ifs <;> simp [infinite, laid, minus]

end

end Decimal

end Holdout
