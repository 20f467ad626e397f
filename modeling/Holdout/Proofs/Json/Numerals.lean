/-
This file proves that a number is read up to its end. What is read of a text that is a number is
read of it as well where something follows that cannot belong to a number. The text of a natural
number is the number again, and so it is with every double whose text reads back when it stands
alone.
-/

import Holdout.Json.Reader
import Holdout.Json.Writer
import Holdout.Proofs.Decimal

namespace Holdout

namespace Json

open Decimal (isDigit spanDigits)

/-! ### Where a number ends -/

/-- Whether a number that stands before this text has come to its end. -/
def Stops (rest : List Char) : Prop :=
  ∀ character ∈ rest.head?, isDigit character = false ∧ character ≠ '.' ∧ character ≠ 'e' ∧
    character ≠ 'E'

theorem stops_nil : Stops [] := fun _ absent => by cases absent

theorem Stops.cons {character : Char} (others : List Char)
    (other : isDigit character = false ∧ character ≠ '.' ∧ character ≠ 'e' ∧ character ≠ 'E') :
    Stops (character :: others) := by
  intro first here
  obtain rfl := Option.some.inj here
  exact other

variable {text rest after : List Char}

theorem Stops.digit (stops : Stops rest) : ∀ character ∈ rest.head?, isDigit character = false :=
  fun character here => (stops character here).1

theorem wholeAt?_append {whole : List Char} (stops : Stops rest)
    (reads : wholeAt? text = some (whole, after)) :
    wholeAt? (text ++ rest) = some (whole, after ++ rest) := by
  unfold wholeAt? at reads ⊢
  rw [Decimal.spanDigits_append text stops.digit]
  generalize spanDigits text = reading at reads
  obtain ⟨digits, behind⟩ := reading
  split at reads
  · cases reads
  · cases reads
  · cases reads
    split <;> simp_all

theorem fractionAt?_append {fraction : List Char} (stops : Stops rest)
    (reads : fractionAt? text = some (fraction, after)) :
    fractionAt? (text ++ rest) = some (fraction, after ++ rest) := by
  unfold fractionAt? at reads
  split at reads
  · rename_i digits
    rw [List.cons_append, fractionAt?, Decimal.spanDigits_append digits stops.digit]
    generalize spanDigits digits = reading at reads
    obtain ⟨digits, behind⟩ := reading
    split at reads
    · cases reads
    · cases reads
      split <;> simp_all
  · rename_i noPoint
    cases reads
    rw [fractionAt?.eq_def]
    split
    · rename_i same
      cases text with
      | nil => exact absurd rfl (stops '.' (by rw [← List.nil_append rest, same]; rfl)).2.1
      | cons first others => exact (noPoint others (by rw [(List.cons.inj same).1])).elim
    · rfl

theorem spanSign_append (first : Char) (others rest : List Char) :
    Decimal.spanSign (first :: others ++ rest) =
      ((Decimal.spanSign (first :: others)).1, (Decimal.spanSign (first :: others)).2 ++ rest) := by
  by_cases minus : first = '-'
  · rw [minus]
    rfl
  by_cases plus : first = '+'
  · rw [plus]
    rfl
  simp [Decimal.spanSign, minus, plus]

theorem spanExponent?_append {mark : Char} {exponent : Int} (stops : Stops rest)
    (isMark : mark = 'e' ∨ mark = 'E')
    (reads : Decimal.spanExponent? (mark :: text) = some (exponent, after)) :
    Decimal.spanExponent? (mark :: text ++ rest) = some (exponent, after ++ rest) := by
  cases text with
  | nil =>
    -- A mark alone is no exponent.
    simp [Decimal.spanExponent?, isMark, Decimal.spanSign, spanDigits] at reads
  | cons first others =>
    rw [Decimal.spanExponent?, if_pos isMark] at reads
    rw [List.cons_append, Decimal.spanExponent?, if_pos isMark, spanSign_append]
    simp only at reads ⊢
    rw [Decimal.spanDigits_append _ stops.digit]
    generalize spanDigits (Decimal.spanSign (first :: others)).2 = reading at reads
    obtain ⟨digits, behind⟩ := reading
    cases digits with
    | nil => cases reads
    | cons digit digits =>
      cases reads
      rfl

theorem exponentAt?_append {exponent : Option Int} (stops : Stops rest)
    (reads : exponentAt? text = some (exponent, after)) :
    exponentAt? (text ++ rest) = some (exponent, after ++ rest) := by
  cases text with
  | nil =>
    cases reads
    cases rest with
    | nil => rfl
    | cons character others =>
      obtain ⟨-, -, lower, upper⟩ := stops character rfl
      exact if_neg (by simp [lower, upper])
  | cons mark others =>
    rw [exponentAt?] at reads
    rw [List.cons_append, exponentAt?]
    by_cases isMark : mark = 'e' ∨ mark = 'E'
    · rw [if_pos isMark] at reads ⊢
      obtain ⟨reading, spans, same⟩ := Option.map_eq_some_iff.mp reads
      cases same
      rw [← List.cons_append, spanExponent?_append stops isMark spans]
      rfl
    · rw [if_neg isMark] at reads ⊢
      cases reads
      rfl

/-! ### Numbers -/

/-- Reads what stands behind the sign of a number. -/
def unsignedAt? (negative : Bool) (text : List Char) : Option (JsonNumber × List Char) :=
  match wholeAt? text with
  | none => none
  | some (whole, afterWhole) =>
    match fractionAt? afterWhole with
    | none => none
    | some (fraction, afterFraction) =>
      match exponentAt? afterFraction with
      | none => none
      | some (exponent, rest) => some (numberOf negative whole fraction exponent, rest)

theorem numberAt?_minus (text : List Char) : numberAt? ('-' :: text) = unsignedAt? true text := rfl

theorem numberAt?_cons {first : Char} (plus : first ≠ '-') (others : List Char) :
    numberAt? (first :: others) = unsignedAt? false (first :: others) := by
  unfold numberAt? unsignedAt?
  split
  rename_i negative body sign
  split at sign
  · rename_i same
    exact absurd (List.cons.inj same).1 plus
  · cases sign
    rfl

theorem unsignedAt?_append {negative : Bool} {number : JsonNumber} (stops : Stops rest)
    (reads : unsignedAt? negative text = some (number, after)) :
    unsignedAt? negative (text ++ rest) = some (number, after ++ rest) := by
  unfold unsignedAt? at reads
  split at reads
  · cases reads
  rename_i whole afterWhole wholeReads
  split at reads
  · cases reads
  rename_i fraction afterFraction fractionReads
  split at reads
  · cases reads
  rename_i exponent behind exponentReads
  cases reads
  simp only [unsignedAt?, wholeAt?_append stops wholeReads, fractionAt?_append stops fractionReads,
    exponentAt?_append stops exponentReads]

theorem numberAt?_append {number : JsonNumber} (stops : Stops rest)
    (reads : numberAt? text = some (number, after)) :
    numberAt? (text ++ rest) = some (number, after ++ rest) := by
  cases text with
  | nil => cases reads
  | cons first others =>
    by_cases minus : first = '-'
    · rw [minus, numberAt?_minus] at reads
      rw [minus, List.cons_append, numberAt?_minus, unsignedAt?_append stops reads]
    · rw [numberAt?_cons minus] at reads
      rw [List.cons_append, numberAt?_cons minus, ← List.cons_append,
        unsignedAt?_append stops reads]

/-- A number begins with a minus sign or with a digit. -/
theorem head_of_numberAt? {number : JsonNumber} (reads : numberAt? text = some (number, after)) :
    ∃ first others, text = first :: others ∧ (first = '-' ∨ isDigit first = true) := by
  cases text with
  | nil => cases reads
  | cons first others =>
    refine ⟨first, others, rfl, ?_⟩
    by_contra other
    obtain ⟨minus, digit⟩ := not_or.mp other
    have nothing : wholeAt? (first :: others) = none := by
      simp [wholeAt?, spanDigits, digit]
    rw [numberAt?_cons minus, unsignedAt?, nothing] at reads
    cases reads

/-! ### What reads back -/

deriving instance DecidableEq for JsonNumber

/-- Whether the text of a number is read as the number. -/
def ReadsBack (number : JsonNumber) : Prop := numberAt? (numberText number) = some (number, [])

instance (number : JsonNumber) : Decidable (ReadsBack number) :=
  inferInstanceAs (Decidable (numberAt? _ = some (_, [])))

/-- The text of a natural number is read as the number if that fits in 64 bits. -/
theorem readsBack_natural {value : Nat} (small : value < twoTo 64) :
    ReadsBack (.natural value) := by
  have digits := Decimal.spanDigits_digitsOf value
  have whole : wholeAt? (Decimal.digitsOf value) = some (Decimal.digitsOf value, []) := by
    rw [wholeAt?, digits]
    split
    · rename_i same
      exact absurd (Prod.mk.inj same).1 (Decimal.digitsOf_ne_nil value)
    · -- A zero in front of another digit would be the first digit of a positive number.
      rename_i same
      have leading := (Prod.mk.inj same).1
      rcases Nat.eq_zero_or_pos value with rfl | positive
      · rw [Decimal.digitsOf_zero] at leading
        cases leading
      · exact absurd (by rw [leading]; rfl) (Decimal.head?_digitsOf positive)
    · rfl
  obtain ⟨first, others, same⟩ := List.exists_cons_of_ne_nil (Decimal.digitsOf_ne_nil value)
  have plus : first ≠ '-' := by
    rintro rfl
    have member : '-' ∈ Decimal.digitsOf value := same ▸ List.mem_cons_self
    cases Decimal.isDigit_of_mem_digitsOf member
  rw [ReadsBack, numberText, same, numberAt?_cons plus, ← same, unsignedAt?]
  simp only [whole, fractionAt?, exponentAt?, numberOf, Decimal.valueOf_digitsOf]
  simp [small]

end Json

end Holdout
