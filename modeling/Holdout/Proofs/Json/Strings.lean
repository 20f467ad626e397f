/-
This file proves that strings survive JSON. What stands between the quotes is read back character by
character, every escape as the character that it was written for, and the reading stops behind the
closing quote. No line end is written, whatever the string holds.
-/

import Holdout.Json.Reader
import Holdout.Json.Writer
import Mathlib.Data.List.Forall2
import Mathlib.Tactic.SplitIfs

namespace Holdout

namespace Json

/-! ### Escapes -/

theorem hexValue?_hexDigit : ∀ value < 16, Text.hexValue? (Text.hexDigit value) = some value := by
  decide

/-- Two digits behind two zeros are the code of a character below 256. -/
theorem hexCode?_hexDigit {code : Nat} (small : code < 256) :
    hexCode? '0' '0' (Text.hexDigit (code / 16)) (Text.hexDigit (code % 16)) = some code := by
  have high := hexValue?_hexDigit (code / 16) (by omega)
  have low := hexValue?_hexDigit (code % 16) (by omega)
  have zero : Text.hexValue? '0' = some 0 := rfl
  simp only [hexCode?, high, low, zero, Option.bind_eq_bind, Option.bind_some, Option.pure_def]
  congr 1
  omega

/-- Whether a unit of a string is read as a character: it is that character, or its code if that is
the one of a control character. -/
def StringUnit.Denotes (character : Char) : StringUnit → Prop
  | .plain read => read = character
  | .code value => value = character.toNat ∧ value < 32

theorem unitsAt?_plain {character : Char} (quote : character ≠ '"') (escape : character ≠ '\\')
    (printable : 32 ≤ character.toNat) (rest : List Char) :
    unitsAt? (character :: rest) =
      (unitsAt? rest).map fun reading => (.plain character :: reading.1, reading.2) := by
  have kept : ¬ (character = '\\' ∨ character.toNat < 32) := by
    rintro (same | control)
    · exact escape same
    · omega
  rw [unitsAt?.eq_def]
  split
  case h_5 whole head tail _ _ _ same =>
    obtain ⟨rfl, rfl⟩ := List.cons.inj same
    rw [if_neg kept]
    rcases unitsAt? rest with _ | ⟨units, after⟩ <;> rfl
  all_goals simp_all

theorem unitsAt?_short {mark character : Char} (short : shortEscape? mark = some character)
    (rest : List Char) :
    unitsAt? ('\\' :: mark :: rest) =
      (unitsAt? rest).map fun reading => (.plain character :: reading.1, reading.2) := by
  have notCode : mark ≠ 'u' := by
    rintro rfl
    cases short
  rw [unitsAt?.eq_def]
  split
  case h_4 whole head tail _ same =>
    obtain ⟨rfl, rfl⟩ := List.cons.inj (List.cons.inj same).2
    rw [short]
    rcases unitsAt? rest with _ | ⟨units, after⟩ <;> rfl
  case h_5 whole head tail _ _ notShort same =>
    obtain ⟨rfl, rfl⟩ := List.cons.inj same
    exact (notShort mark rest rfl rfl).elim
  all_goals simp_all

theorem unitsAt?_code {code : Nat} (small : code < 256) (rest : List Char) :
    unitsAt? ('\\' :: 'u' :: '0' :: '0' :: Text.hexDigit (code / 16) ::
        Text.hexDigit (code % 16) :: rest) =
      (unitsAt? rest).map fun reading => (.code code :: reading.1, reading.2) := by
  rw [unitsAt?, hexCode?_hexDigit small]
  rcases unitsAt? rest with _ | ⟨units, after⟩ <;> rfl

/-- What is written for a character is read as that character. -/
theorem unitsAt?_escaped (character : Char) : ∃ unit : StringUnit, unit.Denotes character ∧
    ∀ rest, unitsAt? (escaped character ++ rest) =
      (unitsAt? rest).map fun reading => (unit :: reading.1, reading.2) := by
  have ofCode {code : Nat} (same : character.toNat = code) : Char.ofNat code = character := by
    rw [← same, Char.ofNat_toNat]
  have short {mark : Char} (marks : shortEscape? mark = some character) :
      ∃ unit : StringUnit, unit.Denotes character ∧ ∀ rest, unitsAt? (['\\', mark] ++ rest) =
        (unitsAt? rest).map fun reading => (unit :: reading.1, reading.2) :=
    ⟨.plain character, rfl, unitsAt?_short marks⟩
  unfold escaped
  split_ifs with quote backslash backspace formFeed lineFeed carriageReturn tab control
  · exact short (by rw [quote]; rfl)
  · exact short (by rw [backslash]; rfl)
  · exact short (ofCode backspace ▸ rfl)
  · exact short (ofCode formFeed ▸ rfl)
  · exact short (lineFeed ▸ rfl)
  · exact short (carriageReturn ▸ rfl)
  · exact short (tab ▸ rfl)
  · exact ⟨.code character.toNat, ⟨rfl, control⟩, unitsAt?_code (by omega)⟩
  · exact ⟨.plain character, rfl, unitsAt?_plain quote backslash (by omega)⟩

/-! ### Strings -/

/-- Control characters are no halves of surrogate pairs, so every unit is a character of its own. -/
theorem charactersOf?_of_denotes {units : List StringUnit} {text : List Char}
    (denotes : List.Forall₂ (fun unit character => unit.Denotes character) units text) :
    charactersOf? units = some text := by
  induction denotes with
  | nil => rfl
  | @cons unit character units text here _ inductionHypothesis =>
    cases unit with
    | plain read =>
      obtain rfl := here
      rw [charactersOf?, inductionHypothesis]
      rfl
    | code value =>
      obtain ⟨rfl, control⟩ := here
      have high : isHighHalf character.toNat = false := by simp [isHighHalf]; omega
      have low : isLowHalf character.toNat = false := by simp [isLowHalf]; omega
      have single : charactersOf? (.code character.toNat :: units) =
          (charactersOf? units).map (Char.ofNat character.toNat :: ·) := by
        rw [charactersOf?.eq_def]
        split <;> simp_all
      rw [single, inductionHypothesis, Char.ofNat_toNat]
      rfl

theorem unitsAt?_flatMap_escaped (text rest : List Char) : ∃ units,
    List.Forall₂ (fun unit character => StringUnit.Denotes character unit) units text ∧
      unitsAt? (text.flatMap escaped ++ '"' :: rest) = some (units, rest) := by
  induction text with
  | nil => exact ⟨[], .nil, rfl⟩
  | cons character others inductionHypothesis =>
    obtain ⟨unit, denotes, reads⟩ := unitsAt?_escaped character
    obtain ⟨units, denotesOthers, readsOthers⟩ := inductionHypothesis
    refine ⟨unit :: units, .cons denotes denotesOthers, ?_⟩
    rw [List.flatMap_cons, List.append_assoc, reads, readsOthers]
    rfl

/-- The text of a string is read as the string, up to its closing quote. -/
theorem stringAt?_quoted (text : String) (rest : List Char) :
    stringAt? (text.toList.flatMap escaped ++ '"' :: rest) = some (some text.toList, rest) := by
  obtain ⟨units, denotes, reads⟩ := unitsAt?_flatMap_escaped text.toList rest
  rw [stringAt?, reads, ← charactersOf?_of_denotes denotes]
  rfl

/-! ### Line ends -/

theorem lineFeed_notMem_escaped (character : Char) : '\n' ∉ escaped character := by
  have digit : ∀ value < 16, '\n' ≠ Text.hexDigit value := by decide
  unfold escaped
  split_ifs with _ _ _ _ lineFeed _ _ control
  iterate 7 simp
  · have high := digit (character.toNat / 16) (by omega)
    have low := digit (character.toNat % 16) (by omega)
    simp [high, low]
  · simpa using Ne.symm lineFeed

theorem lineFeed_notMem_quoted (text : String) : '\n' ∉ quoted text := by
  simp [quoted, lineFeed_notMem_escaped]

end Json

end Holdout
