/-
This file proves that rows survive a file of JSON lines. Whatever the texts in a row hold, its
document has no line end in it, so the file falls into its lines again, one for each row. A line is
read as the row that it was written for, except that a value that is no finite number is absent
then.
-/

import Holdout.Proofs.Json.Values
import Holdout.Sink

namespace Holdout

namespace Row

/-! ### The document of a row -/

/-- The row without a value that has no JSON text. -/
def finite (row : Row) : Row := { row with value := row.value.filter Float.isFinite }

theorem kind_finite (row : Row) : row.finite.kind = row.kind := rfl

/-- Whether the text of the value of a row is read as the value, as far as it has a text. -/
def JsonReadsBack (row : Row) : Prop :=
  ∀ value ∈ row.value, value.isFinite = true → Json.ReadsBack (.double value)

instance (row : Row) : Decidable row.JsonReadsBack :=
  inferInstanceAs (Decidable (∀ value ∈ row.value, value.isFinite = true → _))

theorem writable_toJson {row : Row} (reads : row.JsonReadsBack) : row.toJson.Writable := by
  have text (part : Option String) : (Json.ofOption .string part).Writable :=
    Json.writable_ofOption fun present _ => .string present
  have value : (Json.ofOption Json.ofFloat row.value).Writable :=
    Json.writable_ofOption fun value present => Json.writable_ofFloat (reads value present)
  refine .object (by simp [Json.member]) ?_
  simp [Json.member, text, value, Json.Writable.string]

/-- Every part of a row is found in its document again. -/
theorem ofJson_toJson (row : Row) : ofJson row.toJson = .ok row.finite := by
  show (Json.foldFields readField {} _ >>= _) = _
  simp only [Json.member, Json.foldFields, readField, Json.setOnce_none, Json.asString,
    Json.asOption_ofOption_string, Json.asOption_ofOption_float, Except.map, bind, Except.bind,
    pure, Except.pure]
  rfl

/-- No text in a row can end the line of its document. -/
theorem lineFeed_notMem_toJson (row : Row) : '\n' ∉ row.toJson.text := by
  have text (part : Option String) : '\n' ∉ (Json.ofOption .string part).text := by
    cases part with
    | none => decide
    | some part => exact Json.lineFeed_notMem_quoted part
  have value : '\n' ∉ (Json.ofOption Json.ofFloat row.value).text := by
    rcases row.value with _ | value
    · decide
    rw [Json.ofOption, Json.ofFloat]
    split
    · exact Decimal.notMem_render rfl (by decide) (by decide) (by decide) _ _ (by decide)
        (by decide) (by decide) (by decide)
    · decide
  have name (part : String) : '\n' ∉ (Json.string part).text := Json.lineFeed_notMem_quoted part
  refine Json.lineFeed_notMem_object ?_
  simp [Json.member, name, text, value]

end Row

namespace Sink

/-! ### The lines of a file -/

theorem offer_jsonLines (tally : Tally) (text : List Char) (rows : List Row) :
    (jsonLines.offer tally text rows).2 =
      text ++ rows.flatMap fun row => row.toJson.text ++ ['\n'] := by
  induction rows generalizing tally text with
  | nil => exact (List.append_nil text).symm
  | cons row rest inductionHypothesis =>
    rw [offer, List.flatMap_cons, ← List.append_assoc, ← List.append_assoc]
    exact inductionHypothesis _ _

/-- Split at line ends, the file is a line for each row, and nothing stands behind the last one. -/
theorem splitOn_jsonLines (rows : List Row) :
    (jsonLines.consume [] rows).2.splitOn '\n' =
      rows.map (fun row => row.toJson.text) ++ [[]] := by
  show (jsonLines.offer {} [] rows).2.splitOn '\n' = _
  rw [offer_jsonLines, List.nil_append]
  induction rows with
  | nil => rfl
  | cons row rest inductionHypothesis =>
    rw [List.flatMap_cons, List.append_assoc, List.singleton_append,
      List.splitOn_append_cons_self_of_not_mem row.lineFeed_notMem_toJson, inductionHypothesis]
    rfl

/-- Split at line ends, a file of JSON lines is a line for each row, in their order, and every line
is read as the row that it was written for, which says what the row is about. -/
theorem jsonLines_faithful {rows : List Row} (reads : ∀ row ∈ rows, row.JsonReadsBack) :
    ∃ lines, (jsonLines.consume [] rows).2.splitOn '\n' = lines ++ [[]] ∧
      List.Forall₂ (fun row line => ∃ found : Row,
        Json.decodeText Row.ofJson (String.ofList line) = .ok found ∧
          found = { row with value := row.value.filter Float.isFinite } ∧
          found.kind = row.kind) rows lines := by
  refine ⟨rows.map fun row => row.toJson.text, splitOn_jsonLines rows, ?_⟩
  rw [List.forall₂_map_right_iff, List.forall₂_same]
  intro row member
  refine ⟨row.finite, ?_, rfl, row.kind_finite⟩
  exact (Json.decodeText_render Row.ofJson (Row.writable_toJson (reads row member))).trans
    row.ofJson_toJson

/-- Line ends, quotes and controls in every text, a text that is empty beside one that is absent,
and a value that is no number. -/
def unruly : List Row :=
  [⟨"a\n\"b\"\r", "", some "\\\x01\t", some "", some 0.5, none⟩,
   ⟨"", "é\n", none, some "\n", some (0.0 / 0.0), some "\"\n\""⟩,
   ⟨"a", "b", none, none, none, some ""⟩]

theorem jsonLines_faithful_unruly : (∀ row ∈ unruly, row.JsonReadsBack) ∧
    ∃ lines, (jsonLines.consume [] unruly).2.splitOn '\n' = lines ++ [[]] ∧
      List.Forall₂ (fun row line => ∃ found : Row,
        Json.decodeText Row.ofJson (String.ofList line) = .ok found ∧
          found = { row with value := row.value.filter Float.isFinite } ∧
          found.kind = row.kind) unruly lines := by
  have reads : ∀ row ∈ unruly, row.JsonReadsBack := by decide +kernel
  exact ⟨reads, jsonLines_faithful reads⟩

end Sink

end Holdout
