/-
This file proves that rows survive a file of comma-separated values. The file is the header and one
record of six fields for each row, and every record says what its row says, except that it cannot
tell a text that is empty from one that is absent.
-/

import Holdout.Proofs.Csv.Reader
import Holdout.Proofs.Decimal
import Holdout.Proofs.Scores
import Holdout.Sink

namespace Holdout

/-! ### Values that are no finite numbers -/

/-- There are three doubles that are no finite numbers. -/
theorem Decimal.cases_of_not_finite {number : Float} (unbounded : ¬ number.isFinite = true) :
    number = 0.0 / 0.0 ∨ number = 1.0 / 0.0 ∨ number = -(1.0 / 0.0) := by
  rw [Float.isFinite, Float.Model.isFinite] at unbounded
  cases shape : number.toModel.unpack with
  | notANumber => exact Or.inl (Score.unpack_injective (shape.trans rfl))
  | infinity sign =>
    cases sign with
    | positive => exact Or.inr (Or.inl (Score.unpack_injective (shape.trans rfl)))
    | negative => exact Or.inr (Or.inr (Score.unpack_injective (shape.trans rfl)))
  | zero sign => exact absurd (by rw [shape]; rfl) unbounded
  | finite sign mantissa exponent positive => exact absurd (by rw [shape]; rfl) unbounded

namespace Row

/-! ### What a record says -/

/-- The text that a field holds; an empty field holds none. -/
def textOf (field : List Char) : Option String :=
  if field = [] then none else some (String.ofList field)

/-- The value that a field holds, if it holds one at all. -/
def valueOf? (field : List Char) : Option (Option Float) :=
  if field = [] then some none else (Decimal.float? field).map some

/-- The row that a record is, if it is one. -/
def ofRecord? : List (List Char) → Option Row
  | [algorithm, split, query, metric, value, error] => do
    let value ← valueOf? value
    return ⟨String.ofList algorithm, String.ofList split, textOf query, textOf metric, value,
      textOf error⟩
  | _ => none

/-- A text that can be absent, as a record tells it. -/
def written (text : Option String) : Option String := text.filter (· ≠ "")

/-- The row as its record tells it. -/
def tabular (row : Row) : Row :=
  { row with query := written row.query, metric := written row.metric, error := written row.error }

/-- Whether the text of the value of a row is read as the value, if that is a finite number. -/
def CsvReadsBack (row : Row) : Prop :=
  ∀ value ∈ row.value, value.isFinite = true →
    Decimal.float? (Decimal.render Csv.numberStyle value) = some value

instance (row : Row) : Decidable row.CsvReadsBack :=
  inferInstanceAs (Decidable (∀ value ∈ row.value, value.isFinite = true → _))

theorem written_of_ne {text : Option String} (filled : text ≠ some "") : written text = text := by
  cases text with
  | none => rfl
  | some text => simp_all [written]

theorem textOf_textField (text : Option String) : textOf (textField text) = written text := by
  cases text with
  | none => rfl
  | some text =>
    by_cases blank : text = ""
    · rw [blank]
      rfl
    · have filled : text.toList ≠ [] := fun none => blank (String.toList_eq_nil_iff.mp none)
      rw [written_of_ne (by simpa using blank), textField, Option.getD_some, textOf,
        if_neg filled, String.ofList_toList]

/-- The values that are no finite numbers have names, which are read as the values. -/
theorem float?_render_of_not_finite {value : Float} (unbounded : ¬ value.isFinite = true) :
    Decimal.float? (Decimal.render Csv.numberStyle value) = some value := by
  rcases Decimal.cases_of_not_finite unbounded with rfl | rfl | rfl <;> decide +kernel

theorem valueOf?_valueField {row : Row} (reads : row.CsvReadsBack) :
    valueOf? (valueField row.value) = some row.value := by
  cases given : row.value with
  | none => rfl
  | some value =>
    have written : Decimal.render Csv.numberStyle value ≠ [] :=
      Decimal.render_ne_nil _ _ (by decide) (by decide)
    have found : Decimal.float? (Decimal.render Csv.numberStyle value) = some value := by
      by_cases finite : value.isFinite = true
      · exact reads value given finite
      · exact float?_render_of_not_finite finite
    rw [valueField, valueOf?, if_neg written, found]
    rfl

theorem ofRecord?_record {row : Row} (reads : row.CsvReadsBack) :
    ofRecord? row.record = some row.tabular := by
  rw [record, ofRecord?, valueOf?_valueField reads]
  simp only [textOf_textField, String.ofList_toList]
  rfl

/-- A record says what its row is about if the row is about something with a name. -/
theorem kind_tabular {row : Row} (query : row.query ≠ some "") (metric : row.metric ≠ some "") :
    row.tabular.kind = row.kind := by
  rw [tabular, written_of_ne query, written_of_ne metric]
  rfl

end Row

namespace Sink

/-! ### The records of a file -/

theorem offer_csv (tally : Tally) {text : List Char} (started : text ≠ []) (rows : List Row) :
    (csv.offer tally text rows).2 = text ++ (rows.map Row.record).flatMap Csv.recordText := by
  induction rows generalizing tally text with
  | nil => exact (List.append_nil text).symm
  | cons row rest inductionHypothesis =>
    have kept : csv.write row text = (.ok (), text ++ Csv.recordText row.record) := by
      cases text with
      | nil => exact absurd rfl started
      | cons character others => rfl
    show (csv.offer (tally.afterWrite (csv.write row text).1) (csv.write row text).2 rest).2 = _
    rw [kept, inductionHypothesis _ (List.append_ne_nil_of_left_ne_nil started _), List.map_cons,
      List.flatMap_cons, List.append_assoc]

/-- The header comes before the first row, and nowhere else. -/
theorem consume_csv {rows : List Row} (filled : rows ≠ []) :
    (csv.consume [] rows).2 = (Row.header :: rows.map Row.record).flatMap Csv.recordText := by
  cases rows with
  | nil => exact absurd rfl filled
  | cons row rest =>
    have started : Csv.recordText Row.header ++ Csv.recordText row.record ≠ [] := by
      rw [Row.header]
      exact List.append_ne_nil_of_left_ne_nil (by decide) _
    rw [List.flatMap_cons, List.map_cons, List.flatMap_cons, ← List.append_assoc,
      ← offer_csv _ started rest]
    rfl

/-- Read by the rules of the format, the file is the header and the record of each row. -/
theorem recordsOf_csv {rows : List Row} (filled : rows ≠ []) :
    Csv.recordsOf (csv.consume [] rows).2 = Row.header :: rows.map Row.record := by
  rw [consume_csv filled]
  refine Csv.recordsOf_recordText ?_
  simp [Csv.Blank, Row.header, Row.partNames, Row.record]

/-- A file of comma-separated values, read by the rules of the format, is the header and then one
record of six fields for each row, in their order. Every record is read as its row, an empty text as
an absent one, and so says what the row is about if the row names its query and its metric. Two
files are therefore the same only if their rows differ in nothing but such texts. -/
theorem csv_faithful {rows : List Row} (filled : rows ≠ [])
    (reads : ∀ row ∈ rows, row.CsvReadsBack) :
    (∃ records, Csv.recordsOf (csv.consume [] rows).2 =
        ["algorithm", "split", "query", "metric", "value", "error"].map String.toList :: records ∧
      List.Forall₂ (fun row record => record.length = 6 ∧ ∃ found : Row,
        Row.ofRecord? record = some found ∧
          found = { row with
            query := row.query.filter (· ≠ "")
            metric := row.metric.filter (· ≠ "")
            error := row.error.filter (· ≠ "") } ∧
          (row.query ≠ some "" → row.metric ≠ some "" → found.kind = row.kind)) rows records) ∧
      ∀ others : List Row, others ≠ [] → (∀ row ∈ others, row.CsvReadsBack) →
        (csv.consume [] others).2 = (csv.consume [] rows).2 →
          others.map Row.tabular = rows.map Row.tabular := by
  refine ⟨⟨rows.map Row.record, recordsOf_csv filled, ?_⟩, ?_⟩
  · rw [List.forall₂_map_right_iff, List.forall₂_same]
    intro row member
    exact ⟨rfl, row.tabular, Row.ofRecord?_record (reads row member), rfl, Row.kind_tabular⟩
  · intro others otherFilled otherReads same
    have told (rows : List Row) (reads : ∀ row ∈ rows, row.CsvReadsBack) :
        (rows.map Row.record).map Row.ofRecord? = (rows.map Row.tabular).map some := by
      rw [List.map_map, List.map_map]
      exact List.map_congr_left fun row member => Row.ofRecord?_record (reads row member)
    have records : others.map Row.record = rows.map Row.record := by
      have both := congrArg Csv.recordsOf same
      rw [recordsOf_csv otherFilled, recordsOf_csv filled] at both
      exact (List.cons.inj both).2
    have both := told others otherReads
    rw [records, told rows reads] at both
    exact (List.map_injective_iff.mpr (Option.some_injective Row) both).symm

/-- Commas, quotes and line ends in every text, empty texts beside absent ones, and numbers with a
fraction, with an exponent and with none. -/
def untidy : List Row :=
  [⟨"a,b", "\"", some "\r\n", some "x\"\"y", some 0.5, none⟩,
   ⟨"", "", some "", some "\n", some (-(1.0 / 0.0)), some ""⟩,
   ⟨"a", ",", none, none, none, some "line\none, \"two\""⟩]

/-- The rows without their empty texts give the same file. -/
theorem csv_faithful_untidy : untidy ≠ [] ∧ (∀ row ∈ untidy, row.CsvReadsBack) ∧
    (∃ records, Csv.recordsOf (csv.consume [] untidy).2 =
        ["algorithm", "split", "query", "metric", "value", "error"].map String.toList :: records ∧
      List.Forall₂ (fun row record => record.length = 6 ∧ ∃ found : Row,
        Row.ofRecord? record = some found ∧
          found = { row with
            query := row.query.filter (· ≠ "")
            metric := row.metric.filter (· ≠ "")
            error := row.error.filter (· ≠ "") } ∧
          (row.query ≠ some "" → row.metric ≠ some "" → found.kind = row.kind)) untidy records) ∧
      (csv.consume [] (untidy.map Row.tabular)).2 = (csv.consume [] untidy).2 ∧
        (untidy.map Row.tabular).map Row.tabular = untidy.map Row.tabular := by
  have filled : untidy ≠ [] := List.cons_ne_nil _ _
  have reads : ∀ row ∈ untidy, row.CsvReadsBack := by decide +kernel
  have readsOthers : ∀ row ∈ untidy.map Row.tabular, row.CsvReadsBack := by decide +kernel
  have same : (csv.consume [] (untidy.map Row.tabular)).2 = (csv.consume [] untidy).2 := by
    decide +kernel
  obtain ⟨whole, apart⟩ := csv_faithful filled reads
  exact ⟨filled, reads, whole, same, apart _ (List.cons_ne_nil _ _) readsOthers same⟩

end Sink

end Holdout
