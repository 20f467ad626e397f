/-
This file defines a reader of comma-separated values and proves that it undoes the writer. The
reader is a machine that takes one character after the other and knows where in a record it stands:
a quote opens a field or, twice, stands for itself inside quotes; a comma ends a field and a line
end a record, unless they stand inside quotes; lines that hold nothing are passed over. A record
that was written is read field by field, whatever the fields hold, so records written one behind
the other are read as they are.
-/

import Holdout.Csv.Writer

namespace Holdout

namespace Csv

/-! ### The reader -/

/-- Where a reader stands. -/
inductive Place where
  /-- In front of a record. -/
  | record
  /-- In front of a field that is not the first one. -/
  | field
  /-- In a field without quotes, or behind a quoted part of one. -/
  | plain
  /-- Inside quotes. -/
  | quoted
  /-- Behind a quote that closes the field, unless another quote follows. -/
  | closed
deriving DecidableEq, Repr

/-- A reader: where it stands, the characters of its field, the fields of its record before that
one, and the records before that. -/
structure Reader where
  place : Place := .record
  characters : List Char := []
  fields : List (List Char) := []
  records : List (List (List Char)) := []

/-- Whether a character ends a line. -/
def isLineEnd (character : Char) : Bool := character == '\n' || character == '\r'

namespace Reader

def endField (reader : Reader) : Reader :=
  { reader with place := .field, characters := [], fields := reader.fields ++ [reader.characters] }

def endRecord (reader : Reader) : Reader :=
  { records := reader.records ++ [reader.fields ++ [reader.characters]] }

def keep (reader : Reader) (place : Place) (character : Char) : Reader :=
  { reader with place, characters := reader.characters ++ [character] }

/-- Takes a character outside of quotes. -/
def stepPlain (reader : Reader) (character : Char) : Reader :=
  if character = ',' then reader.endField
  else if isLineEnd character then reader.endRecord
  else reader.keep .plain character

/-- Takes the first character of a field. -/
def stepField (reader : Reader) (character : Char) : Reader :=
  if character = '"' then { reader with place := .quoted } else reader.stepPlain character

def step (reader : Reader) (character : Char) : Reader :=
  match reader.place with
  | .record => if isLineEnd character then reader else reader.stepField character
  | .field => reader.stepField character
  | .plain => reader.stepPlain character
  | .quoted =>
    if character = '"' then { reader with place := .closed } else reader.keep .quoted character
  | .closed => if character = '"' then reader.keep .quoted '"' else reader.stepPlain character

/-- Takes the characters of a text, one after the other. -/
def read (reader : Reader) (text : List Char) : Reader := text.foldl step reader

/-- The records at the end of the text. The last one need not end with its line. -/
def finish (reader : Reader) : List (List (List Char)) :=
  if reader.place = .record then reader.records else reader.endRecord.records

end Reader

/-- The records that a text holds. -/
def recordsOf (text : List Char) : List (List (List Char)) := (Reader.read {} text).finish

/-! ### Fields -/

namespace Reader

theorem read_append (reader : Reader) (first second : List Char) :
    reader.read (first ++ second) = (reader.read first).read second := List.foldl_append

theorem read_cons (reader : Reader) (character : Char) (rest : List Char) :
    reader.read (character :: rest) = (reader.step character).read rest := rfl

/-- Outside of quotes a comma or a line end does the same wherever the reader stands. -/
theorem stepPlain_place {mark : Char} (ends : mark = ',' ∨ mark = '\n') (reader : Reader)
    (place : Place) : { reader with place }.stepPlain mark = reader.stepPlain mark := by
  rcases ends with rfl | rfl <;> rfl

/-- A character without a meaning of its own is kept. -/
theorem stepPlain_of_plain {character : Char} (plain : isSpecial character = false)
    (reader : Reader) : reader.stepPlain character = reader.keep .plain character := by
  simp_all [isSpecial, stepPlain, isLineEnd]

theorem read_plain {text : List Char} (plain : ∀ character ∈ text, isSpecial character = false)
    (reader : Reader) : { reader with place := .plain }.read text =
      { reader with place := .plain, characters := reader.characters ++ text } := by
  induction text generalizing reader with
  | nil => rw [List.append_nil]; rfl
  | cons character rest inductionHypothesis =>
    have later := inductionHypothesis
      (fun other member => plain other (List.mem_cons_of_mem _ member))
      (reader.keep .plain character)
    rw [read_cons, step, stepPlain_of_plain (plain character List.mem_cons_self)]
    simpa [keep] using later

/-- Inside quotes everything is kept, a doubled quote as one. -/
theorem read_doubled (text : List Char) (reader : Reader) :
    { reader with place := .quoted }.read (text.flatMap doubled) =
      { reader with place := .quoted, characters := reader.characters ++ text } := by
  induction text generalizing reader with
  | nil => rw [List.append_nil]; rfl
  | cons character rest inductionHypothesis =>
    have kept : { reader with place := .quoted }.read (doubled character) =
        reader.keep .quoted character := by
      by_cases quote : character = '"'
      · rw [quote]
        rfl
      · simp [doubled, quote, read, step, keep]
    have later := inductionHypothesis (reader.keep .quoted character)
    rw [List.flatMap_cons, read_append, kept]
    simpa [keep] using later

variable (fields : List (List Char)) (records : List (List (List Char)))

/-- The text of a field is read as the field, up to the comma or the line end behind it. -/
theorem read_fieldText (field : List Char) {mark : Char} (ends : mark = ',' ∨ mark = '\n') :
    read ⟨.field, [], fields, records⟩ (fieldText field ++ [mark]) =
      stepPlain ⟨.field, field, fields, records⟩ mark := by
  have unquoted : mark ≠ '"' := by rcases ends with rfl | rfl <;> decide
  have behind (place : Place) : stepPlain ⟨place, field, fields, records⟩ mark =
      stepPlain ⟨.field, field, fields, records⟩ mark :=
    stepPlain_place ends ⟨.field, field, fields, records⟩ place
  rw [fieldText]
  split
  · calc read ⟨.field, [], fields, records⟩ ('"' :: field.flatMap doubled ++ ['"'] ++ [mark])
        = (read ⟨.quoted, [], fields, records⟩ (field.flatMap doubled)).read ['"', mark] := by
          rw [List.append_assoc, List.cons_append, read_cons, read_append]
          rfl
      _ = read ⟨.quoted, field, fields, records⟩ ['"', mark] := by
          rw [read_doubled field ⟨.quoted, [], fields, records⟩, List.nil_append]
      _ = step ⟨.closed, field, fields, records⟩ mark := rfl
      _ = stepPlain ⟨.field, field, fields, records⟩ mark :=
          (if_neg unquoted).trans (behind .closed)
  · rename_i plain
    simp only [List.any_eq_true, not_exists, not_and, Bool.not_eq_true] at plain
    cases field with
    | nil => exact if_neg unquoted
    | cons character rest =>
      obtain ⟨here, later⟩ := List.forall_mem_cons.mp plain
      have quote : character ≠ '"' := by
        rintro rfl
        cases here
      have first : step ⟨.field, [], fields, records⟩ character =
          ⟨.plain, [character], fields, records⟩ := by
        rw [step, stepField, if_neg quote, stepPlain_of_plain here]
        rfl
      rw [List.cons_append, read_cons, first, read_append,
        read_plain later ⟨.plain, [character], fields, records⟩]
      exact behind .plain

theorem read_fieldsTail (others : List (List Char)) (field : List Char) :
    read ⟨.field, [], fields, records⟩ (fieldText field ++ fieldsTail others ++ ['\n']) =
      { records := records ++ [fields ++ field :: others] } := by
  induction others generalizing field fields with
  | nil =>
    rw [fieldsTail, List.flatMap_nil, List.append_nil,
      read_fieldText fields records field (Or.inr rfl)]
    rfl
  | cons other others inductionHypothesis =>
    have here : fieldText field ++ fieldsTail (other :: others) ++ ['\n'] =
        fieldText field ++ [','] ++ (fieldText other ++ fieldsTail others ++ ['\n']) := by
      simp [fieldsTail]
    rw [here, read_append, read_fieldText fields records field (Or.inl rfl)]
    have later := inductionHypothesis (fields ++ [field]) other
    rw [List.append_assoc fields, List.singleton_append] at later
    exact later

end Reader

/-! ### Records -/

/-- A record that has no line of its own: none at all, and the one with nothing but an empty field,
whose line is empty and is passed over. -/
def Blank (record : List (List Char)) : Prop := record = [] ∨ record = [[]]

/-- The line of a record does not begin with a line end. -/
theorem recordText_eq_cons {record : List (List Char)} (filled : ¬ Blank record) :
    ∃ first rest, recordText record = first :: rest ∧ isLineEnd first = false := by
  match record with
  | [] => exact absurd (Or.inl rfl) filled
  | [[]] => exact absurd (Or.inr rfl) filled
  | [] :: _ :: _ => exact ⟨',', _, rfl, rfl⟩
  | (character :: others) :: rest =>
    rw [recordText, fieldText]
    split
    · exact ⟨'"', _, rfl, rfl⟩
    · rename_i plain
      refine ⟨character, _, rfl, ?_⟩
      simp_all [isSpecial, isLineEnd]

namespace Reader

/-- So the first field of a record begins as any other field. -/
theorem read_recordText {record : List (List Char)} (filled : ¬ Blank record)
    (records : List (List (List Char))) :
    read { records } (recordText record) = { records := records ++ [record] } := by
  obtain ⟨first, rest, begins, inner⟩ := recordText_eq_cons filled
  have opened : step { records } first = step ⟨.field, [], [], records⟩ first := by
    simp only [step, inner, stepField, stepPlain, endField, keep, Bool.false_eq_true, if_false]
  rw [begins, read_cons, opened, ← read_cons, ← begins]
  cases record with
  | nil => exact absurd (Or.inl rfl) filled
  | cons field others => exact read_fieldsTail [] records others field

end Reader

/-- Records that were written one behind the other are read as they are. -/
theorem recordsOf_recordText {records : List (List (List Char))}
    (filled : ∀ record ∈ records, ¬ Blank record) :
    recordsOf (records.flatMap recordText) = records := by
  have whole (earlier : List (List (List Char))) :
      Reader.read { records := earlier } (records.flatMap recordText) =
        { records := earlier ++ records } := by
    induction records generalizing earlier with
    | nil => rw [List.append_nil]; rfl
    | cons record rest inductionHypothesis =>
      obtain ⟨here, later⟩ := List.forall_mem_cons.mp filled
      rw [List.flatMap_cons, Reader.read_append, Reader.read_recordText here,
        inductionHypothesis later, List.append_assoc]
      rfl
  rw [recordsOf, whole []]
  rfl

/-- Texts of other writers: line ends of both kinds, an empty line, and no line end at the end. -/
example : recordsOf "a,\"b\"\"c\"\r\n\r\n,\n\"x\ny\"z".toList =
    [["a", "b\"c"], ["", ""], ["x\nyz"]].map (·.map String.toList) := by
  decide +kernel

end Csv

end Holdout
