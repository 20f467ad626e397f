/-
This file writes rows in the two formats of result files, as records of comma-separated values and
as JSON, and reads them back from JSON. An absent part is an empty field in a record and null in
JSON.
-/

import Holdout.Csv.Writer
import Holdout.Json.Decoding
import Holdout.Json.Writer
import Holdout.Row

namespace Holdout

namespace Row

/-- The names of the parts of a row, in their order. -/
def partNames : List String := ["algorithm", "split", "query", "metric", "value", "error"]

/-- The first line of a file of records. -/
def header : List (List Char) := partNames.map String.toList

/-- The field of a name or text that can be absent. -/
def textField (text : Option String) : List Char := (text.getD "").toList

/-- The field of a value that can be absent. -/
def valueField : Option Float → List Char
  | some value => Decimal.render Csv.numberStyle value
  | none => []

/-- A row as a record. -/
def record (row : Row) : List (List Char) :=
  [row.algorithm.toList, row.split.toList, textField row.query, textField row.metric,
   valueField row.value, textField row.error]

/-- A row as a JSON document. -/
def toJson (row : Row) : Json :=
  .object [
    Json.member "algorithm" (.string row.algorithm),
    Json.member "split" (.string row.split),
    Json.member "query" (Json.ofOption .string row.query),
    Json.member "metric" (Json.ofOption .string row.metric),
    Json.member "value" (Json.ofOption Json.ofFloat row.value),
    Json.member "error" (Json.ofOption .string row.error)]

/-- The parts of a row, as far as they were read. -/
structure Fields where
  algorithm : Option String := none
  split : Option String := none
  query : Option (Option String) := none
  metric : Option (Option String) := none
  value : Option (Option Float) := none
  error : Option (Option String) := none

/-- Reads one member of a row. -/
def readField (fields : Fields) (name : String) (document : Json) : Decoding Fields :=
  match name with
  | "algorithm" => do
    let algorithm ← Json.setOnce fields.algorithm Json.asString document
    return { fields with algorithm }
  | "split" => do
    let split ← Json.setOnce fields.split Json.asString document
    return { fields with split }
  | "query" => do
    let query ← Json.setOnce fields.query (Json.asOption Json.asString) document
    return { fields with query }
  | "metric" => do
    let metric ← Json.setOnce fields.metric (Json.asOption Json.asString) document
    return { fields with metric }
  | "value" => do
    let value ← Json.setOnce fields.value (Json.asOption Json.asFloat) document
    return { fields with value }
  | "error" => do
    let error ← Json.setOnce fields.error (Json.asOption Json.asString) document
    return { fields with error }
  | _ => Json.skip fields document

/-- The row that a JSON document holds. -/
def ofJson (document : Json) : Decoding Row := do
  let members ← document.fieldsOf partNames 6
  let fields ← Json.foldFields readField {} members
  let algorithm ← Json.required fields.algorithm
  let split ← Json.required fields.split
  return ⟨algorithm, split, fields.query.getD none, fields.metric.getD none,
    fields.value.getD none, fields.error.getD none⟩

end Row

end Holdout
