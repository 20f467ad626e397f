/-
This file writes metric summaries as JSON and reads them back. An absent mean or deviation is null.
-/

import Holdout.Json.Decoding
import Holdout.Json.Writer
import Holdout.Summary

namespace Holdout

namespace Summary

/-- The members of a summary. -/
def members (summary : Summary) : List (Option String × Json) :=
  [Json.member "mean" (Json.ofOption Json.ofFloat summary.mean),
   Json.member "std" (Json.ofOption Json.ofFloat summary.deviation),
   Json.member "count" (.ofNat summary.count),
   Json.member "missing" (.ofNat summary.missing)]

/-- A summary as a JSON document. -/
def toJson (summary : Summary) : Json := .object summary.members

/-- The fields of a summary, as far as they were read. -/
structure Fields where
  mean : Option (Option Float) := none
  deviation : Option (Option Float) := none
  count : Option Nat := none
  missing : Option Nat := none

/-- Reads one member of a summary. -/
def readField (fields : Fields) (name : String) (value : Json) : Decoding Fields :=
  match name with
  | "mean" => do
    let mean ← Json.setOnce fields.mean (Json.asOption Json.asFloat) value
    return { fields with mean }
  | "std" => do
    let deviation ← Json.setOnce fields.deviation (Json.asOption Json.asFloat) value
    return { fields with deviation }
  | "count" => do
    let count ← Json.setOnce fields.count Json.asCount value
    return { fields with count }
  | "missing" => do
    let missing ← Json.setOnce fields.missing Json.asCount value
    return { fields with missing }
  | _ => Json.skip fields value

/-- The summary that some members hold. -/
def ofMembers (members : List (Option String × Json)) : Decoding Summary := do
  let fields ← Json.foldFields readField {} members
  let count ← Json.required fields.count
  let missing ← Json.required fields.missing
  return ⟨fields.mean.getD none, fields.deviation.getD none, count, missing⟩

/-- The summary that a JSON document holds. -/
def ofJson (document : Json) : Decoding Summary := do
  let members ← document.fieldsOf ["mean", "std", "count", "missing"] 4
  ofMembers members

end Summary

end Holdout
