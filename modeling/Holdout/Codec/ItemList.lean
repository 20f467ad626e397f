/-
This file writes item lists as JSON and reads them back. Absent scores and ranks are left out.
What is read goes through the same checks as any list: the items first, then the scores, then the
ranks.
-/

import Holdout.Json.Decoding
import Holdout.Json.Writer

namespace Holdout

namespace ItemList

/-- The number of ranks that can be written; the greatest is one less. -/
def rankBound : Nat := twoTo 32

/-- A list as a JSON document. -/
def toJson (list : ItemList) : Json :=
  .object (
    [Json.member "items" (.array (list.ids.map .string))] ++
    (list.scores.map fun scores => Json.member "scores" (.array (scores.map .ofFloat))).toList ++
    (list.ranks.map fun ranks => Json.member "ranks" (.array (ranks.map .ofNat))).toList ++
    [Json.member "ordered" (.bool list.ordered)])

/-- The fields of a list, as far as they were read. -/
structure Fields where
  items : Option (List ItemId) := none
  scores : Option (Option (List Float)) := none
  ranks : Option (Option (List Nat)) := none
  ordered : Option Bool := none

/-- Reads one member of a list. -/
def readField (fields : Fields) (name : String) (value : Json) : Decoding Fields :=
  match name with
  | "items" => do
    let items ← Json.setOnce fields.items (Json.asList Json.asString) value
    return { fields with items }
  | "scores" => do
    let scores ← Json.setOnce fields.scores (Json.asOption (Json.asList Json.asFloat)) value
    return { fields with scores }
  | "ranks" => do
    let ranks ← Json.setOnce fields.ranks
      (Json.asOption (Json.asList (Json.asNat rankBound))) value
    return { fields with ranks }
  | "ordered" => do
    let ordered ← Json.setOnce fields.ordered Json.asBool value
    return { fields with ordered }
  | _ => Json.skip fields value

/-- The list that a JSON document holds. -/
def ofJson (document : Json) : Decoding ItemList := do
  let members ← document.fieldsOf ["items", "scores", "ranks", "ordered"] 4
  let fields ← Json.foldFields readField {} members
  let items ← Json.required fields.items
  let ordered ← Json.required fields.ordered
  (ofParts items (fields.scores.getD none) (fields.ranks.getD none) ordered).mapError .list

end ItemList

end Holdout
