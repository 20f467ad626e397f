/-
This file writes interactions, training data and queries as JSON and reads them back. An absent
rating, history or candidate list is null.
-/

import Holdout.Codec.ItemList
import Holdout.Split

namespace Holdout

namespace Interaction

/-- An interaction as a JSON document. -/
def toJson (interaction : Interaction) : Json :=
  .object [
    Json.member "query" (.string interaction.query),
    Json.member "item" (.string interaction.item),
    Json.member "rating" (Json.ofOption Json.ofFloat interaction.rating)]

/-- The fields of an interaction, as far as they were read. -/
structure Fields where
  query : Option QueryId := none
  item : Option ItemId := none
  rating : Option (Option Float) := none

/-- Reads one member of an interaction. -/
def readField (fields : Fields) (name : String) (value : Json) : Decoding Fields :=
  match name with
  | "query" => do
    let query ← Json.setOnce fields.query Json.asString value
    return { fields with query }
  | "item" => do
    let item ← Json.setOnce fields.item Json.asString value
    return { fields with item }
  | "rating" => do
    let rating ← Json.setOnce fields.rating (Json.asOption Json.asFloat) value
    return { fields with rating }
  | _ => Json.skip fields value

/-- The interaction that a JSON document holds. -/
def ofJson (document : Json) : Decoding Interaction := do
  let members ← document.fieldsOf ["query", "item", "rating"] 2
  let fields ← Json.foldFields readField {} members
  let query ← Json.required fields.query
  let item ← Json.required fields.item
  return ⟨query, item, fields.rating.getD none⟩

end Interaction

namespace Dataset

/-- Training data as a JSON document. -/
def toJson (dataset : Dataset) : Json :=
  .object [Json.member "interactions" (.array (dataset.interactions.map Interaction.toJson))]

/-- Reads one member of training data. -/
def readField (interactions : Option (List Interaction)) (name : String) (value : Json) :
    Decoding (Option (List Interaction)) :=
  match name with
  | "interactions" => Json.setOnce interactions (Json.asList Interaction.ofJson) value
  | _ => Json.skip interactions value

/-- The training data that a JSON document holds. -/
def ofJson (document : Json) : Decoding Dataset := do
  let members ← document.fieldsOf ["interactions"] 1
  let interactions ← Json.foldFields readField none members
  let interactions ← Json.required interactions
  return ⟨interactions⟩

end Dataset

namespace Query

/-- A query as a JSON document. -/
def toJson (query : Query) : Json :=
  .object [
    Json.member "id" (.string query.id),
    Json.member "history" (Json.ofOption ItemList.toJson query.history),
    Json.member "candidates" (Json.ofOption ItemList.toJson query.candidates)]

/-- The fields of a query, as far as they were read. -/
structure Fields where
  id : Option QueryId := none
  history : Option (Option ItemList) := none
  candidates : Option (Option ItemList) := none

/-- Reads one member of a query. -/
def readField (fields : Fields) (name : String) (value : Json) : Decoding Fields :=
  match name with
  | "id" => do
    let id ← Json.setOnce fields.id Json.asString value
    return { fields with id }
  | "history" => do
    let history ← Json.setOnce fields.history (Json.asOption ItemList.ofJson) value
    return { fields with history }
  | "candidates" => do
    let candidates ← Json.setOnce fields.candidates (Json.asOption ItemList.ofJson) value
    return { fields with candidates }
  | _ => Json.skip fields value

/-- The query that a JSON document holds. -/
def ofJson (document : Json) : Decoding Query := do
  let members ← document.fieldsOf ["id", "history", "candidates"] 1
  let fields ← Json.foldFields readField {} members
  let id ← Json.required fields.id
  return ⟨id, fields.history.getD none, fields.candidates.getD none⟩

end Query

end Holdout
