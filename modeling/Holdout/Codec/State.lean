/-
This file writes the names and states of configurations as JSON and reads them back. A state is
tagged: its name stands in the member for the state, beside the members that belong to it. What
stands beside the tag is kept until the tag is known, so all of it has to be usable.
-/

import Holdout.Experiment.Key
import Holdout.Experiment.State
import Holdout.Json.Decoding
import Holdout.Json.Writer

namespace Holdout

namespace ConfigKey

/-- The members of a name. -/
def members (key : ConfigKey) : List (Option String × Json) :=
  [Json.member "algorithm" (.string key.algorithm), Json.member "split" (.string key.split)]

/-- A name as a JSON document. -/
def toJson (key : ConfigKey) : Json := .object key.members

/-- The parts of a name, as far as they were read. -/
structure Fields where
  algorithm : Option String := none
  split : Option String := none

/-- Reads one member of a name. -/
def readField (fields : Fields) (name : String) (value : Json) : Decoding Fields :=
  match name with
  | "algorithm" => do
    let algorithm ← Json.setOnce fields.algorithm Json.asString value
    return { fields with algorithm }
  | "split" => do
    let split ← Json.setOnce fields.split Json.asString value
    return { fields with split }
  | _ => Json.skip fields value

/-- The name that a JSON document holds. -/
def ofJson (document : Json) : Decoding ConfigKey := do
  let members ← document.fieldsOf ["algorithm", "split"] 2
  let fields ← Json.foldFields readField {} members
  let algorithm ← Json.required fields.algorithm
  let split ← Json.required fields.split
  return ⟨algorithm, split⟩

end ConfigKey

namespace Stage

/-- The stage with a name. -/
def ofLabel? (name : String) : Option Stage :=
  [loading, training, scoring, measuring].find? fun stage => stage.label == name

/-- A stage as a JSON document. -/
def toJson (stage : Stage) : Json := .string stage.label

/-- The stage that a name in a document stands for. -/
def named (name : String) : Decoding Stage :=
  match ofLabel? name with
  | some stage => .ok stage
  | none => .error .shape

/-- The stage that a JSON document holds: its name, alone or as the only member with nothing in
it. -/
def ofJson : Json → Decoding Stage
  | .string name => named name
  | .object [(some name, .null)] => named name
  | _ => .error .shape

/-- The stage that a kept document holds. Nothing can be written as an empty object there. -/
def ofKept : Json → Decoding Stage
  | .object [(some name, .object [])] => named name
  | document => ofJson document

end Stage

namespace ConfigState

/-- The tag of a state. -/
def tag : ConfigState → String
  | .pending => "pending"
  | .training => "training"
  | .scoring => "scoring"
  | .scored => "scored"
  | .aggregated => "aggregated"
  | .failed _ _ => "failed"

/-- The member that holds the tag. -/
def tagName : String := "state"

/-- A state as a JSON document. -/
def toJson (state : ConfigState) : Json :=
  let tagged := Json.member tagName (.string state.tag)
  match state with
  | .failed stage error =>
    .object [tagged, Json.member "stage" stage.toJson, Json.member "error" (.string error)]
  | _ => .object [tagged]

/-- The state with a tag that needs nothing else. -/
def plain? (name : String) : Option ConfigState :=
  [pending, training, scoring, scored, aggregated].find? fun state => state.tag == name

/-- The parts of a failure, as far as they were read. -/
structure FailureFields where
  stage : Option Stage := none
  error : Option String := none

/-- Reads one member of a failure. -/
def readFailureField (fields : FailureFields) (name : String) (value : Json) :
    Decoding FailureFields :=
  match name with
  | "stage" => do
    let stage ← Json.setOnce fields.stage Stage.ofKept value
    return { fields with stage }
  | "error" => do
    let error ← Json.setOnce fields.error Json.asString value
    return { fields with error }
  | _ => .ok fields

/-- The failure that some members hold. -/
def failureOf (members : List (Option String × Json)) : Decoding ConfigState := do
  let fields ← Json.foldFields readFailureField {} members
  let stage ← Json.required fields.stage
  let error ← Json.required fields.error
  return .failed stage error

/-- Whether a member holds the tag. -/
def isTag (member : Option String × Json) : Bool := member.1 == some tagName

/-- The state of a tag with the members beside it. -/
def ofTagged (name : String) (members : List (Option String × Json)) : Decoding ConfigState :=
  match plain? name with
  | some state => .ok state
  | none => if name = "failed" then failureOf members else .error .shape

/-- The state of a tag with the elements behind it. -/
def ofListed (name : String) (elements : List Json) : Decoding ConfigState :=
  match plain? name, elements with
  | some state, [] => .ok state
  | none, [stage, error] =>
    if name = "failed" then failureOf [Json.member "stage" stage, Json.member "error" error]
    else .error .shape
  | _, _ => .error .shape

/-- The state that a JSON document holds; `depth` says how many levels deep the document may be. -/
def ofJson (depth : Nat) (document : Json) : Decoding ConfigState :=
  if !document.isUsable depth then .error .shape
  else
    match document with
    | .object members =>
      match members.filter isTag with
      | [(_, .string name)] => ofTagged name (members.filter fun member => !isTag member)
      | _ => .error .shape
    | .array (.string name :: elements) => ofListed name elements
    | _ => .error .shape

end ConfigState

end Holdout
