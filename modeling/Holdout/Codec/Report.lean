/-
This file writes the report of a run as JSON and reads it back. The members of a summary stand
beside the names of the line that it belongs to; everything beside those names is kept until all of
it was read, so all of it has to be usable.
-/

import Holdout.Codec.State
import Holdout.Codec.Summary
import Holdout.Experiment.Report

namespace Holdout

/-! ### Lengths, names and points of time -/

namespace Duration

/-- A length of time as a JSON document. -/
def toJson (duration : Duration) : Json :=
  .object [
    Json.member "secs" (.ofNat duration.seconds), Json.member "nanos" (.ofNat duration.subsecond)]

/-- The parts of a length of time, as far as they were read. -/
structure Fields where
  seconds : Option Nat := none
  nanoseconds : Option Nat := none

/-- Reads one member of a length of time; it has no others. -/
def readField (fields : Fields) (name : String) (value : Json) : Decoding Fields :=
  match name with
  | "secs" => do
    let seconds ← Json.setOnce fields.seconds Json.asCount value
    return { fields with seconds }
  | "nanos" => do
    let nanoseconds ← Json.setOnce fields.nanoseconds (Json.asNat (twoTo 32)) value
    return { fields with nanoseconds }
  | _ => .error .shape

/-- The length of time that a JSON document holds. Its whole seconds have to fit in 64 bits. -/
def ofJson (document : Json) : Decoding Duration := do
  let members ← document.fieldsOf ["secs", "nanos"] 2
  let fields ← Json.foldFields readField {} members
  let seconds ← Json.required fields.seconds
  let nanoseconds ← Json.required fields.nanoseconds
  let duration := ofParts seconds nanoseconds
  if duration.seconds < twoTo 64 then return duration else throw .shape

end Duration

/-- A value in a string. -/
def Json.asText {Value : Type} (read? : List Char → Option Value) (document : Json) :
    Decoding Value := do
  let text ← document.asString
  match read? text.toList with
  | some value => return value
  | none => throw .shape

/-- The name of a run as a JSON document. -/
def RunId.toJson (id : RunId) : Json := .string (String.ofList id.text)

/-- A point of time as a JSON document. -/
def Timestamp.toJson (timestamp : Timestamp) : Json := .string (String.ofList timestamp.text)

/-! ### Lines of the summary -/

namespace SummaryRow

/-- A line of the summary as a JSON document. -/
def toJson (row : SummaryRow) : Json :=
  .object (row.key.members ++ Json.member "metric" (.string row.metric) :: row.summary.members)

/-- The parts of a line, as far as they were read. -/
structure Fields where
  algorithm : Option String := none
  split : Option String := none
  metric : Option String := none
  /-- What stands beside the names. -/
  others : List (Option String × Json) := []

/-- Reads one member of a line; `depth` says how many levels deep it may be. -/
def readField (depth : Nat) (fields : Fields) (name : String) (value : Json) : Decoding Fields :=
  match name with
  | "algorithm" => do
    let algorithm ← Json.setOnce fields.algorithm Json.asString value
    return { fields with algorithm }
  | "split" => do
    let split ← Json.setOnce fields.split Json.asString value
    return { fields with split }
  | "metric" => do
    let metric ← Json.setOnce fields.metric Json.asString value
    return { fields with metric }
  | _ =>
    if value.isUsable depth then
      .ok { fields with others := fields.others ++ [Json.member name value] }
    else .error .shape

/-- The line that a JSON document holds; `depth` says how many levels deep it may be. -/
def ofJson (depth : Nat) (document : Json) : Decoding SummaryRow :=
  match document with
  | .object members => do
    let fields ← Json.foldFields (readField (depth - 1)) {} members
    let algorithm ← Json.required fields.algorithm
    let split ← Json.required fields.split
    let metric ← Json.required fields.metric
    let summary ← Summary.ofMembers fields.others
    return ⟨⟨algorithm, split⟩, metric, summary⟩
  | _ => .error .shape

end SummaryRow

/-! ### Configurations -/

namespace ConfigReport

/-- The summaries of a configuration as a JSON document. -/
def summaryJson (summary : Table Summary) : Json :=
  .object (summary.entries.map fun entry => Json.member entry.1 entry.2.toJson)

/-- One summary under its name. -/
def summaryEntry (entry : Option String × Json) : Decoding (String × Summary) :=
  match entry with
  | (some name, value) => do
    let summary ← Summary.ofJson value
    return (name, summary)
  | (none, _) => .error .shape

/-- The summaries that a JSON document holds. -/
def summaryOfJson : Json → Decoding (Table Summary)
  | .object members => do
    let entries ← members.mapM summaryEntry
    return Table.ofList entries
  | _ => .error .shape

/-- The names of the parts of a report, in their order. -/
def partNames : List String :=
  ["key", "state", "n_queries", "n_scored", "n_failed", "duration", "summary"]

/-- The report of a configuration as a JSON document. -/
def toJson (report : ConfigReport) : Json :=
  .object [
    Json.member "key" report.key.toJson,
    Json.member "state" report.state.toJson,
    Json.member "n_queries" (.ofNat report.queries),
    Json.member "n_scored" (.ofNat report.scored),
    Json.member "n_failed" (.ofNat report.failed),
    Json.member "duration" report.duration.toJson,
    Json.member "summary" (summaryJson report.summary)]

/-- The parts of a report, as far as they were read. -/
structure Fields where
  key : Option ConfigKey := none
  state : Option ConfigState := none
  queries : Option Nat := none
  scored : Option Nat := none
  failed : Option Nat := none
  duration : Option Duration := none
  summary : Option (Table Summary) := none

/-- Reads one member of a report; `depth` says how many levels deep it may be. -/
def readField (depth : Nat) (fields : Fields) (name : String) (value : Json) : Decoding Fields :=
  match name with
  | "key" => do
    let key ← Json.setOnce fields.key ConfigKey.ofJson value
    return { fields with key }
  | "state" => do
    let state ← Json.setOnce fields.state (ConfigState.ofJson depth) value
    return { fields with state }
  | "n_queries" => do
    let queries ← Json.setOnce fields.queries Json.asCount value
    return { fields with queries }
  | "n_scored" => do
    let scored ← Json.setOnce fields.scored Json.asCount value
    return { fields with scored }
  | "n_failed" => do
    let failed ← Json.setOnce fields.failed Json.asCount value
    return { fields with failed }
  | "duration" => do
    let duration ← Json.setOnce fields.duration Duration.ofJson value
    return { fields with duration }
  | "summary" => do
    let summary ← Json.setOnce fields.summary summaryOfJson value
    return { fields with summary }
  | _ => Json.skip fields value

/-- The report that a JSON document holds; `depth` says how many levels deep it may be. -/
def ofJson (depth : Nat) (document : Json) : Decoding ConfigReport := do
  let members ← document.fieldsOf partNames 7
  let fields ← Json.foldFields (readField (depth - 1)) {} members
  let key ← Json.required fields.key
  let state ← Json.required fields.state
  let queries ← Json.required fields.queries
  let scored ← Json.required fields.scored
  let failed ← Json.required fields.failed
  let duration ← Json.required fields.duration
  let summary ← Json.required fields.summary
  return ⟨key, state, queries, scored, failed, duration, summary⟩

end ConfigReport

/-! ### Runs -/

namespace RunReport

/-- The names of the parts of a report, in their order. -/
def partNames : List String :=
  ["run_id", "started_at", "finished_at", "configs", "summary", "rows_written", "sink_errors",
   "cancelled"]

/-- The report of a run as a JSON document. -/
def toJson (report : RunReport) : Json :=
  .object [
    Json.member "run_id" report.stamp.id.toJson,
    Json.member "started_at" report.stamp.startedAt.toJson,
    Json.member "finished_at" report.stamp.finishedAt.toJson,
    Json.member "configs" (.array (report.configs.map ConfigReport.toJson)),
    Json.member "summary" (.array (report.summary.map SummaryRow.toJson)),
    Json.member "rows_written" (.ofNat report.rowsWritten),
    Json.member "sink_errors" (.ofNat report.sinkErrors),
    Json.member "cancelled" (.bool report.cancelled)]

/-- The parts of a report, as far as they were read. -/
structure Fields where
  id : Option RunId := none
  startedAt : Option Timestamp := none
  finishedAt : Option Timestamp := none
  configs : Option (List ConfigReport) := none
  summary : Option (List SummaryRow) := none
  rowsWritten : Option Nat := none
  sinkErrors : Option Nat := none
  cancelled : Option Bool := none

/-- Reads one member of a report; `depth` says how many levels deep it may be. -/
def readField (depth : Nat) (fields : Fields) (name : String) (value : Json) : Decoding Fields :=
  match name with
  | "run_id" => do
    let id ← Json.setOnce fields.id (Json.asText RunId.ofText?) value
    return { fields with id }
  | "started_at" => do
    let startedAt ← Json.setOnce fields.startedAt (Json.asText Timestamp.ofText?) value
    return { fields with startedAt }
  | "finished_at" => do
    let finishedAt ← Json.setOnce fields.finishedAt (Json.asText Timestamp.ofText?) value
    return { fields with finishedAt }
  | "configs" => do
    let configs ← Json.setOnce fields.configs (Json.asList (ConfigReport.ofJson (depth - 1))) value
    return { fields with configs }
  | "summary" => do
    let summary ← Json.setOnce fields.summary (Json.asList (SummaryRow.ofJson (depth - 1))) value
    return { fields with summary }
  | "rows_written" => do
    let rowsWritten ← Json.setOnce fields.rowsWritten Json.asCount value
    return { fields with rowsWritten }
  | "sink_errors" => do
    let sinkErrors ← Json.setOnce fields.sinkErrors Json.asCount value
    return { fields with sinkErrors }
  | "cancelled" => do
    let cancelled ← Json.setOnce fields.cancelled Json.asBool value
    return { fields with cancelled }
  | _ => Json.skip fields value

/-- The report that a JSON document holds. -/
def ofJson (document : Json) : Decoding RunReport := do
  let members ← document.fieldsOf partNames 8
  let fields ← Json.foldFields (readField (Json.depthLimit - 1)) {} members
  let id ← Json.required fields.id
  let startedAt ← Json.required fields.startedAt
  let finishedAt ← Json.required fields.finishedAt
  let configs ← Json.required fields.configs
  let summary ← Json.required fields.summary
  let rowsWritten ← Json.required fields.rowsWritten
  let sinkErrors ← Json.required fields.sinkErrors
  let cancelled ← Json.required fields.cancelled
  return ⟨⟨id, startedAt, finishedAt⟩, configs, summary, rowsWritten, sinkErrors, cancelled⟩

end RunReport

end Holdout
