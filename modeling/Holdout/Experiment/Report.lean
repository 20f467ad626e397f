/-
This file defines what a run reports about each of its configurations and about all of them. A run
is complete when it was not cancelled, every row reached the sink, and every configuration was
aggregated.
-/

import Holdout.Duration
import Holdout.Experiment.Key
import Holdout.Experiment.State
import Holdout.RunId
import Holdout.Summary
import Holdout.Timestamp

namespace Holdout

/-- What is reported about a configuration. -/
structure ConfigReport where
  key : ConfigKey
  state : ConfigState
  /-- The number of test queries. -/
  queries : Nat
  /-- The number of queries with a list. -/
  scored : Nat
  /-- The number of queries without one. -/
  failed : Nat
  duration : Duration
  /-- What each metric said; empty if the configuration failed. -/
  summary : Table Summary

/-- The report of a configuration of which nothing is known. -/
def ConfigReport.fresh (key : ConfigKey) : ConfigReport :=
  ⟨key, .pending, 0, 0, 0, ⟨0⟩, Table.empty⟩

/-- One line of the summary of a run. -/
structure SummaryRow where
  key : ConfigKey
  metric : String
  summary : Summary

/-- The lines of the summary of one configuration. -/
def ConfigReport.summaryRows (report : ConfigReport) : List SummaryRow :=
  report.summary.entries.map fun entry => ⟨report.key, entry.1, entry.2⟩

/-- What marks a run: its name and its times. -/
structure RunStamp where
  id : RunId
  startedAt : Timestamp
  finishedAt : Timestamp
deriving Inhabited

/-- What is reported about a run. -/
structure RunReport where
  stamp : RunStamp
  configs : List ConfigReport
  summary : List SummaryRow
  /-- How many rows the sink took. -/
  rowsWritten : Nat
  /-- How often the sink failed. -/
  sinkErrors : Nat
  cancelled : Bool

namespace RunReport

/-- The configurations that failed. -/
def failedConfigs (report : RunReport) : List ConfigReport :=
  report.configs.filter fun config => config.state.isFailed

/-- The report of a configuration. -/
def config? (report : RunReport) (key : ConfigKey) : Option ConfigReport :=
  report.configs.find? fun config => config.key == key

/-- Whether a run is complete. -/
def isComplete (report : RunReport) : Bool :=
  !report.cancelled && report.sinkErrors == 0 &&
    report.configs.all fun (config : ConfigReport) => config.state == .aggregated

/-- The lines of the summary about one metric. -/
def metricRows (report : RunReport) (metric : String) : List SummaryRow :=
  report.summary.filter fun row => row.metric == metric

end RunReport

end Holdout
