/-
This file runs plans. An evaluator evaluates the configurations of a plan, hands their rows to the
sink, and reports. It knows the states of the configurations of its last run, and once it is
cancelled it stays so.
-/

import Holdout.Experiment.Run
import Holdout.Sink

namespace Holdout

/-- Why a run gives no report. -/
inductive EvaluationError where
  /-- The plan is not valid; nothing was done. -/
  | plan (fault : PlanFault)
  /-- The settings were refused. -/
  | settings (error : SettingsError)
  /-- The threads for the metrics could not be had. -/
  | threads (reason : String)
  /-- The task that feeds the sink was lost. -/
  | consumer (reason : String)

/-- The wording of an evaluation error. -/
def EvaluationError.message : EvaluationError → String
  | .plan fault => s!"invalid run config: {fault.message}"
  | .settings error => error.message
  | .threads reason => s!"failed to build metric thread pool: {reason}"
  | .consumer reason => s!"result consumer failed: {reason}"

/-- Runs plans under fixed settings. -/
structure Evaluator where
  settings : Settings
  /-- How many processors there are, which is how many calls go on at once if the settings leave it
  open. -/
  processors : Nat
  cancelled : Bool
  /-- The states of the configurations of the last run. -/
  states : States

/-- What a run leaves behind. -/
structure Finished (State : Type) where
  evaluator : Evaluator
  report : RunReport
  sink : State

namespace Evaluator

/-- An evaluator with these settings, if they can be used. -/
def create (settings : Settings) (processors : Nat) : Except EvaluationError Evaluator :=
  match settings.validated with
  | .ok valid => .ok ⟨valid, processors, false, .empty⟩
  | .error error => .error (.settings error)

/-- Cancels the run that goes on, and all later ones. -/
def cancel (evaluator : Evaluator) : Evaluator := { evaluator with cancelled := true }

/-- The states of the configurations of the last run, by name. -/
def status (evaluator : Evaluator) : List (ConfigKey × ConfigState) := evaluator.states.sorted

/-- The state of a configuration of the last run. -/
def stateOf? (evaluator : Evaluator) (key : ConfigKey) : Option ConfigState :=
  evaluator.states.find? key

/-- The conditions of a plan that is run by an evaluator. -/
def conditions (evaluator : Evaluator) (plan : Plan) : Conditions :=
  .ofPlan evaluator.settings evaluator.processors plan

/-- The begin of a run, if the plan is valid. -/
def begin (evaluator : Evaluator) (plan : Plan) : Except EvaluationError Run :=
  match plan.fault? with
  | some fault => .error (.plan fault)
  | none =>
    .ok (.start (evaluator.conditions plan) evaluator.cancelled plan.configurations)

/-- The end of a run: the sink was offered the rows in the order in which they came, and the
reports of the configurations go into the report of the run. -/
def finish {State : Type} (evaluator : Evaluator) (run : Run) (sink : Sink State) (state : State)
    (stamp : RunStamp) : Finished State :=
  let consumed := sink.consume state run.log
  { evaluator := { evaluator with cancelled := run.calls.cancelled, states := run.states }
    report := {
      stamp
      configs := run.configs
      summary := run.configs.flatMap ConfigReport.summaryRows
      rowsWritten := consumed.1.written
      sinkErrors := consumed.1.errors
      cancelled := run.calls.cancelled }
    sink := consumed.2 }

/-- Runs a plan, one configuration after the other. -/
def run {State : Type} (evaluator : Evaluator) (plan : Plan) (sink : Sink State) (state : State)
    (stamp : RunStamp) : Except EvaluationError (Finished State) := do
  let begun ← evaluator.begin plan
  return evaluator.finish (begun.inTurn (evaluator.conditions plan)) sink state stamp

end Evaluator

end Holdout
