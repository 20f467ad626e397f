/-
This file evaluates one configuration: its split is loaded, its scorer is built and trained, its
queries are scored, the outcomes are measured as they arrive, and at the end the global metrics are
computed. Whatever goes wrong ends this configuration with one more row and leaves the rows before
it. Other configurations share the slots and the signal that cancels the run, so the work is cut
into moves, and whatever others do can happen between two of them.
-/

import Holdout.Batch.Progress
import Holdout.Experiment.Measuring
import Holdout.Experiment.Plan
import Holdout.Experiment.Report
import Holdout.Settings.Basic

namespace Holdout

/-- What all configurations of a run have in common. -/
structure Conditions where
  metrics : List Metric
  /-- How many items a list holds at most. -/
  limit : Option Nat
  mode : CandidateMode
  /-- How long the scoring of one query may take. -/
  timeout : Option Duration
  /-- Whether rows come in the order of the queries. -/
  ordered : Bool
  /-- How many scoring and training calls go on at once. -/
  slots : Nat
  /-- How many configurations are worked on at once. -/
  configsAtOnce : Nat
  /-- How many outcomes of a configuration may wait to be measured. -/
  capacity : Nat

namespace Conditions

/-- The conditions of a plan under some settings, on a machine with some processors. -/
def ofPlan (settings : Settings) (processors : Nat) (plan : Plan) : Conditions where
  metrics := plan.metrics
  limit := plan.limit
  mode := plan.mode
  timeout := settings.queryTimeout?
  ordered := settings.orderedOutput
  slots := settings.maxConcurrency.getD processors
  configsAtOnce := settings.maxConcurrentConfigs
  capacity := settings.channelCapacity

/-- How the queries of a split are scored. -/
def batch (conditions : Conditions) (split : Split) : Batch where
  pool := some (CandidatePool.ofDataset conditions.mode split.train)
  limit := conditions.limit
  timeout := conditions.timeout

/-- How the outcomes of a configuration are measured. -/
def measuring (conditions : Conditions) (key : ConfigKey) (split : Split) : Measuring :=
  ⟨key, conditions.metrics, split.test, conditions.ordered⟩

end Conditions

/-- Who may hold a slot in a run: the training of a configuration, known by its position, or one of
its queries. -/
abbrev Slot := Nat × Option Nat

/-- How far the outcomes of a configuration are measured. -/
inductive Measurer where
  /-- Outcomes may still arrive. -/
  | working (reorder : Reorder) (gathered : Gathered)
  /-- All outcomes are measured. -/
  | finished (gathered : Gathered)
  /-- A metric crashed, and nobody takes outcomes any more. -/
  | crashed (crash : Crash)

/-- Where a configuration is on its way. -/
inductive Phase where
  /-- It waits for its turn. -/
  | pending
  /-- Its split is loaded. -/
  | loading
  /-- It wants a slot to train in, and waits for it if `asking`. -/
  | training (split : Split) (scorer : Scorer) (asking : Bool)
  /-- Its scorer is trained. -/
  | fitting (split : Split) (scorer : Scorer)
  /-- Its queries are scored, and the outcomes in the queue wait to be measured. -/
  | scoring (split : Split) (score : Scoring) (progress : Batch.Progress) (queue : List Outcome)
    (measurer : Measurer)
  /-- Its global metrics are computed. -/
  | scored (gathered : Gathered)
  /-- Its task crashed, which is reported when all others are through. -/
  | crashed (crash : Crash)
  /-- It is through. -/
  | ended

/-- A configuration that is worked on: its report so far, the rows that it sent, how many of them
have gone to the sink, and the states that it announced, under the name that its report has. -/
structure Task where
  configuration : Configuration
  phase : Phase
  report : ConfigReport
  rows : List Row
  handed : Nat
  announced : List (ConfigKey × ConfigState)

/-- A move of a configuration. -/
inductive TaskMove where
  /-- Its turn comes. -/
  | start
  /-- Loading ends. -/
  | load
  /-- It asks for a slot to train in, or looks whether it is there. -/
  | ask
  /-- Training ends. -/
  | fit
  /-- Its batch makes a move. -/
  | batch (move : Batch.Move)
  /-- The next `count` outcomes are measured as a chunk. -/
  | measure (count : Nat)
  /-- All outcomes have arrived, and what is held back is measured. -/
  | flush
  /-- All outcomes are measured. -/
  | conclude
  /-- The global metrics are computed; the whole configuration has taken so long. -/
  | aggregate (takes : Duration)

namespace Task

/-- A configuration that waits for its turn. -/
def start (configuration : Configuration) : Task :=
  ⟨configuration, .pending, ConfigReport.fresh configuration.key, [], 0, []⟩

/-- A configuration comes into a state: its report says so, and it announces it. -/
def setState (task : Task) (state : ConfigState) : Task :=
  { task with
    report := { task.report with state }
    announced := task.announced ++ [(task.report.key, state)] }

section

variable (task : Task) (state : ConfigState)

@[simp] theorem configuration_setState :
    (task.setState state).configuration = task.configuration := rfl

@[simp] theorem phase_setState : (task.setState state).phase = task.phase := rfl

@[simp] theorem report_setState :
    (task.setState state).report = { task.report with state } := rfl

@[simp] theorem rows_setState : (task.setState state).rows = task.rows := rfl

@[simp] theorem handed_setState : (task.setState state).handed = task.handed := rfl

end

/-- The end of a configuration that fails. -/
def fail (task : Task) (failure : ConfigFailure) : Task :=
  let ended : Task := { task with
    phase := .ended
    rows := task.rows ++ [Row.ofFailure task.report.key none failure.message] }
  ended.setState (.ofFailure failure)

/-- The report of a crash that nothing inside the task caught: what was known of the configuration
went with the task. -/
def failCrashed (task : Task) (crash : Crash) : Task :=
  { task with report := ConfigReport.fresh task.configuration.key }.fail ⟨.scoring, .crashed crash⟩

/-- The begin of scoring. -/
def beginScoring (task : Task) (split : Split) (score : Scoring) : Task :=
  let begun : Task := { task with
    phase := .scoring split score {} [] (.working .start {})
    report := { task.report with queries := split.queries.length } }
  begun.setState .scoring

/-- Builds the scorer for a split that was loaded. -/
def beginTraining (task : Task) (split : Split) : Task :=
  let trained := task.setState .training
  match task.configuration.algorithm.build with
  | .error crash => { trained with phase := .crashed crash }
  | .ok scorer =>
    if scorer.requiresTraining then { trained with phase := .training split scorer false }
    else trained.beginScoring split scorer.score

/-- The turn of a configuration comes; it is not begun any more when the run is cancelled. -/
def begin (calls : Calls Slot) (task : Task) : Option (Calls Slot × Task) :=
  match task.phase with
  | .pending =>
    some (calls,
      if calls.cancelled then task.fail ⟨.loading, .cancelled⟩
      else { task with phase := .loading })
  | _ => none

/-- The end of loading. -/
def load (calls : Calls Slot) (task : Task) : Option (Calls Slot × Task) :=
  match task.phase with
  | .loading =>
    let work := task.configuration.source.load
    some (calls.cancelIf work.cancels,
      match work.result with
      | .error crash => task.fail ⟨.loading, .crashed crash⟩
      | .ok (.error error) => task.fail ⟨.loading, .data error⟩
      | .ok (.ok split) => task.beginTraining split)
  | _ => none

/-- Asks for a slot to train in. -/
def ask (position : Nat) (calls : Calls Slot) (task : Task) : Option (Calls Slot × Task) :=
  match task.phase with
  | .training split scorer asking =>
    match calls.ask (position, none) (scorer.train split.train).cancels with
    | (.granted, calls) => some (calls, { task with phase := .fitting split scorer })
    | (.cancelled, calls) => some (calls, task.fail ⟨.training, .cancelled⟩)
    | (_, calls) =>
      if asking then none else some (calls, { task with phase := .training split scorer true })
  | _ => none

/-- The end of training, once its call has returned. -/
def fit (position : Nat) (calls : Calls Slot) (task : Task) : Option (Calls Slot × Task) :=
  match task.phase with
  | .fitting split scorer =>
    if (position, none) ∈ calls.names then none
    else some (calls,
      match (scorer.train split.train).result with
      | .error crash => task.fail ⟨.training, .crashed crash⟩
      | .ok (.error error) => task.fail ⟨.training, .scorer error⟩
      | .ok (.ok score) => task.beginScoring split score)
  | _ => none

/-- The queue after an outcome was sent: it may be full, and nobody may be there any more. -/
def enqueue (capacity : Nat) (measurer : Measurer) (queue : List Outcome) :
    Option Outcome → Option (List Outcome)
  | none => some queue
  | some outcome =>
    match measurer with
    | .crashed _ => some queue
    | _ => if queue.length < capacity then some (queue ++ [outcome]) else none

/-- A move of the batch. -/
def advance (conditions : Conditions) (position : Nat) (calls : Calls Slot) (task : Task)
    (move : Batch.Move) : Option (Calls Slot × Task) :=
  match task.phase with
  | .scoring split score progress queue measurer =>
    match (conditions.batch split).advance score split.queries (fun index => (position, some index))
        calls progress move with
    | none => none
    | some advance =>
      (enqueue conditions.capacity measurer queue advance.sent).map fun queue =>
        (advance.calls,
          { task with phase := .scoring split score advance.progress queue measurer })
  | _ => none

/-- Measures a chunk of outcomes. -/
def measure (conditions : Conditions) (calls : Calls Slot) (task : Task) (count : Nat) :
    Option (Calls Slot × Task) :=
  match task.phase with
  | .scoring split score progress queue (.working reorder gathered) =>
    if 0 < count ∧ count ≤ Measuring.chunkSize ∧ count ≤ queue.length then
      some (calls,
        match (conditions.measuring task.configuration.key split).absorb reorder
            (queue.take count) with
        | .ok (reorder, part) =>
          { task with
            phase := .scoring split score progress (queue.drop count)
              (.working reorder (gathered ++ part))
            rows := task.rows ++ part.rows }
        | .error crash => { task with phase := .scoring split score progress [] (.crashed crash) })
    else none
  | _ => none

/-- Measures what was held back, when the batch is through and all its outcomes were taken. -/
def flush (conditions : Conditions) (calls : Calls Slot) (task : Task) :
    Option (Calls Slot × Task) :=
  match task.phase with
  | .scoring split score progress [] (.working reorder gathered) =>
    if progress.isDone split.queries then
      some (calls,
        match (conditions.measuring task.configuration.key split).finish reorder with
        | .ok part =>
          { task with
            phase := .scoring split score progress [] (.finished (gathered ++ part))
            rows := task.rows ++ part.rows }
        | .error crash => { task with phase := .scoring split score progress [] (.crashed crash) })
    else none
  | _ => none

/-- Looks at what became of the outcomes, and whether the run was cancelled meanwhile. -/
def conclude (calls : Calls Slot) (task : Task) : Option (Calls Slot × Task) :=
  match task.phase with
  | .scoring split _ progress _ measurer =>
    if progress.isDone split.queries then
      match measurer with
      | .working _ _ => none
      | .crashed crash => some (calls, task.fail ⟨.measuring, .crashed crash⟩)
      | .finished gathered =>
        let counted := { task with
          report := { task.report with scored := gathered.scored, failed := gathered.failed } }
        some (calls,
          if calls.cancelled then counted.fail ⟨.scoring, .cancelled⟩
          else { counted with phase := .scored gathered }.setState .scored)
    else none
  | _ => none

/-- Computes the global metrics and the summary. -/
def aggregate (conditions : Conditions) (calls : Calls Slot) (task : Task) (takes : Duration) :
    Option (Calls Slot × Task) :=
  match task.phase with
  | .scored gathered =>
    some (calls,
      match gathered.analysis conditions.metrics with
      | .error crash => task.fail ⟨.measuring, .crashed crash⟩
      | .ok analysis =>
        let measured : Task := { task with
          phase := .ended
          report := { task.report with duration := takes, summary := analysis.summary }
          rows := task.rows ++
            analysis.global.map fun value => Row.ofMetric task.report.key none value.1 value.2 }
        measured.setState .aggregated)
  | _ => none

/-- What a move leads to, if it is possible. -/
def move (conditions : Conditions) (position : Nat) (calls : Calls Slot) (task : Task) :
    TaskMove → Option (Calls Slot × Task)
  | .start => task.begin calls
  | .load => task.load calls
  | .ask => task.ask position calls
  | .fit => task.fit position calls
  | .batch move => task.advance conditions position calls move
  | .measure count => task.measure conditions calls count
  | .flush => task.flush conditions calls
  | .conclude => task.conclude calls
  | .aggregate takes => task.aggregate conditions calls takes

/-- Whether a configuration is worked on. -/
def isActive (task : Task) : Bool :=
  match task.phase with
  | .pending | .crashed _ | .ended => false
  | _ => true

/-- Whether nothing is left to be done for a configuration, or only its crash is to be reported. -/
def isThrough (task : Task) : Bool :=
  match task.phase with
  | .crashed _ | .ended => true
  | _ => false

/-- The crash that is still to be reported, if there is one. -/
def crash? (task : Task) : Option Crash :=
  match task.phase with
  | .crashed crash => some crash
  | _ => none

/-- Whether a configuration is through and all its rows have gone to the sink. -/
def isOver (task : Task) : Bool :=
  match task.phase with
  | .ended => decide (task.rows.length ≤ task.handed)
  | _ => false

end Task

end Holdout
