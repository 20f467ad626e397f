/-
This file defines how a run goes on: its configurations make their moves in any order, calls return
whenever they do, rows go to the sink one after the other, and somebody may cancel the run at any
moment. A crash that ended the task of a configuration is reported when all tasks are through.
-/

import Holdout.Experiment.States
import Holdout.Experiment.Task
import Holdout.Steps

namespace Holdout

/-- A run that goes on. -/
structure Run where
  calls : Calls Slot
  /-- The configurations, in the order of the plan. -/
  tasks : List Task
  /-- The rows that have gone to the sink. -/
  log : List Row
  /-- The states that the run shows, also while it goes on. -/
  states : States

/-- A move of a run. -/
inductive RunMove where
  /-- The configuration at a position makes a move. -/
  | task (position : Nat) (move : TaskMove)
  /-- The call in a slot returns. -/
  | finish (slot : Slot)
  /-- The next row of a configuration goes to the sink. -/
  | hand (position : Nat)
  /-- The crash of a task is reported. -/
  | settle (position : Nat)
  /-- Somebody cancels the run. -/
  | cancel

namespace Run

/-- A run that has not begun. It shows its configurations and no others. -/
def start (conditions : Conditions) (cancelled : Bool) (configurations : List Configuration) :
    Run :=
  ⟨.ofSize conditions.slots cancelled, configurations.map .start, [],
    .waiting (configurations.map Configuration.key)⟩

/-- The configuration at a position has moved on, and what it announced meanwhile is written. -/
def replace (run : Run) (position : Nat) (before after : Task) : Run :=
  { run with
    tasks := run.tasks.set position after
    states := run.states.writeAll (after.announced.drop before.announced.length) }

section

variable (run : Run) (position : Nat) (before after : Task)

@[simp] theorem calls_replace : (run.replace position before after).calls = run.calls := rfl

@[simp] theorem tasks_replace :
    (run.replace position before after).tasks = run.tasks.set position after := rfl

@[simp] theorem log_replace : (run.replace position before after).log = run.log := rfl

/-- A configuration that announces nothing leaves the states as they are. -/
theorem replace_of_silent (silent : after.announced = before.announced) :
    run.replace position before after = { run with tasks := run.tasks.set position after } := by
  simp [replace, silent, States.writeAll]

end

/-- Whether a configuration may make a move, as far as that depends on the others: only so many are
worked on at once. -/
def admits (conditions : Conditions) (run : Run) : TaskMove → Bool
  | .start => decide (run.tasks.countP Task.isActive < conditions.configsAtOnce)
  | _ => true

/-- A move of the configuration at a position. -/
def moveTask (conditions : Conditions) (run : Run) (position : Nat) (move : TaskMove) :
    Option Run :=
  match run.tasks[position]? with
  | none => none
  | some task =>
    if run.admits conditions move then
      (task.move conditions position run.calls move).map fun after =>
        { run.replace position task after.2 with calls := after.1 }
    else none

/-- The next row of a configuration goes to the sink. -/
def hand (run : Run) (position : Nat) : Option Run :=
  match run.tasks[position]? with
  | none => none
  | some task =>
    match task.rows[task.handed]? with
    | none => none
    | some row =>
      some { run with
        tasks := run.tasks.set position { task with handed := task.handed + 1 }
        log := run.log ++ [row] }

/-- The crash of a task is reported, after those of the tasks before it. -/
def settle (run : Run) (position : Nat) : Option Run :=
  match run.tasks[position]? with
  | none => none
  | some task =>
    match task.crash? with
    | none => none
    | some crash =>
      if run.tasks.all Task.isThrough ∧ (run.tasks.take position).all (·.crash?.isNone) then
        some (run.replace position task (task.failCrashed crash))
      else none

/-- What a move leads to, if it is possible. -/
def step (conditions : Conditions) (run : Run) : RunMove → Option Run
  | .task position move => run.moveTask conditions position move
  | .finish slot => (run.calls.finish slot).map fun calls => { run with calls }
  | .hand position => run.hand position
  | .settle position => run.settle position
  | .cancel => if run.calls.cancelled then none else some { run with calls := run.calls.cancel }

/-- What moves one after the other lead to, if all of them are possible. -/
def follow (conditions : Conditions) (run : Run) (moves : List RunMove) : Option Run :=
  Steps.follow (step conditions) run moves

/-- Whether all configurations are through and all rows have gone to the sink. -/
def isOver (run : Run) : Bool := run.tasks.all Task.isOver

/-- The reports of the configurations. -/
def configs (run : Run) : List ConfigReport := run.tasks.map Task.report

end Run

/-! ### Runs in turn -/

namespace Task

/-- The moves that a configuration may try, in the order in which one that is worked on alone tries
them. Chunks are as large as they can be. -/
def options (task : Task) : List TaskMove :=
  match task.phase with
  | .pending => [.start]
  | .loading => [.load]
  | .training _ _ _ => [.ask]
  | .fitting _ _ => [.fit]
  | .scoring _ _ progress queue _ =>
    progress.options.map .batch ++
      [.measure (min queue.length Measuring.chunkSize), .flush, .conclude]
  | .scored _ => [.aggregate ⟨0⟩]
  | .crashed _ | .ended => []

/-- How many moves scoring so many queries takes at most, together with handing its rows on. -/
def scoringBound (conditions : Conditions) (queries : Nat) : Nat :=
  queries * (conditions.metrics.length + 9) + queries * (conditions.metrics.length + 4) +
    conditions.metrics.length + 6

/-- How many moves a configuration has left at most, those that hand its future rows on included. -/
def phaseBound (conditions : Conditions) (task : Task) : Nat :=
  match task.phase with
  | .pending =>
    match task.configuration.source.load.result with
    | .ok (.ok split) => scoringBound conditions split.queries.length + 7
    | _ => 7
  | .loading =>
    match task.configuration.source.load.result with
    | .ok (.ok split) => scoringBound conditions split.queries.length + 6
    | _ => 6
  | .training split _ asking =>
    scoringBound conditions split.queries.length + if asking then 4 else 5
  | .fitting split _ => scoringBound conditions split.queries.length + 2
  | .scoring split _ progress queue measurer =>
    progress.remaining (conditions.metrics.length + 3) split.queries +
      queue.length * (conditions.metrics.length + 3) + conditions.metrics.length + 4 +
      match measurer with
      | .working reorder _ => reorder.held.length * (conditions.metrics.length + 2) + 1
      | _ => 0
  | .scored _ => conditions.metrics.length + 2
  | .crashed _ => 2
  | .ended => 0

/-- How many moves a configuration has left at most, those that hand its rows on included. -/
def remaining (conditions : Conditions) (task : Task) : Nat :=
  task.phaseBound conditions + (task.rows.length - task.handed)

end Task

namespace Run

/-- The moves that a run may try, in the order in which a run that works on one configuration after
the other tries them. -/
def options (run : Run) : List RunMove :=
  let positions := List.range run.tasks.length
  positions.map .hand ++ run.calls.names.map .finish ++
    run.tasks.zipIdx.flatMap (fun entry => entry.1.options.map (.task entry.2)) ++
    positions.map .settle

/-- How many moves configurations have left at most. -/
def remainingOf (conditions : Conditions) : List Task → Nat
  | [] => 0
  | task :: rest => task.remaining conditions + remainingOf conditions rest

/-- How many moves a run has left at most. -/
def remaining (conditions : Conditions) (run : Run) : Nat :=
  remainingOf conditions run.tasks + run.calls.ongoing.length +
    if run.calls.cancelled then 0 else 1

/-- A run in turn to its end. -/
def inTurn (conditions : Conditions) (run : Run) : Run :=
  Steps.inTurn (step conditions) options (run.remaining conditions) run

end Run

end Holdout
