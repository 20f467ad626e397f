/-
This file runs a batch by itself: its outcomes are collected in the order in which they are sent.
The slots may be shared with others, whose moves are part of the run, and so is the moment at which
somebody cancels it. A batch that is run in turn makes its moves query by query.
-/

import Holdout.Batch.Progress
import Holdout.Steps

namespace Holdout

/-- Who may hold a slot while a batch is run: the task of a query, or somebody else. -/
abbrev BatchSlot := Nat ⊕ String

/-- A batch that is run by itself. -/
structure BatchRun where
  calls : Calls BatchSlot
  progress : Batch.Progress
  /-- The outcomes that were sent, in their order. -/
  collected : List Outcome

/-- A move while a batch is run. -/
inductive BatchRunMove where
  /-- The batch makes a move. -/
  | batch (move : Batch.Move)
  /-- The call of a query returns. -/
  | finish (index : Nat)
  /-- Others who share the slots do something with theirs, or cancel the run. -/
  | others (step : BudgetStep String)
deriving DecidableEq, Repr

/-- A step of somebody else, under the name that a batch knows it by. -/
def BudgetStep.ofOthers : BudgetStep String → BudgetStep BatchSlot
  | .acquire name => .acquire (.inr name)
  | .release name => .release (.inr name)
  | .abandon name => .abandon (.inr name)
  | .cancel => .cancel

namespace BatchRun

/-- A batch that has not begun, with a budget of its own. -/
def start (size : Nat) (cancelled : Bool) : BatchRun := ⟨.ofSize size cancelled, {}, []⟩

/-- What a move leads to, if it is possible. -/
def step (batch : Batch) (score : Scoring) (queries : List Query) (run : BatchRun) :
    BatchRunMove → Option BatchRun
  | .batch move =>
    (batch.advance score queries Sum.inl run.calls run.progress move).map fun advance =>
      ⟨advance.calls, advance.progress, run.collected ++ advance.sent.toList⟩
  | .finish index => (run.calls.finish (.inl index)).map fun calls => { run with calls }
  | .others step => some { run with calls := run.calls.others step.ofOthers }

/-- What moves one after the other lead to, if all of them are possible. -/
def follow (batch : Batch) (score : Scoring) (queries : List Query) (run : BatchRun)
    (moves : List BatchRunMove) : Option BatchRun :=
  Steps.follow (step batch score queries) run moves

/-- The moves that a batch may try when it is run in turn: calls return as soon as they were made,
and outcomes are sent as soon as they are there. -/
def options (run : BatchRun) : List BatchRunMove :=
  (run.calls.names.filterMap Sum.getLeft?).map .finish ++ run.progress.options.map .batch

/-- How many moves of its own a batch has left at most. -/
def remaining (queries : List Query) (run : BatchRun) : Nat :=
  run.progress.remaining 0 queries + run.calls.ongoing.length

/-- A batch run in turn to its end. -/
def inTurn (batch : Batch) (score : Scoring) (queries : List Query) (run : BatchRun) : BatchRun :=
  Steps.inTurn (step batch score queries) options (run.remaining queries) run

/-- The results of a batch that was run. -/
def results (run : BatchRun) : Results := .ofOutcomes run.collected

end BatchRun

/-- The results of a batch whose queries are scored in turn, in a run that may be cancelled
already. -/
def Batch.run (batch : Batch) (score : Scoring) (queries : List Query) (size : Nat)
    (cancelled : Bool) : Results :=
  ((BatchRun.start size cancelled).inTurn batch score queries).results

/-- The best items for some queries that name their candidates. Nothing limits the time, and nothing
can cancel it. -/
def recommend (score : Scoring) (queries : List Query) (limit : Option Nat) : Results :=
  let batch : Batch := { limit }
  let apart : Scoring := fun query candidates => { score query candidates with cancels := false }
  batch.run apart queries 1 false

end Holdout
