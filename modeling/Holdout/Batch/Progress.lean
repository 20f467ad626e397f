/-
This file defines how a batch goes on. The queries ask for their slots in order. One that gets a
slot becomes a task of its own, which sends the outcome as soon as there is one; one that is refused
because the run is cancelled is reported as such at once. When all queries have asked, the tasks are
awaited in the order in which they end, and a last pass over all queries reports those that nobody
has reported, because their task vanished. What happens when is left open: the moves of a batch can
come in any order that these rules allow.
-/

import Holdout.Batch.Scoring
import Holdout.Calls

namespace Holdout

namespace Batch

/-- How far a batch is. -/
structure Progress where
  /-- The position of the query that asks for a slot next. -/
  next : Nat := 0
  /-- Whether that query waits for its slot. -/
  asking : Bool := false
  /-- The positions of the queries that got a slot. -/
  spawned : List Nat := []
  /-- The tasks that have not sent their outcome yet. -/
  running : List Nat := []
  /-- The tasks that have sent their outcome and are still to be awaited. -/
  ended : List Nat := []
  /-- The tasks that vanished without an outcome. -/
  lost : List Nat := []
  /-- The queries that are known to have an outcome. -/
  reported : List Nat := []
  /-- How many queries the last pass has seen. -/
  swept : Nat := 0
deriving DecidableEq, Repr

/-- A move of a batch. -/
inductive Move where
  /-- The next query asks for its slot, or looks whether it is there. -/
  | ask
  /-- A task sends its outcome. -/
  | send (index : Nat)
  /-- A task vanishes. -/
  | lose (index : Nat)
  /-- A task that has sent its outcome is awaited. -/
  | join (index : Nat)
  /-- The last pass comes to the next query. -/
  | sweep
deriving DecidableEq, Repr

/-- What a move of a batch leads to, and the outcome that it sends. -/
structure Advance (Name : Type) where
  calls : Calls Name
  progress : Progress
  sent : Option Outcome

/-- What is said of a query whose task vanished. -/
def aborted : QueryError := .crashed "scoring task aborted"

variable {Name : Type} [DecidableEq Name]

/-- The next query asks for its slot. The slots are known by the names of the positions. -/
def ask (batch : Batch) (score : Scoring) (queries : List Query) (name : Nat → Name)
    (calls : Calls Name) (progress : Progress) : Option (Advance Name) :=
  match queries[progress.next]? with
  | none => none
  | some query =>
    match calls.ask (name progress.next) (batch.call score query).cancels with
    | (.granted, calls) =>
      some ⟨calls, { progress with
        next := progress.next + 1
        asking := false
        spawned := progress.spawned ++ [progress.next]
        running := progress.running ++ [progress.next] }, none⟩
    | (.cancelled, calls) =>
      some ⟨calls, { progress with
        next := progress.next + 1
        asking := false
        reported := progress.reported ++ [progress.next] },
        some ⟨progress.next, query.id, .error .cancelled⟩⟩
    | (_, calls) =>
      if progress.asking then none else some ⟨calls, { progress with asking := true }, none⟩

/-- A task sends its outcome, once its call has returned or has taken too long. -/
def send (batch : Batch) (score : Scoring) (queries : List Query) (name : Nat → Name)
    (calls : Calls Name) (progress : Progress) (index : Nat) : Option (Advance Name) :=
  match queries[index]? with
  | none => none
  | some query =>
    if index ∈ progress.running ∧
        (name index ∉ calls.names ∨ (batch.overrun? score query).isSome) then
      some ⟨calls, { progress with
        running := progress.running.erase index
        ended := progress.ended ++ [index] },
        some ⟨index, query.id, batch.scoreOne score query⟩⟩
    else none

/-- A task vanishes. -/
def lose (calls : Calls Name) (progress : Progress) (index : Nat) : Option (Advance Name) :=
  if index ∈ progress.running then
    some ⟨calls, { progress with
      running := progress.running.erase index
      lost := progress.lost ++ [index] }, none⟩
  else none

/-- A task that has sent its outcome is awaited. -/
def join (queries : List Query) (calls : Calls Name) (progress : Progress) (index : Nat) :
    Option (Advance Name) :=
  if queries.length ≤ progress.next ∧ index ∈ progress.ended then
    some ⟨calls, { progress with
      ended := progress.ended.erase index
      reported := progress.reported ++ [index] }, none⟩
  else none

/-- The last pass comes to the next query, which it reports unless somebody has. -/
def sweep (queries : List Query) (calls : Calls Name) (progress : Progress) :
    Option (Advance Name) :=
  if queries.length ≤ progress.next ∧ progress.running = [] ∧ progress.ended = [] then
    match queries[progress.swept]? with
    | none => none
    | some query =>
      some ⟨calls, { progress with swept := progress.swept + 1 },
        if progress.swept ∈ progress.reported then none
        else some ⟨progress.swept, query.id, .error aborted⟩⟩
  else none

/-- What a move leads to, if it is possible. -/
def advance (batch : Batch) (score : Scoring) (queries : List Query) (name : Nat → Name)
    (calls : Calls Name) (progress : Progress) : Move → Option (Advance Name)
  | .ask => batch.ask score queries name calls progress
  | .send index => batch.send score queries name calls progress index
  | .lose index => lose calls progress index
  | .join index => join queries calls progress index
  | .sweep => sweep queries calls progress

/-- Whether a batch is through. -/
def Progress.isDone (progress : Progress) (queries : List Query) : Bool :=
  decide (queries.length ≤ progress.next ∧ progress.running = [] ∧ progress.ended = [] ∧
    queries.length ≤ progress.swept)

/-- The moves that a batch may try, in the order in which a batch that is worked on query by query
tries them. -/
def Progress.options (progress : Progress) : List Move :=
  progress.running.map .send ++ .ask :: progress.ended.map .join ++ [.sweep]

/-- How many moves a batch has left at most, if sending an outcome counts for `weight` moves and
granting a slot for one more. -/
def Progress.remaining (progress : Progress) (weight : Nat) (queries : List Query) : Nat :=
  (queries.length - progress.next) * (weight + 6) + (if progress.asking then 0 else 1) +
    progress.running.length * (weight + 2) + progress.ended.length +
    (queries.length - progress.swept) * (weight + 1)

end Batch

end Holdout
