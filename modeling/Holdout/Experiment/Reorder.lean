/-
This file puts outcomes back into the order of their queries while they arrive. An outcome is held
until every earlier one has been released; at the end what is still held follows in order.
-/

import Holdout.Batch.Outcome

namespace Holdout

/-- Outcomes that arrived too early, and the position that is due. -/
structure Reorder where
  next : Nat
  /-- What is held, in the order of the queries. -/
  held : List Outcome

namespace Reorder

/-- Nothing has arrived, and the first position is due. -/
def start : Reorder := ⟨0, []⟩

/-- Puts an outcome at its place among outcomes in order; one of the same position is replaced. -/
def insert (outcome : Outcome) : List Outcome → List Outcome
  | [] => [outcome]
  | first :: rest =>
    if outcome.index < first.index then outcome :: first :: rest
    else if outcome.index = first.index then outcome :: rest
    else first :: insert outcome rest

/-- Divides outcomes in order into those that follow one another from the position `next`, and the
others. -/
def ready (next : Nat) : List Outcome → List Outcome × List Outcome
  | [] => ([], [])
  | first :: rest =>
    if first.index = next then
      let (due, others) := ready (next + 1) rest
      (first :: due, others)
    else
      let (due, others) := ready next rest
      (due, first :: others)

/-- Takes a chunk of outcomes in, and releases what is due. -/
def release (reorder : Reorder) (chunk : List Outcome) : List Outcome × Reorder :=
  let held := chunk.foldl (fun held outcome => insert outcome held) reorder.held
  let (due, others) := ready reorder.next held
  (due, ⟨reorder.next + due.length, others⟩)

/-- What is released chunk by chunk, and what is left at the end. -/
def releases (reorder : Reorder) : List (List Outcome) → List (List Outcome)
  | [] => [reorder.held]
  | chunk :: rest =>
    let (due, after) := reorder.release chunk
    due :: after.releases rest

/-- Chunks of outcomes put into the order of their queries. -/
def inOrder (chunks : List (List Outcome)) : List (List Outcome) := start.releases chunks

end Reorder

end Holdout
