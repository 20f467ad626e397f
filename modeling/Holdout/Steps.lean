/-
This file defines what it means that a system goes on step by step, whatever its states and its
moves are. A move may be impossible in a state. A system that goes on by itself tries its moves in a
fixed order and stops where none of them is possible.
-/

namespace Holdout

namespace Steps

variable {State Move : Type} (step : State → Move → Option State)

/-- What moves one after the other lead to, if all of them are possible. -/
def follow (state : State) : List Move → Option State
  | [] => some state
  | move :: rest => (step state move).bind fun next => follow next rest

/-- The system goes on by itself, with at most `fuel` moves. -/
def inTurn (options : State → List Move) : Nat → State → State
  | 0, state => state
  | fuel + 1, state =>
    match (options state).findSome? (step state) with
    | some next => inTurn options fuel next
    | none => state

end Steps

end Holdout
