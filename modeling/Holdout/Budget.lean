/-
This file defines the slots that calls of a run share, together with the signal that cancels the
run. Slots are given out in the order in which they were asked for: one that becomes free goes to
whoever waits longest, who finds it at the next look. Cancelling gives no slot back and takes none
away; it only ends all waiting. Everyone who asks is known by a name and asks for one slot at a
time. Names can be of any type.
-/

namespace Holdout

/-- The slots of a run, and who has or wants them. -/
structure Budget (Name : Type) where
  /-- How many slots there are. -/
  size : Nat
  /-- How many slots nobody has. -/
  free : Nat
  /-- Who waits for a slot, the one who asked first at the front. -/
  waiting : List Name
  /-- Who was given a slot while waiting and has not looked since. -/
  assigned : List Name
  /-- Who holds a slot. -/
  held : List Name
  /-- Whether the run is cancelled. -/
  cancelled : Bool
deriving DecidableEq, Repr

/-- What can be done with slots. -/
inductive BudgetStep (Name : Type) where
  /-- Asks for a slot, or looks whether it is there. -/
  | acquire (name : Name)
  /-- Gives a held slot back. -/
  | release (name : Name)
  /-- Stops asking. -/
  | abandon (name : Name)
  /-- Cancels the run. -/
  | cancel
deriving DecidableEq, Repr

/-- What a step answers. -/
inductive BudgetAnswer where
  | granted
  | waiting
  /-- The run is cancelled, there will be no slot. -/
  | cancelled
  | released
  | abandoned
  /-- There was nothing to give back or to stop. -/
  | nothing
  | done
deriving DecidableEq, Repr

namespace Budget

variable {Name : Type}

/-- A budget of which nothing is used; it has one slot at least. -/
def ofSize (size : Nat) : Budget Name := ⟨max size 1, max size 1, [], [], [], false⟩

/-- Gives a slot to whoever waits longest, or makes it free. -/
def handOn (budget : Budget Name) : Budget Name :=
  match budget.waiting with
  | [] => { budget with free := budget.free + 1 }
  | name :: rest => { budget with waiting := rest, assigned := budget.assigned ++ [name] }

variable [DecidableEq Name]

/-- Takes a wish for a slot back; if the slot was there already, it goes to the next. -/
def withdraw (budget : Budget Name) (name : Name) : Budget Name :=
  if name ∈ budget.assigned then handOn { budget with assigned := budget.assigned.erase name }
  else { budget with waiting := budget.waiting.erase name }

/-- Holds a slot under a name. A slot that was held under that name before is given back. -/
def hold (budget : Budget Name) (name : Name) : Budget Name :=
  if name ∈ budget.held then budget.handOn else { budget with held := name :: budget.held }

/-- Asks for a slot, or looks whether it is there. -/
def acquire (budget : Budget Name) (name : Name) : BudgetAnswer × Budget Name :=
  if budget.cancelled then (.cancelled, budget.withdraw name)
  else if name ∈ budget.assigned then
    (.granted, hold { budget with assigned := budget.assigned.erase name } name)
  else if name ∈ budget.waiting then (.waiting, budget)
  else if 0 < budget.free then (.granted, hold { budget with free := budget.free - 1 } name)
  else (.waiting, { budget with waiting := budget.waiting ++ [name] })

/-- Gives a held slot back. -/
def release (budget : Budget Name) (name : Name) : BudgetAnswer × Budget Name :=
  if name ∈ budget.held then (.released, handOn { budget with held := budget.held.erase name })
  else (.nothing, budget)

/-- Stops asking for a slot. -/
def abandon (budget : Budget Name) (name : Name) : BudgetAnswer × Budget Name :=
  if name ∈ budget.assigned ∨ name ∈ budget.waiting then (.abandoned, budget.withdraw name)
  else (.nothing, budget)

/-- One step, with its answer. -/
def step (budget : Budget Name) : BudgetStep Name → BudgetAnswer × Budget Name
  | .acquire name => budget.acquire name
  | .release name => budget.release name
  | .abandon name => budget.abandon name
  | .cancel => (.done, { budget with cancelled := true })

end Budget

end Holdout
