/-
This file joins the slots of a run with the calls that are made in them. A call begins when its
slot is granted and holds the slot until it returns, however long that takes and whether or not
somebody still waits for its result. A call can cancel the run it is part of.
-/

import Holdout.Budget

namespace Holdout

/-- The slots of a run, and the calls that go on in them. -/
structure Calls (Name : Type) where
  budget : Budget Name
  /-- Who makes a call, and whether the call cancels the run. -/
  ongoing : List (Name × Bool)

namespace Calls

variable {Name : Type}

/-- No call goes on, in a run that may be cancelled already. -/
def ofSize (size : Nat) (cancelled : Bool) : Calls Name :=
  ⟨{ Budget.ofSize size with cancelled }, []⟩

/-- Whether the run is cancelled. -/
def cancelled (calls : Calls Name) : Bool := calls.budget.cancelled

/-- Cancels the run. -/
def cancel (calls : Calls Name) : Calls Name :=
  { calls with budget := { calls.budget with cancelled := true } }

/-- Cancels the run if something that happened does so. -/
def cancelIf (calls : Calls Name) (cancels : Bool) : Calls Name :=
  if cancels then calls.cancel else calls

/-- Who makes a call. -/
def names (calls : Calls Name) : List Name := calls.ongoing.map Prod.fst

variable [DecidableEq Name]

/-- Asks for a slot, or looks whether it is there. A call begins as soon as its slot is granted. -/
def ask (calls : Calls Name) (name : Name) (cancels : Bool) : BudgetAnswer × Calls Name :=
  match calls.budget.acquire name with
  | (.granted, budget) => (.granted, ⟨budget, (name, cancels) :: calls.ongoing⟩)
  | (answer, budget) => (answer, { calls with budget })

/-- The end of a call: its slot is given back. -/
def finish (calls : Calls Name) (name : Name) : Option (Calls Name) :=
  match calls.ongoing.find? fun call => call.1 = name with
  | some call =>
    let after : Calls Name := ⟨(calls.budget.release name).2, calls.ongoing.erase call⟩
    some (after.cancelIf call.2)
  | none => none

/-- Others take part who share the slots. -/
def others (calls : Calls Name) (step : BudgetStep Name) : Calls Name :=
  { calls with budget := (calls.budget.step step).2 }

end Calls

end Holdout
