/-
This file defines how far a configuration is. It goes from pending through training and scoring to
scored and aggregated, unless it fails; then it keeps the stage in which it failed and the reason.
-/

import Holdout.Guarded
import Holdout.Scorer.Basic

namespace Holdout

/-- What a configuration was at when it failed. -/
inductive Stage where
  | loading
  | training
  | scoring
  | measuring
deriving DecidableEq, Repr

/-- The name of a stage. -/
def Stage.label : Stage → String
  | .loading => "loading"
  | .training => "training"
  | .scoring => "scoring"
  | .measuring => "measuring"

/-- Why a configuration fails. -/
inductive ConfigFault where
  /-- The run is cancelled. -/
  | cancelled
  /-- Its split could not be had. -/
  | data (error : DataError)
  /-- Its scorer could not be trained. -/
  | scorer (error : ScorerError)
  /-- Foreign code crashed. -/
  | crashed (crash : Crash)

/-- The wording of a fault. -/
def ConfigFault.message : ConfigFault → String
  | .cancelled => "run cancelled"
  | .data error => error.message
  | .scorer error => error.message
  | .crashed crash => crash.message

/-- A failure of a configuration. -/
structure ConfigFailure where
  stage : Stage
  fault : ConfigFault

/-- The text of a failure in a row. -/
def ConfigFailure.message (failure : ConfigFailure) : String :=
  s!"{failure.stage.label}: {failure.fault.message}"

/-- How far a configuration is. -/
inductive ConfigState where
  | pending
  | training
  | scoring
  | scored
  | aggregated
  | failed (stage : Stage) (error : String)
deriving DecidableEq, Repr

namespace ConfigState

/-- The state of a configuration that failed. -/
def ofFailure (failure : ConfigFailure) : ConfigState :=
  .failed failure.stage failure.fault.message

/-- Whether a configuration failed. -/
def isFailed : ConfigState → Bool
  | .failed _ _ => true
  | _ => false

/-- Whether a configuration is through. -/
def isTerminal : ConfigState → Bool
  | .aggregated | .failed _ _ => true
  | _ => false

end ConfigState

end Holdout
