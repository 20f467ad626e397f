/-
This file defines scorers, the models under evaluation. A scorer gives scores to candidates; what
training gives is another scoring function, which replaces the one before. Every call of a scorer
is a piece of work: it takes time, can crash, and can cancel the run it is part of.
-/

import Holdout.Duration
import Holdout.Guarded
import Holdout.Split

namespace Holdout

/-- Why a scorer has no answer. -/
inductive ScorerError where
  /-- Scores were asked of a scorer that needs training and had none. -/
  | untrained (scorer : String)
  /-- Any other failure, worded by the scorer. -/
  | failed (text : String)
deriving DecidableEq, Repr

/-- The wording of a scorer error. -/
def ScorerError.message : ScorerError → String
  | .untrained scorer => s!"scorer '{scorer}' used before training"
  | .failed text => s!"scorer failed: {text}"

/-- What a call of foreign code does. -/
structure Work (Value : Type) where
  result : Guarded Value
  /-- Whether the run is cancelled while the call goes on. -/
  cancels : Bool
  /-- How long the call takes. -/
  takes : Duration

/-- A call that is over at once and has no other effect. -/
def Work.immediate {Value : Type} (value : Value) : Work Value := ⟨.ok value, false, ⟨0⟩⟩

/-- Gives the candidates of a query scores. Candidates may be left out. -/
abbrev Scoring := Query → ItemList → Work (Except ScorerError ItemList)

/-- A model under evaluation. -/
structure Scorer where
  name : String
  /-- Whether scoring needs training first. -/
  requiresTraining : Bool
  /-- Scoring before any training. -/
  score : Scoring
  /-- Scoring after training with some data. -/
  train : Dataset → Work (Except ScorerError Scoring)

/-- A scorer as it is built for every configuration; building it can crash. -/
structure Algorithm where
  id : String
  build : Guarded Scorer

end Holdout
