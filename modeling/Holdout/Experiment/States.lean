/-
This file defines the states that a run shows of its configurations while it goes on. Each stands
under the name of its configuration: one that is written takes the place of the one before, and the
others stay.
-/

import Holdout.Experiment.Key
import Holdout.Experiment.State
import Holdout.Table

namespace Holdout

/-- The states of configurations, each under a name of its own. -/
structure States where
  entries : List (ConfigKey × ConfigState)
  distinct : (entries.map Prod.fst).Nodup

namespace States

/-- No states. -/
def empty : States := ⟨[], List.nodup_nil⟩

/-- Writes a state under a name. -/
def write (states : States) (key : ConfigKey) (state : ConfigState) : States :=
  ⟨putEntry key state states.entries, nodup_putEntry key state states.entries states.distinct⟩

/-- Writes some states, one after the other. -/
def writeAll (states : States) (news : List (ConfigKey × ConfigState)) : States :=
  news.foldl (fun states entry => states.write entry.1 entry.2) states

/-- The states of configurations that wait for their turn. -/
def waiting (keys : List ConfigKey) : States := empty.writeAll (keys.map fun key => (key, .pending))

/-- The state under a name. -/
def find? (states : States) (key : ConfigKey) : Option ConfigState := states.entries.lookup key

/-- The states, sorted by the names. -/
def sorted (states : States) : List (ConfigKey × ConfigState) :=
  states.entries.mergeSort fun first second => first.1.atMost second.1

end States

end Holdout
