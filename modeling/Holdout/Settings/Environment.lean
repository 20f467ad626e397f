/-
This file overrides settings by variables of the environment. White space around a value does not
count, but an error shows the value as it is. Either everything that is set can be used, or nothing
is changed.
-/

import Holdout.Decimal.Numeral
import Holdout.Settings.Basic
import Holdout.Text.Blank

namespace Holdout

/-- The values of variables, as far as they are set. -/
abbrev Environment := String → Option String

namespace Settings

/-- The variable of the number of concurrent calls. -/
def concurrencyVariable : String := "RECBENCH_NUM_THREADS"

/-- The variable of the number of concurrent configurations. -/
def configsVariable : String := "RECBENCH_MAX_CONFIGS"

/-- The variable of the query timeout. -/
def timeoutVariable : String := "RECBENCH_QUERY_TIMEOUT"

/-- The variable that asks for ordered output. -/
def orderedVariable : String := "RECBENCH_ORDERED_OUTPUT"

/-- The value of a variable, if it is set. -/
def readVariable {Value : Type} (read? : List Char → Option Value) (environment : Environment)
    (name : String) : Except SettingsError (Option Value) :=
  match environment name with
  | none => .ok none
  | some text =>
    match read? (Text.trim text.toList) with
    | some value => .ok (some value)
    | none => .error (.invalid (.unreadable name text))

/-- Whether a text says yes. -/
def isYes (text : String) : Bool :=
  ["1", "true", "yes"].contains (String.ofList (Text.trim text.toList))

/-- Settings with the variables that are set in place of the old values, checked. -/
def overridden (settings : Settings) (environment : Environment) :
    Except SettingsError Settings := do
  let concurrency ← readVariable (Decimal.natural? (twoTo 64)) environment concurrencyVariable
  let configs ← readVariable (Decimal.natural? (twoTo 64)) environment configsVariable
  let timeout ← readVariable Decimal.float? environment timeoutVariable
  validated
    { settings with
      maxConcurrency := concurrency.orElse fun _ => settings.maxConcurrency
      maxConcurrentConfigs := configs.getD settings.maxConcurrentConfigs
      queryTimeoutSeconds := timeout.orElse fun _ => settings.queryTimeoutSeconds
      orderedOutput := ((environment orderedVariable).map isYes).getD settings.orderedOutput }

end Settings

end Holdout
