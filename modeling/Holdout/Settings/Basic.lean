/-
This file defines the settings of the evaluation engine: how much of it runs at once, how long a
query may take, and in which order its results come. Settings can hold any numbers; whether an
engine can run with them is a check of its own, and its error names the first thing that is wrong.
-/

import Holdout.Decimal.Layout
import Holdout.Duration

namespace Holdout

/-- What is wrong with settings. -/
inductive SettingsFault where
  /-- A setting is zero that has to be at least one. -/
  | zero (setting : String)
  /-- The timeout is no finite number above zero. -/
  | timeoutNotPositive (seconds : Float)
  /-- The timeout is too long to be measured. -/
  | timeoutOutOfRange (seconds : Float)
  /-- A variable of the environment holds something else than a number. -/
  | unreadable (name value : String)
  /-- A fault that another part of the program words itself. -/
  | other (text : String)

/-- The wording of a fault. -/
def SettingsFault.message : SettingsFault → String
  | .zero setting => s!"{setting} must be at least 1"
  | .timeoutNotPositive seconds =>
    s!"query_timeout_secs must be positive, got {Decimal.inMessage seconds}"
  | .timeoutOutOfRange seconds => s!"query_timeout_secs out of range: {Decimal.inMessage seconds}"
  | .unreadable name value => s!"{name}: cannot parse '{value}'"
  | .other text => text

/-- Why there are no settings. -/
inductive SettingsError where
  /-- The file could not be read. -/
  | file (reason : String)
  /-- The text is no settings document. -/
  | document
  /-- The settings cannot be used. -/
  | invalid (fault : SettingsFault)

/-- The wording of a settings error. -/
def SettingsError.message : SettingsError → String
  | .file reason => s!"failed to read config: {reason}"
  | .document => "failed to parse config"
  | .invalid fault => s!"invalid config: {fault.message}"

/-- The settings of the evaluation engine. -/
structure Settings where
  /-- How many scoring and training calls run at once; without a number, one for every
  processor. -/
  maxConcurrency : Option Nat := none
  /-- How many configurations are worked on at once. -/
  maxConcurrentConfigs : Nat := 2
  /-- How many seconds the scoring of one query may take. -/
  queryTimeoutSeconds : Option Float := none
  /-- Whether rows come in the order of the queries, not in that of their completion. -/
  orderedOutput : Bool := false
  /-- How many rows may wait for the sink. -/
  channelCapacity : Nat := 1024
  /-- How many threads compute metrics; zero leaves it open. -/
  metricThreads : Nat := 0

instance : Inhabited Settings := ⟨{}⟩

namespace Settings

/-- What is wrong with a timeout, if anything is. -/
def timeoutFault? (seconds : Float) : Option SettingsFault :=
  if !(seconds.isFinite && 0 < seconds) then some (.timeoutNotPositive seconds)
  else if (Duration.ofSeconds? seconds).isNone then some (.timeoutOutOfRange seconds)
  else none

/-- The first thing that is wrong with settings, if anything is. -/
def fault? (settings : Settings) : Option SettingsFault :=
  if settings.maxConcurrency = some 0 then some (.zero "max_concurrency")
  else if settings.maxConcurrentConfigs = 0 then some (.zero "max_concurrent_configs")
  else if settings.channelCapacity = 0 then some (.zero "channel_capacity")
  else settings.queryTimeoutSeconds.bind timeoutFault?

/-- The settings themselves, if an engine can run with them. -/
def validated (settings : Settings) : Except SettingsError Settings :=
  match settings.fault? with
  | some fault => .error (.invalid fault)
  | none => .ok settings

/-- How long the scoring of one query may take, if that is limited by a length of time. -/
def queryTimeout? (settings : Settings) : Option Duration :=
  settings.queryTimeoutSeconds.bind Duration.ofSeconds?

end Settings

end Holdout
