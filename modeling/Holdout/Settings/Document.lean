/-
This file reads settings from a TOML document. Every setting is a key at the top of the document;
a missing one keeps its default, and keys that nobody knows are passed over as long as their values
can be represented at all. A number of seconds may be written as a whole number.
-/

import Holdout.Settings.Basic
import Holdout.Toml.Document

namespace Holdout

namespace Toml

mutual

/-- Whether a value can be represented: a whole number in 128 bits, signed or not, and a float
within the range of doubles. -/
def isRepresentable : Toml → Bool
  | .integer value => decide (-(twoTo 127 : Int) ≤ value) && decide (value < twoTo 128)
  | .hugeFloat => false
  | .array elements => allRepresentable elements
  | .inlineTable entries => entriesRepresentable entries
  | _ => true
termination_by structural value => value

/-- Whether all elements can be represented. -/
def allRepresentable : List Toml → Bool
  | [] => true
  | element :: rest => isRepresentable element && allRepresentable rest
termination_by structural elements => elements

/-- Whether the values of all entries can be represented. -/
def entriesRepresentable : List (String × Toml) → Bool
  | [] => true
  | entry :: rest => entryRepresentable entry && entriesRepresentable rest
termination_by structural entries => entries

/-- Whether the value of an entry can be represented. -/
def entryRepresentable : String × Toml → Bool
  | (_, value) => isRepresentable value
termination_by structural entry => entry

end

/-- A count of 64 bits. -/
def count? : Toml → Option Nat
  | .integer (.ofNat value) => if value < twoTo 64 then some value else none
  | _ => none

/-- A truth value. -/
def flag? : Toml → Option Bool
  | .boolean value => some value
  | _ => none

/-- A double, also written as a whole number of 64 bits, signed or not. -/
def double? : Toml → Option Float
  | .float value => some value
  | .integer (.ofNat value) => if value < twoTo 64 then some (Float.ofNat value) else none
  | .integer (.negSucc value) =>
    if value < twoTo 63 then some (-Float.ofNat (value + 1)) else none
  | _ => none

end Toml

namespace Settings

/-- Settings with one more entry of a document taken over. -/
def takeEntry? (settings : Settings) (entry : String × Toml) : Option Settings :=
  match entry with
  | ("max_concurrency", value) =>
    value.count?.map fun count => { settings with maxConcurrency := some count }
  | ("max_concurrent_configs", value) =>
    value.count?.map fun count => { settings with maxConcurrentConfigs := count }
  | ("query_timeout_secs", value) =>
    value.double?.map fun seconds => { settings with queryTimeoutSeconds := some seconds }
  | ("ordered_output", value) =>
    value.flag?.map fun ordered => { settings with orderedOutput := ordered }
  | ("channel_capacity", value) =>
    value.count?.map fun count => { settings with channelCapacity := count }
  | ("metric_threads", value) =>
    value.count?.map fun count => { settings with metricThreads := count }
  | (_, value) => if value.isRepresentable then some settings else none

/-- The settings that a text holds, checked. -/
def ofText (text : String) : Except SettingsError Settings :=
  match (Toml.parse? text.toList).bind fun entries => entries.foldlM takeEntry? {} with
  | some settings => settings.validated
  | none => .error .document

/-- The settings in a file, from its text or from the reason why there is none. -/
def ofFile (contents : Except String String) : Except SettingsError Settings :=
  match contents with
  | .ok text => ofText text
  | .error reason => .error (.file reason)

end Settings

end Holdout
