/-
This file says what an accepted timeout is. Settings that were accepted, wherever they come from,
have a length of time as their timeout exactly if they name a number of seconds, and it is the
nearest one. The check looks at the number and not at the length, so a number that is half a
nanosecond at most is accepted as well, and its timeout is no time at all.
-/

import Holdout.Experiment.Evaluator
import Holdout.Proofs.Duration
import Holdout.Proofs.ItemList.Valid
import Holdout.Settings.Document
import Holdout.Settings.Environment

namespace Holdout

namespace Settings

/-! ### Accepted settings -/

/-- Settings that were accepted: by the check itself, as they were read from a text or a file, with
what the environment says instead, or as those of an evaluator. -/
inductive Accepted : Settings → Prop where
  | checked {settings : Settings} (usable : settings.fault? = none) : Accepted settings
  | read {text : String} {settings : Settings} (reads : ofText text = .ok settings) :
    Accepted settings
  | loaded {contents : Except String String} {settings : Settings}
    (loads : ofFile contents = .ok settings) : Accepted settings
  | overridden {base settings : Settings} {environment : Environment}
    (overrides : base.overridden environment = .ok settings) : Accepted settings
  | running {base : Settings} {processors : Nat} {evaluator : Evaluator}
    (creates : Evaluator.create base processors = .ok evaluator) : Accepted evaluator.settings

section

variable {settings accepted : Settings}

theorem validated_eq_ok_iff :
    settings.validated = .ok accepted ↔ settings.fault? = none ∧ accepted = settings := by
  unfold validated
  cases settings.fault? <;> simp [eq_comm]

theorem usable_of_validated (accepts : settings.validated = .ok accepted) :
    accepted.fault? = none := by
  obtain ⟨usable, rfl⟩ := validated_eq_ok_iff.mp accepts
  exact usable

theorem usable_of_ofText {text : String} (reads : ofText text = .ok settings) :
    settings.fault? = none := by
  unfold ofText at reads
  split at reads
  · exact usable_of_validated reads
  · cases reads

theorem usable_of_overridden {environment : Environment}
    (overrides : settings.overridden environment = .ok accepted) : accepted.fault? = none := by
  obtain ⟨_, -, overrides⟩ := exists_of_bind overrides
  obtain ⟨_, -, overrides⟩ := exists_of_bind overrides
  obtain ⟨_, -, overrides⟩ := exists_of_bind overrides
  exact usable_of_validated overrides

/-- Settings are accepted exactly if nothing is wrong with them. -/
theorem accepted_iff : settings.Accepted ↔ settings.fault? = none := by
  refine ⟨fun accepted => ?_, .checked⟩
  cases accepted with
  | checked usable => exact usable
  | read reads => exact usable_of_ofText reads
  | loaded loads =>
    unfold ofFile at loads
    split at loads
    · exact usable_of_ofText loads
    · cases loads
  | overridden overrides => exact usable_of_overridden overrides
  | running creates =>
    unfold Evaluator.create at creates
    split at creates
    · rename_i accepts
      cases creates
      exact usable_of_validated accepts
    · cases creates

/-! ### The timeout -/

theorem timeoutFault?_eq_none_iff {seconds : Float} : timeoutFault? seconds = none ↔
    seconds.isFinite = true ∧ 0 < seconds ∧ (Duration.ofSeconds? seconds).isSome = true := by
  rw [timeoutFault?]
  split_ifs with refused unmeasured
  · rw [Bool.not_eq_true', Bool.and_eq_false_iff, decide_eq_false_iff_not] at refused
    refine iff_of_false (by simp) fun accepted => ?_
    rcases refused with infinite | notPositive
    · exact Bool.false_ne_true (infinite.symm.trans accepted.1)
    · exact notPositive accepted.2.1
  · simp [Option.isNone_iff_eq_none.mp unmeasured]
  · rw [Bool.not_eq_true, Bool.not_eq_false', Bool.and_eq_true, decide_eq_true_iff] at refused
    rw [Bool.not_eq_true, Option.isNone_eq_false_iff] at unmeasured
    exact iff_of_true rfl ⟨refused.1, refused.2, unmeasured⟩

theorem timeoutFault?_of_usable (usable : settings.fault? = none) {seconds : Float}
    (given : settings.queryTimeoutSeconds = some seconds) : timeoutFault? seconds = none := by
  unfold fault? at usable
  split_ifs at usable
  rwa [given] at usable

end

/-- Accepted settings have a timeout exactly if they name a number of seconds. It is a length of
time that differs from this number by half a nanosecond at most, and it is no time exactly if the
number is no more than that. -/
theorem timeout_of_accepted {settings : Settings} (accepted : settings.Accepted) :
    (settings.queryTimeout? = none ↔ settings.queryTimeoutSeconds = none) ∧
    ∀ seconds, settings.queryTimeoutSeconds = some seconds →
      seconds.isFinite = true ∧ 0 < seconds ∧
      ∃ duration, settings.queryTimeout? = some duration ∧
        |duration.inSeconds - Double.reading seconds| ≤ Duration.halfNanosecond ∧
        (0 < duration.inSeconds ↔ Duration.halfNanosecond < Double.reading seconds) := by
  have usable := accepted_iff.mp accepted
  unfold queryTimeout?
  cases given : settings.queryTimeoutSeconds with
  | none => simp
  | some seconds =>
    obtain ⟨finite, positive, measured⟩ :=
      timeoutFault?_eq_none_iff.mp (timeoutFault?_of_usable usable given)
    obtain ⟨duration, made⟩ := Option.isSome_iff_exists.mp measured
    refine ⟨by simp [made], fun other same => ?_⟩
    obtain rfl := Option.some.inj same
    exact ⟨finite, positive, duration, made, Duration.ofSeconds?_near positive finite made⟩

theorem timeout_of_accepted_text : ∃ settings seconds,
    ofText "query_timeout_secs = 0.25" = .ok settings ∧
    settings.queryTimeoutSeconds = some seconds ∧ settings.queryTimeout? = some ⟨250000000⟩ ∧
    |(⟨250000000⟩ : Duration).inSeconds - Double.reading seconds| ≤ Duration.halfNanosecond := by
  have known : (ofText "query_timeout_secs = 0.25").toOption.map queryTimeout? =
      some (some ⟨250000000⟩) := by
    decide +kernel
  cases reads : ofText "query_timeout_secs = 0.25" with
  | error error =>
    rw [reads] at known
    cases known
  | ok settings =>
    rw [reads] at known
    have length : settings.queryTimeout? = some ⟨250000000⟩ := Option.some.inj known
    obtain ⟨unset, near⟩ := timeout_of_accepted (.read reads)
    cases given : settings.queryTimeoutSeconds with
    | none =>
      rw [unset.mpr given] at length
      cases length
    | some seconds =>
      obtain ⟨-, -, duration, made, close, -⟩ := near seconds given
      obtain rfl := Option.some.inj (made.symm.trans length)
      exact ⟨settings, seconds, rfl, given, length, close⟩

/-- Settings with a timeout of a tenth of a nanosecond are accepted, and leave a query no time. -/
theorem accepted_timeout_vanishes :
    let settings : Settings := { queryTimeoutSeconds := some 1e-10 }
    settings.fault? = none ∧ settings.queryTimeout? = some ⟨0⟩ := by
  intro settings
  exact ⟨by rfl, by decide +kernel⟩

end Settings

end Holdout
