/-
This file says what the environment makes of settings. A field becomes what its variable says, if
the variable is set, and all other fields stay as they are; this is refused if a variable that holds
a number cannot be read, and the first of these is named. Only the outcome has to be usable:
settings that were not may be repaired, and settings that were may be spoiled.
-/

import Holdout.Proofs.Settings.Timeout
import Mathlib.Data.List.TakeWhile

namespace Holdout

namespace Text

/-! ### White space around a text -/

/-- A text that neither begins nor ends with white space. -/
structure Tight (body : List Char) : Prop where
  first : ∀ character ∈ body.head?, isBlank character = false
  last : ∀ character ∈ body.getLast?, isBlank character = false

/-- What is left of a text when the white space before and after it is cut off. -/
def Trimmed (text body : List Char) : Prop :=
  ∃ before after, text = before ++ body ++ after ∧
    (∀ character ∈ before, isBlank character = true) ∧
    (∀ character ∈ after, isBlank character = true) ∧ Tight body

theorem trimStart_append {before body : List Char}
    (blank : ∀ character ∈ before, isBlank character = true)
    (first : ∀ character ∈ body.head?, isBlank character = false) :
    trimStart (before ++ body) = body := by
  rw [trimStart, List.dropWhile_append_of_pos blank]
  cases body with
  | nil => rfl
  | cons character rest => simp [first character rfl]

theorem head?_trimStart (text : List Char) :
    ∀ character ∈ (trimStart text).head?, isBlank character = false := by
  intro character member
  have stops := List.head?_dropWhile_not isBlank text
  rw [trimStart] at member
  rwa [Option.mem_def.mp member] at stops

theorem exists_append_trimStart (text : List Char) : ∃ before, text = before ++ trimStart text ∧
    ∀ character ∈ before, isBlank character = true :=
  ⟨text.takeWhile isBlank, List.takeWhile_append_dropWhile.symm, fun _ => List.mem_takeWhile_imp⟩

theorem trimmed_trim (text : List Char) : Trimmed text (trim text) := by
  obtain ⟨before, front, blankBefore⟩ := exists_append_trimStart text
  obtain ⟨after, back, blankAfter⟩ := exists_append_trimStart (trimStart text).reverse
  have middle : trimStart text = trim text ++ after.reverse := by
    rw [trim, ← List.reverse_append, ← back, List.reverse_reverse]
  refine ⟨before, after.reverse, ?_, blankBefore, ?_, ?_, ?_⟩
  · rw [List.append_assoc, ← middle]
    exact front
  · simpa only [List.mem_reverse] using blankAfter
  · intro character member
    refine head?_trimStart text character ?_
    rw [middle, List.head?_append, Option.mem_def.mp member, Option.some_or]
    rfl
  · intro character member
    rw [trim, List.getLast?_reverse] at member
    exact head?_trimStart _ character member

/-- There is one way to cut off the white space around a text. -/
theorem trimmed_iff {text body : List Char} : Trimmed text body ↔ body = trim text := by
  refine ⟨?_, fun same => same ▸ trimmed_trim text⟩
  rintro ⟨before, after, rfl, blankBefore, blankAfter, tight⟩
  by_cases empty : body = []
  · -- Nothing is left, so all of the text is before or after it.
    have blank : ∀ character ∈ before ++ after, isBlank character = true := fun character member =>
      (List.mem_append.mp member).elim (blankBefore character) (blankAfter character)
    have nothing : trimStart (before ++ after) = [] := List.dropWhile_eq_nil_iff.mpr blank
    rw [empty, List.append_nil, trim, nothing]
    rfl
  · have starts : ∀ character ∈ (body ++ after).head?, isBlank character = false := by
      rw [List.head?_append_of_ne_nil _ empty]
      exact tight.first
    have ends : ∀ character ∈ body.reverse.head?, isBlank character = false := by
      rw [List.head?_reverse]
      exact tight.last
    have blank : ∀ character ∈ after.reverse, isBlank character = true := by
      simpa only [List.mem_reverse] using blankAfter
    rw [trim, List.append_assoc, trimStart_append blankBefore starts, List.reverse_append,
      trimStart_append blank ends, List.reverse_reverse]

end Text

namespace Settings

/-! ### What a variable says -/

/-- What becomes of a field of settings: it stays as it is if its variable is not set, and otherwise
it is made of the value of the variable, read without the white space around it. -/
inductive Replaced {Value Field : Type} (read? : List Char → Option Value) (make : Value → Field)
    (environment : Environment) (name : String) (before : Field) : Field → Prop where
  | unset (missing : environment name = none) :
    Replaced read? make environment name before before
  | set {text : String} {body : List Char} {value : Value} (given : environment name = some text)
    (trimmed : Text.Trimmed text.toList body) (reads : read? body = some value) :
    Replaced read? make environment name before (make value)

/-- A variable that holds a number, and the texts that are numbers for it. -/
structure NumberVariable where
  name : String
  isNumber : List Char → Bool

/-- The variable of this name, for numbers that are read like this. -/
def NumberVariable.of {Value : Type} (name : String) (read? : List Char → Option Value) :
    NumberVariable :=
  ⟨name, fun body => (read? body).isSome⟩

/-- The variable is set, and its text is no number without the white space around it. -/
def NumberVariable.Unreadable (number : NumberVariable) (environment : Environment)
    (text : String) : Prop :=
  environment number.name = some text ∧
    ∀ body, Text.Trimmed text.toList body → number.isNumber body = false

/-- The first of some variables that cannot be read has this name and this text. -/
def FirstUnreadable (environment : Environment) (name text : String) : List NumberVariable → Prop
  | [] => False
  | number :: rest =>
    number.Unreadable environment text ∧ name = number.name ∨
      (∀ other, ¬ number.Unreadable environment other) ∧ FirstUnreadable environment name text rest

section

variable {Value Field : Type} {read? : List Char → Option Value} {make : Value → Field}
variable {environment : Environment} {name : String} {before after other : Field}

theorem Replaced.unique (replaced : Replaced read? make environment name before after)
    (again : Replaced read? make environment name before other) : after = other := by
  cases replaced with
  | unset missing =>
    cases again with
    | unset => rfl
    | set given => cases missing.symm.trans given
  | set given trimmed reads =>
    cases again with
    | unset missing => cases missing.symm.trans given
    | set givenAgain trimmedAgain readsAgain =>
      obtain rfl := Option.some.inj (given.symm.trans givenAgain)
      rw [Text.trimmed_iff.mp trimmed] at reads
      rw [Text.trimmed_iff.mp trimmedAgain] at readsAgain
      rw [Option.some.inj (reads.symm.trans readsAgain)]

/-- A variable that is replaced by was read. -/
theorem Replaced.readVariable (replaced : Replaced read? make environment name before after) :
    ∃ value?, readVariable read? environment name = .ok value? ∧
      after = (value?.map make).getD before := by
  cases replaced with
  | unset missing => exact ⟨none, by rw [Settings.readVariable, missing], rfl⟩
  | set given trimmed reads =>
    refine ⟨some _, ?_, rfl⟩
    rw [Text.trimmed_iff.mp trimmed] at reads
    simp only [Settings.readVariable, given, reads]

theorem Replaced.not_unreadable (replaced : Replaced read? make environment name before after)
    (text : String) : ¬ (NumberVariable.of name read?).Unreadable environment text := by
  rintro ⟨given, refused⟩
  cases replaced with
  | unset missing => cases missing.symm.trans given
  | set givenToo trimmed reads =>
    obtain rfl := Option.some.inj (given.symm.trans givenToo)
    have isNumber := refused _ trimmed
    simp [NumberVariable.of, reads] at isNumber

/-- Every variable can be replaced by or cannot be read. -/
theorem replaced_or_unreadable (read? : List Char → Option Value) (make : Value → Field)
    (environment : Environment) (name : String) (before : Field) :
    (∃ after, Replaced read? make environment name before after) ∨
      ∃ text, (NumberVariable.of name read?).Unreadable environment text := by
  cases given : environment name with
  | none => exact Or.inl ⟨_, .unset given⟩
  | some text =>
    cases reads : read? (Text.trim text.toList) with
    | some value => exact Or.inl ⟨_, .set given (Text.trimmed_trim _) reads⟩
    | none =>
      refine Or.inr ⟨text, given, fun body trimmed => ?_⟩
      rw [Text.trimmed_iff.mp trimmed]
      simp [NumberVariable.of, reads]

/-- A variable that cannot be read refuses whatever comes after it. -/
theorem bind_of_unreadable {text : String} {Result : Type}
    {next : Option Value → Except SettingsError Result}
    (unreadable : (NumberVariable.of name read?).Unreadable environment text) :
    (readVariable read? environment name >>= next) =
      .error (.invalid (.unreadable name text)) := by
  obtain ⟨given, refused⟩ := unreadable
  have reads : read? (Text.trim text.toList) = none :=
    Option.isNone_iff_eq_none.mp
      (by simpa [NumberVariable.of] using refused _ (Text.trimmed_trim _))
  have given : environment name = some text := given
  simp only [readVariable, given, reads]
  rfl

/-- A variable that is not unreadable hands a value on, or none. -/
theorem bind_of_readable
    (readable : ∀ text, ¬ (NumberVariable.of name read?).Unreadable environment text) :
    ∃ value?, ∀ {Result : Type} (next : Option Value → Except SettingsError Result),
      (readVariable read? environment name >>= next) = next value? := by
  rcases replaced_or_unreadable read? (fun _ => ()) environment name () with
    ⟨_, replaced⟩ | ⟨text, unreadable⟩
  · obtain ⟨value?, reads, -⟩ := replaced.readVariable
    exact ⟨value?, fun next => by rw [reads]; rfl⟩
  · exact absurd unreadable (readable text)

theorem exists_unreadable_of_first {name text : String} {numbers : List NumberVariable}
    (first : FirstUnreadable environment name text numbers) :
    ∃ number ∈ numbers, number.Unreadable environment text := by
  induction numbers with
  | nil => exact first.elim
  | cons number rest inductionHypothesis =>
    rcases first with ⟨unreadable, -⟩ | ⟨-, later⟩
    · exact ⟨number, List.mem_cons_self, unreadable⟩
    · obtain ⟨other, member, unreadable⟩ := inductionHypothesis later
      exact ⟨other, List.mem_cons_of_mem _ member, unreadable⟩

end

/-! ### What the variables make of settings -/

/-- The variables that hold numbers, in the order in which they are read. -/
def numberVariables : List NumberVariable :=
  [.of concurrencyVariable (Decimal.natural? (twoTo 64)),
    .of configsVariable (Decimal.natural? (twoTo 64)), .of timeoutVariable Decimal.float?]

/-- What a text without white space around it says of ordered output. -/
def affirms? (body : List Char) : Option Bool :=
  some (decide (String.ofList body ∈ ["1", "true", "yes"]))

/-- Four fields become what their variables say, and all others stay as they are. -/
structure Overrides (environment : Environment) (settings after : Settings) : Prop where
  concurrency : Replaced (Decimal.natural? (twoTo 64)) some environment concurrencyVariable
    settings.maxConcurrency after.maxConcurrency
  configs : Replaced (Decimal.natural? (twoTo 64)) id environment configsVariable
    settings.maxConcurrentConfigs after.maxConcurrentConfigs
  timeout : Replaced Decimal.float? some environment timeoutVariable
    settings.queryTimeoutSeconds after.queryTimeoutSeconds
  ordered : Replaced affirms? id environment orderedVariable
    settings.orderedOutput after.orderedOutput
  channelCapacity : after.channelCapacity = settings.channelCapacity
  metricThreads : after.metricThreads = settings.metricThreads

section

variable {environment : Environment} {settings after other : Settings}

theorem Overrides.unique (overrides : Overrides environment settings after)
    (again : Overrides environment settings other) : after = other := by
  have concurrency := overrides.concurrency.unique again.concurrency
  have configs := overrides.configs.unique again.configs
  have timeout := overrides.timeout.unique again.timeout
  have ordered := overrides.ordered.unique again.ordered
  have capacity := overrides.channelCapacity.trans again.channelCapacity.symm
  have threads := overrides.metricThreads.trans again.metricThreads.symm
  cases after
  cases other
  simp_all

theorem ordered_eq_of_replaced {before value : Bool}
    (replaced : Replaced affirms? id environment orderedVariable before value) :
    ((environment orderedVariable).map isYes).getD before = value := by
  cases replaced with
  | unset missing => rw [missing]; rfl
  | set given trimmed reads =>
    rw [given, Option.map_some, Option.getD_some, isYes, ← Text.trimmed_iff.mp trimmed,
      ← Option.some.inj reads, List.contains_eq_mem, id]

/-- Where all numbers can be read, what the variables make of settings is checked. -/
theorem Overrides.overridden (overrides : Overrides environment settings after) :
    settings.overridden environment = after.validated := by
  obtain ⟨concurrency, readsConcurrency, setConcurrency⟩ := overrides.concurrency.readVariable
  obtain ⟨configs, readsConfigs, setConfigs⟩ := overrides.configs.readVariable
  obtain ⟨timeout, readsTimeout, setTimeout⟩ := overrides.timeout.readVariable
  have ordered := ordered_eq_of_replaced overrides.ordered
  have capacity := overrides.channelCapacity
  have threads := overrides.metricThreads
  rw [Settings.overridden, readsConcurrency, readsConfigs, readsTimeout]
  show validated _ = _
  congr 1
  obtain ⟨_, _, _, _, _, _⟩ := after
  subst setConcurrency setConfigs setTimeout ordered capacity threads
  congr 1
  · cases concurrency <;> rfl
  · rw [Option.map_id]; rfl
  · cases timeout <;> rfl

/-- The first number that cannot be read refuses all of the variables. -/
theorem overridden_of_firstUnreadable {name text : String}
    (first : FirstUnreadable environment name text numberVariables) :
    settings.overridden environment = .error (.invalid (.unreadable name text)) := by
  rcases first with ⟨unreadable, rfl⟩ | ⟨readable, first⟩
  · exact bind_of_unreadable unreadable
  obtain ⟨concurrency, hands⟩ := bind_of_readable readable
  refine (hands _).trans ?_
  rcases first with ⟨unreadable, rfl⟩ | ⟨readable, first⟩
  · exact bind_of_unreadable unreadable
  obtain ⟨configs, hands⟩ := bind_of_readable readable
  refine (hands _).trans ?_
  rcases first with ⟨unreadable, rfl⟩ | ⟨-, nothing⟩
  · exact bind_of_unreadable unreadable
  · exact nothing.elim

theorem exists_replaced_ordered (environment : Environment) (before : Bool) :
    ∃ after, Replaced affirms? id environment orderedVariable before after := by
  cases given : environment orderedVariable with
  | none => exact ⟨before, .unset given⟩
  | some text => exact ⟨_, .set given (Text.trimmed_trim _) rfl⟩

/-- The variables make something of settings, or there is a first one that cannot be read. -/
theorem overrides_or_firstUnreadable (environment : Environment) (settings : Settings) :
    (∃ after, Overrides environment settings after) ∨
      ∃ name text, FirstUnreadable environment name text numberVariables := by
  rcases replaced_or_unreadable (Decimal.natural? (twoTo 64)) some environment concurrencyVariable
    settings.maxConcurrency with ⟨_, concurrency⟩ | ⟨text, unreadable⟩
  · rcases replaced_or_unreadable (Decimal.natural? (twoTo 64)) id environment configsVariable
      settings.maxConcurrentConfigs with ⟨_, configs⟩ | ⟨text, unreadable⟩
    · rcases replaced_or_unreadable Decimal.float? some environment timeoutVariable
        settings.queryTimeoutSeconds with ⟨_, timeout⟩ | ⟨text, unreadable⟩
      · obtain ⟨_, ordered⟩ := exists_replaced_ordered environment settings.orderedOutput
        exact Or.inl ⟨⟨_, _, _, _, settings.channelCapacity, settings.metricThreads⟩,
          concurrency, configs, timeout, ordered, rfl, rfl⟩
      · exact Or.inr ⟨_, text, Or.inr ⟨concurrency.not_unreadable,
          Or.inr ⟨configs.not_unreadable, Or.inl ⟨unreadable, rfl⟩⟩⟩⟩
    · exact Or.inr ⟨_, text, Or.inr ⟨concurrency.not_unreadable, Or.inl ⟨unreadable, rfl⟩⟩⟩
  · exact Or.inr ⟨_, text, Or.inl ⟨unreadable, rfl⟩⟩

/-- The variables make something of settings exactly if each of their numbers can be read. -/
theorem exists_overrides_iff : (∃ after, Overrides environment settings after) ↔
    ∀ number ∈ numberVariables, ∀ text, ¬ number.Unreadable environment text := by
  constructor
  · rintro ⟨after, overrides⟩
    simp only [numberVariables, List.forall_mem_cons]
    exact ⟨overrides.concurrency.not_unreadable, overrides.configs.not_unreadable,
      overrides.timeout.not_unreadable, fun _ member => absurd member List.not_mem_nil⟩
  · intro readable
    refine (overrides_or_firstUnreadable environment settings).resolve_right ?_
    rintro ⟨name, text, first⟩
    obtain ⟨number, member, unreadable⟩ := exists_unreadable_of_first first
    exact readable number member text unreadable

end

/-- What comes of overriding settings by the variables of an environment. -/
structure OverriddenExactly (environment : Environment) (settings : Settings) : Prop where
  /-- The variables make something of settings exactly if each of their numbers can be read. -/
  readable : (∃ after, Overrides environment settings after) ↔
    ∀ number ∈ numberVariables, ∀ text, ¬ number.Unreadable environment text
  /-- There is only one thing that they can make of them. -/
  unique : ∀ after other, Overrides environment settings after →
    Overrides environment settings other → after = other
  /-- It is the result exactly if it can be used. -/
  accepts : ∀ after, settings.overridden environment = .ok after ↔
    Overrides environment settings after ∧ after.fault? = none
  /-- The error is that of the first number that cannot be read, or else what stands against the
  settings that the variables make. -/
  refuses : ∀ error, settings.overridden environment = .error error ↔
    (∃ name text, FirstUnreadable environment name text numberVariables ∧
      error = .invalid (.unreadable name text)) ∨
    ∃ after, Overrides environment settings after ∧ after.validated = .error error

/-- Either all variables that are set replace their fields, and what comes of it can be used, or
nothing does, whatever the settings were. -/
theorem overridden_all_or_nothing (environment : Environment) (settings : Settings) :
    OverriddenExactly environment settings where
  readable := exists_overrides_iff
  unique := fun _ _ overrides again => overrides.unique again
  accepts := by
    intro after
    constructor
    · intro accepts
      rcases overrides_or_firstUnreadable environment settings with
        ⟨made, overrides⟩ | ⟨name, text, first⟩
      · rw [overrides.overridden] at accepts
        obtain ⟨usable, rfl⟩ := validated_eq_ok_iff.mp accepts
        exact ⟨overrides, usable⟩
      · rw [overridden_of_firstUnreadable first] at accepts
        cases accepts
    · rintro ⟨overrides, usable⟩
      rw [overrides.overridden]
      exact validated_eq_ok_iff.mpr ⟨usable, rfl⟩
  refuses := by
    intro error
    constructor
    · intro refuses
      rcases overrides_or_firstUnreadable environment settings with
        ⟨made, overrides⟩ | ⟨name, text, first⟩
      · exact Or.inr ⟨made, overrides, overrides.overridden ▸ refuses⟩
      · rw [overridden_of_firstUnreadable first] at refuses
        exact Or.inl ⟨name, text, first, (Except.error.inj refuses).symm⟩
    · rintro (⟨name, text, first, rfl⟩ | ⟨made, overrides, refuses⟩)
      · exact overridden_of_firstUnreadable first
      · rw [overrides.overridden, refuses]

/-- Settings that cannot be used are repaired. -/
example : ({ maxConcurrency := some 0, channelCapacity := 8 } : Settings).overridden
      (fun name => if name = concurrencyVariable then some " +4\n" else none) =
    .ok { maxConcurrency := some 4, channelCapacity := 8 } := by rfl

/-- Of two texts that are no numbers the first one is named, also if the settings cannot be used. -/
example : ({ channelCapacity := 0 } : Settings).overridden
      (fun name => if name = concurrencyVariable then none else some "soon") =
    .error (.invalid (.unreadable configsVariable "soon")) := by rfl

end Settings

end Holdout
