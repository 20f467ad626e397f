/-
This file follows every failure of a configuration back to the moment at which it happened, and
compares the stage that it is filed under with what the configuration was at. They agree in all
cases but one. A scorer that cannot be built ends the task in its training stage, but such a crash
is only seen when all tasks are joined, and there it is filed under scoring.
-/

import Holdout.Proofs.Cancellation

namespace Holdout

/-! ### Whose crash it is -/

section

variable {Error Element Value Other : Type}

theorem error_of_bind {first : Except Error Value} {next : Value → Except Error Other}
    {error : Error} (fails : (first >>= next) = .error error) :
    first = .error error ∨ ∃ value, first = .ok value ∧ next value = .error error := by
  cases first with
  | error other =>
    cases fails
    exact Or.inl rfl
  | ok value => exact Or.inr ⟨value, rfl, fails⟩

theorem exists_of_mapM_error {run : Element → Except Error Value} {elements : List Element}
    {error : Error} (fails : elements.mapM run = .error error) :
    ∃ element ∈ elements, run element = .error error := by
  induction elements with
  | nil => cases fails
  | cons element rest inductionHypothesis =>
    rw [List.mapM_cons] at fails
    obtain here | ⟨value, -, fails⟩ := error_of_bind fails
    · exact ⟨element, List.mem_cons_self, here⟩
    obtain later | ⟨values, -, fails⟩ := error_of_bind fails
    · obtain ⟨other, member, there⟩ := inductionHypothesis later
      exact ⟨other, List.mem_cons_of_mem _ member, there⟩
    · cases fails

end

/-- Some list metric crashes like this on some list. -/
def Metric.ListCrash (metrics : List Metric) (crash : Crash) : Prop :=
  ∃ metric ∈ listMetrics metrics, ∃ recommended reference,
    metric.measure recommended reference = .error crash

/-- Some global metric crashes like this on some lists. -/
def Metric.GlobalCrash (metrics : List Metric) (crash : Crash) : Prop :=
  ∃ metric ∈ globalMetrics metrics, ∃ recommended references,
    metric.measure recommended references = .error crash

theorem Analysis.listCrash_of_measureList {metrics : List Metric} {query : QueryId}
    {recommended reference : ItemList} {crash : Crash}
    (crashes : measureList metrics query recommended reference = .error crash) :
    Metric.ListCrash metrics crash := by
  obtain maps | ⟨values, -, impossible⟩ := error_of_bind crashes
  · obtain ⟨metric, member, fails⟩ := exists_of_mapM_error maps
    obtain measures | ⟨value, -, impossible⟩ := error_of_bind fails
    · exact ⟨metric, member, recommended, reference, measures⟩
    · cases impossible
  · cases impossible

theorem Gathered.globalCrash_of_analysis {metrics : List Metric} {gathered : Gathered}
    {crash : Crash} (crashes : gathered.analysis metrics = .error crash) :
    Metric.GlobalCrash metrics crash := by
  obtain maps | ⟨values, -, impossible⟩ := error_of_bind crashes
  · obtain ⟨metric, member, fails⟩ := exists_of_mapM_error maps
    obtain measures | ⟨value, -, impossible⟩ := error_of_bind fails
    · exact ⟨metric, member, _, _, measures⟩
    · cases impossible
  · cases impossible

namespace Measuring

variable {measuring : Measuring} {crash : Crash}

theorem listCrash_of_gather {outcome : Outcome}
    (crashes : measuring.gather outcome = .error crash) :
    Metric.ListCrash measuring.metrics crash := by
  unfold gather at crashes
  split at crashes
  · cases crashes
  · obtain measures | ⟨measured, -, impossible⟩ := error_of_bind crashes
    · exact Analysis.listCrash_of_measureList measures
    · cases impossible

theorem listCrash_of_gatherAll {outcomes : List Outcome}
    (crashes : measuring.gatherAll outcomes = .error crash) :
    Metric.ListCrash measuring.metrics crash := by
  induction outcomes with
  | nil => cases crashes
  | cons outcome rest inductionHypothesis =>
    obtain here | ⟨first, -, crashes⟩ := error_of_bind crashes
    · exact listCrash_of_gather here
    obtain later | ⟨others, -, impossible⟩ := error_of_bind crashes
    · exact inductionHypothesis later
    · cases impossible

theorem listCrash_of_drain {chunks : List (List Outcome)}
    (crashes : measuring.drain chunks = .error crash) :
    Metric.ListCrash measuring.metrics crash := by
  rw [drain_eq] at crashes
  exact listCrash_of_gatherAll crashes

end Measuring

/-! ### Why a configuration fails next -/

/-- The scorer of a configuration is to be trained on this split. -/
structure Configuration.Trains (configuration : Configuration) (split : Split) (scorer : Scorer) :
    Prop where
  loaded : configuration.source.load.result = .ok (.ok split)
  built : configuration.algorithm.build = .ok scorer
  needed : scorer.requiresTraining = true

namespace Task

/-- What a configuration is at. A task that crashed did so when it should have built its scorer. -/
def stage? (task : Task) : Option Stage :=
  match task.phase with
  | .pending | .loading => some .loading
  | .training _ _ _ | .fitting _ _ | .crashed _ => some .training
  | .scoring _ _ _ _ (.crashed _) | .scored _ => some .measuring
  | .scoring _ _ _ _ _ => some .scoring
  | .ended => none

/-- Why a configuration fails with its next move, and how its failure is filed. -/
inductive Fails (conditions : Conditions) (calls : Calls Slot) (task : Task) :
    ConfigFailure → Prop where
  | notStarted (phase : task.phase = .pending) (signal : calls.cancelled = true) :
      Fails conditions calls task ⟨.loading, .cancelled⟩
  | loadingCrashed (crash : Crash) (phase : task.phase = .loading)
      (result : task.configuration.source.load.result = .error crash) :
      Fails conditions calls task ⟨.loading, .crashed crash⟩
  | notLoaded (error : DataError) (phase : task.phase = .loading)
      (result : task.configuration.source.load.result = .ok (.error error)) :
      Fails conditions calls task ⟨.loading, .data error⟩
  /-- This is the one that is filed under another stage. -/
  | notBuilt (split : Split) (crash : Crash) (phase : task.phase = .crashed crash)
      (loaded : task.configuration.source.load.result = .ok (.ok split))
      (result : task.configuration.algorithm.build = .error crash) :
      Fails conditions calls task ⟨.scoring, .crashed crash⟩
  | noSlot (split : Split) (scorer : Scorer) (asking : Bool)
      (phase : task.phase = .training split scorer asking)
      (trains : task.configuration.Trains split scorer) (signal : calls.cancelled = true) :
      Fails conditions calls task ⟨.training, .cancelled⟩
  | trainingCrashed (split : Split) (scorer : Scorer) (crash : Crash)
      (phase : task.phase = .fitting split scorer)
      (trains : task.configuration.Trains split scorer)
      (result : (scorer.train split.train).result = .error crash) :
      Fails conditions calls task ⟨.training, .crashed crash⟩
  | notTrained (split : Split) (scorer : Scorer) (error : ScorerError)
      (phase : task.phase = .fitting split scorer)
      (trains : task.configuration.Trains split scorer)
      (result : (scorer.train split.train).result = .ok (.error error)) :
      Fails conditions calls task ⟨.training, .scorer error⟩
  | cutOff (split : Split) (score : Scoring) (progress : Batch.Progress) (queue : List Outcome)
      (gathered : Gathered)
      (phase : task.phase = .scoring split score progress queue (.finished gathered))
      (ready : task.configuration.Ready split score) (signal : calls.cancelled = true) :
      Fails conditions calls task ⟨.scoring, .cancelled⟩
  | listMetricCrashed (split : Split) (score : Scoring) (progress : Batch.Progress)
      (queue : List Outcome) (crash : Crash)
      (phase : task.phase = .scoring split score progress queue (.crashed crash))
      (ready : task.configuration.Ready split score)
      (metric : Metric.ListCrash conditions.metrics crash) :
      Fails conditions calls task ⟨.measuring, .crashed crash⟩
  | globalMetricCrashed (gathered : Gathered) (crash : Crash)
      (phase : task.phase = .scored gathered)
      (ready : ∃ split score, task.configuration.Ready split score)
      (metric : Metric.GlobalCrash conditions.metrics crash) :
      Fails conditions calls task ⟨.measuring, .crashed crash⟩

variable {conditions : Conditions} {position : Nat} {calls later : Calls Slot}
  {task after : Task} {move : TaskMove}

/-- A failure is filed under what the configuration was at, unless its scorer was not built. -/
theorem stage_of_fails {failure : ConfigFailure} (fails : task.Fails conditions calls failure) :
    task.stage? = some failure.stage ∨ ∃ crash, task.phase = .crashed crash ∧
      task.configuration.algorithm.build = .error crash ∧ failure = ⟨.scoring, .crashed crash⟩ := by
  cases fails with
  | notBuilt split crash phase loaded result => exact Or.inr ⟨crash, phase, result, rfl⟩
  | notStarted phase | loadingCrashed _ phase | notLoaded _ phase | noSlot _ _ _ phase
  | trainingCrashed _ _ _ phase | notTrained _ _ _ phase | cutOff _ _ _ _ _ phase
  | listMetricCrashed _ _ _ _ _ phase | globalMetricCrashed _ _ phase =>
    exact Or.inl (by rw [stage?, phase])

/-- What was loaded, built and trained for a configuration that is in a phase. -/
def Behind (configuration : Configuration) : Phase → Prop
  | .training split scorer _ | .fitting split scorer => configuration.Trains split scorer
  | .scoring split score _ _ _ => configuration.Ready split score
  | .scored _ => ∃ split score, configuration.Ready split score
  | .crashed crash => ∃ split, configuration.source.load.result = .ok (.ok split) ∧
      configuration.algorithm.build = .error crash
  | .pending | .loading | .ended => True

theorem behind_of_travels {phase : Phase} (travels : task.Travels conditions)
    (now : task.phase = phase) : Behind task.configuration phase := by
  obtain ⟨configuration, before, report, rows, handed, announced⟩ := task
  change Travelled conditions configuration before report rows at travels
  obtain rfl : before = phase := now
  cases travels with
  | training _ _ _ loaded built needed | fitting _ _ loaded built needed =>
    exact ⟨loaded, built, needed⟩
  | scoring _ _ _ _ _ _ _ ready => exact ready
  | scored split score _ _ _ measured => exact ⟨split, score, measured.ready⟩
  | crashed split _ loaded result => exact ⟨split, loaded, result⟩
  | pending | loading | ended => trivial

theorem isFailed_beginTraining (task : Task) (split : Split) :
    (task.beginTraining split).report.state.isFailed = false := by
  unfold beginTraining
  split
  · rfl
  split <;> rfl

/-- A move with which a configuration fails has one of those reasons, and it is the last one. -/
theorem fails_of_moved (travels : task.Travels conditions)
    (goesOn : task.report.state.isFailed = false)
    (moved : Moved conditions position calls task move later after)
    (failed : after.report.state.isFailed = true) :
    ∃ failure, task.Fails conditions calls failure ∧ after.report.state = .ofFailure failure ∧
      after.phase = .ended := by
  cases moved with
  | refuses phase signal => exact ⟨_, .notStarted phase signal, rfl, rfl⟩
  | loadingCrashes crash phase result => exact ⟨_, .loadingCrashed crash phase result, rfl, rfl⟩
  | loadingFails error phase result => exact ⟨_, .notLoaded error phase result, rfl, rfl⟩
  | loads split phase result =>
    -- The scorer may crash here, but that is not reported before all other tasks are through.
    rw [isFailed_beginTraining] at failed
    cases failed
  | trainingRefused split scorer asking later phase asks =>
    cases Calls.asked_of_ask asks with
    | refused budget signal =>
      have trains : task.configuration.Trains split scorer := behind_of_travels travels phase
      exact ⟨_, .noSlot split scorer asking phase trains signal, rfl, rfl⟩
  | trainingCrashes split scorer crash phase returned result =>
    have trains : task.configuration.Trains split scorer := behind_of_travels travels phase
    exact ⟨_, .trainingCrashed split scorer crash phase trains result, rfl, rfl⟩
  | trainingFails split scorer error phase returned result =>
    have trains : task.configuration.Trains split scorer := behind_of_travels travels phase
    exact ⟨_, .notTrained split scorer error phase trains result, rfl, rfl⟩
  | concludesCrash split score progress queue crash phase done =>
    obtain ⟨sent, ready, accounted, taken⟩ := scoring_of_travels travels phase
    cases taken with
    | crashed chunks _ _ arrived crashes =>
      exact ⟨_, .listMetricCrashed split score progress queue crash phase ready
        (Measuring.listCrash_of_drain crashes), rfl, rfl⟩
  | concludesCancelled split score progress queue gathered phase done signal =>
    have ready : task.configuration.Ready split score := behind_of_travels travels phase
    exact ⟨_, .cutOff split score progress queue gathered phase ready signal, rfl, rfl⟩
  | aggregatingCrashes gathered crash takes phase measures =>
    have ready : ∃ split score, task.configuration.Ready split score :=
      behind_of_travels travels phase
    exact ⟨_, .globalMetricCrashed gathered crash phase ready
      (Gathered.globalCrash_of_analysis measures), rfl, rfl⟩
  | fits | concludes | aggregates => cases failed
  | begins | trains | waits | batches | measures | measuringCrashes | flushes | flushingCrashes =>
    rw [goesOn] at failed
    cases failed

end Task

namespace Run

variable {conditions : Conditions} {configurations : List Configuration} {begun run after : Run}
  {move : RunMove} {moves : List RunMove} {position : Nat} {task later : Task}

/-! ### The moment of a failure -/

/-- Nothing changes the report of a configuration that is through. -/
theorem report_stays_step (present : run.tasks[position]? = some task)
    (ended : task.phase = .ended) (moves : run.step conditions move = some after) :
    ∃ later, after.tasks[position]? = some later ∧ later.phase = .ended ∧
      later.report = task.report := by
  cases stepped_of_step moves with
  | task other move old new calls there admitted moved =>
    obtain ⟨-, rfl, -⟩ | ⟨-, now⟩ := getElem?_set_of_getElem? new there present
    · exact (Task.not_moved_of_ended ended moved).elim
    · exact ⟨task, now, ended, rfl⟩
  | hand other old row there next =>
    obtain ⟨-, rfl, now⟩ | ⟨-, now⟩ :=
      getElem?_set_of_getElem? { old with handed := old.handed + 1 } there present
    · exact ⟨_, now, ended, rfl⟩
    · exact ⟨task, now, ended, rfl⟩
  | settle other old crash there phase =>
    obtain ⟨-, rfl, -⟩ | ⟨-, now⟩ := getElem?_set_of_getElem? (old.failCrashed crash) there present
    · rw [phase] at ended
      cases ended
    · exact ⟨task, now, ended, rfl⟩
  | finish | cancel => exact ⟨task, present, ended, rfl⟩

theorem report_stays_follow (present : run.tasks[position]? = some task)
    (ended : task.phase = .ended) (follows : run.follow conditions moves = some after) :
    ∃ later, after.tasks[position]? = some later ∧ later.report = task.report := by
  obtain ⟨later, there, -, same⟩ := Steps.holds_follow
    (fun now : Run => ∃ later, now.tasks[position]? = some later ∧ later.phase = .ended ∧
      later.report = task.report)
    (fun _ ⟨later, there, ended, same⟩ moves => by
      obtain ⟨last, now, stillEnded, stays⟩ := report_stays_step there ended moves
      exact ⟨last, now, stillEnded, stays.trans same⟩)
    ⟨task, present, ended, rfl⟩ follows
  exact ⟨later, there, same⟩

/-- A move of a run with which a configuration fails. -/
theorem fails_of_step (kept : Kept conditions configurations run)
    (present : run.tasks[position]? = some task) (goesOn : task.report.state.isFailed = false)
    (moves : run.step conditions move = some after) (there : after.tasks[position]? = some later)
    (failed : later.report.state.isFailed = true) :
    ∃ failure, task.Fails conditions run.calls failure ∧
      later.report.state = .ofFailure failure ∧ later.phase = .ended := by
  have unchanged (same : run.tasks[position]? = some later) : False := by
    obtain rfl : task = later := Option.some.inj (present.symm.trans same)
    rw [goesOn] at failed
    cases failed
  have travels := kept.travels position task present
  cases stepped_of_step moves with
  | task other move old new calls here admitted moved =>
    obtain ⟨rfl, rfl⟩ | ⟨-, same⟩ := getElem?_set_cases here there
    · obtain rfl : task = old := Option.some.inj (present.symm.trans here)
      exact Task.fails_of_moved travels goesOn moved failed
    · exact (unchanged same).elim
  | hand other old row here next =>
    obtain ⟨rfl, rfl⟩ | ⟨-, same⟩ := getElem?_set_cases here there
    · obtain rfl : task = old := Option.some.inj (present.symm.trans here)
      rw [goesOn] at failed
      cases failed
    · exact (unchanged same).elim
  | settle other old crash here phase =>
    obtain ⟨rfl, rfl⟩ | ⟨-, same⟩ := getElem?_set_cases here there
    · obtain rfl : task = old := Option.some.inj (present.symm.trans here)
      obtain ⟨split, loaded, result⟩ := Task.behind_of_travels travels phase
      exact ⟨_, .notBuilt split crash phase loaded result, rfl, rfl⟩
    · exact (unchanged same).elim
  | finish | cancel => exact (unchanged there).elim

/-- The configuration at a position fails in a run: `before` is the moment before that, at which it
stands as `task` does. -/
structure FailsIn (conditions : Conditions) (begun : Run) (moves : List RunMove) (run : Run)
    (position : Nat) (before : Run) (task : Task) (failure : ConfigFailure) : Prop where
  moment : ∃ early move late after failed, moves = early ++ move :: late ∧
    begun.follow conditions early = some before ∧ before.step conditions move = some after ∧
    after.follow conditions late = some run ∧ after.tasks[position]? = some failed ∧
    failed.report.state = .ofFailure failure
  present : before.tasks[position]? = some task
  goesOn : task.report.state.isFailed = false
  fails : task.Fails conditions before.calls failure

theorem FailsIn.earlier {middle before : Run} {failure : ConfigFailure}
    (failsIn : FailsIn conditions middle moves run position before task failure)
    (first : begun.step conditions move = some middle) :
    FailsIn conditions begun (move :: moves) run position before task failure := by
  obtain ⟨early, last, late, after, failed, rfl, follows, rest⟩ := failsIn.moment
  refine ⟨⟨move :: early, last, late, after, failed, rfl, ?_, rest⟩, failsIn.present,
    failsIn.goesOn, failsIn.fails⟩
  exact Option.bind_eq_some_iff.mpr ⟨middle, first, follows⟩

/-- No configuration leaves its position. -/
theorem exists_task_of_kept (kept : Kept conditions configurations run)
    (keptAfter : Kept conditions configurations after)
    (present : run.tasks[position]? = some task) :
    ∃ later, after.tasks[position]? = some later ∧ later.configuration = task.configuration := by
  have there : (after.tasks.map Task.configuration)[position]? = some task.configuration := by
    rw [keptAfter.same, ← kept.same, List.getElem?_map, present, Option.map_some]
  rw [List.getElem?_map] at there
  exact Option.map_eq_some_iff.mp there

/-- A configuration that has failed did so at some moment. -/
theorem exists_failsIn (kept : Kept conditions configurations begun)
    (present : begun.tasks[position]? = some task) (goesOn : task.report.state.isFailed = false)
    (follows : begun.follow conditions moves = some run)
    (there : run.tasks[position]? = some later) (failed : later.report.state.isFailed = true) :
    ∃ before failing failure, FailsIn conditions begun moves run position before failing failure ∧
      later.report.state = .ofFailure failure := by
  induction moves generalizing begun task with
  | nil =>
    cases follows
    obtain rfl : task = later := Option.some.inj (present.symm.trans there)
    rw [goesOn] at failed
    cases failed
  | cons move rest inductionHypothesis =>
    obtain ⟨middle, first, follows⟩ := Option.bind_eq_some_iff.mp follows
    have keptMiddle := kept_step kept first
    obtain ⟨next, now, -⟩ := exists_task_of_kept kept keptMiddle present
    -- The first move after which it has failed is the one; no later move changes its report.
    cases nextFailed : next.report.state.isFailed with
    | false =>
      obtain ⟨before, failing, failure, failsIn, state⟩ :=
        inductionHypothesis keptMiddle now nextFailed follows
      exact ⟨before, failing, failure, failsIn.earlier first, state⟩
    | true =>
      obtain ⟨failure, fails, state, ended⟩ :=
        fails_of_step kept present goesOn first now nextFailed
      obtain ⟨last, here, same⟩ := report_stays_follow now ended follows
      obtain rfl : last = later := Option.some.inj (here.symm.trans there)
      refine ⟨begun, task, failure, ⟨⟨[], move, rest, middle, next, rfl, rfl, first, follows, now,
        state⟩, present, goesOn, fails⟩, ?_⟩
      rw [same, state]

end Run

/-! ### Where the failures of a run are filed -/

namespace Evaluator

/-- Whatever happens in a run of a valid plan, a configuration that ends failed did so at a moment
of the run for a reason that goes with the stage it was at, and that is the stage in its state and
in its row. Only if its scorer could not be built, it was to be trained and is filed under
scoring. -/
theorem failure_names_stage (evaluator : Evaluator) (plan : Plan) (begun run : Run)
    (moves : List RunMove) (begins : evaluator.begin plan = .ok begun)
    (follows : begun.follow (evaluator.conditions plan) moves = some run) (position : Nat)
    (task : Task) (present : run.tasks[position]? = some task) (stage : Stage) (error : String)
    (state : task.report.state = .failed stage error) :
    (∃ before failing failure,
      Run.FailsIn (evaluator.conditions plan) begun moves run position before failing failure ∧
      failing.configuration = task.configuration ∧
      stage = failure.stage ∧ error = failure.fault.message ∧
      (failing.stage? = some stage ∨ ∃ crash, failing.phase = .crashed crash ∧
        task.configuration.algorithm.build = .error crash ∧ failing.stage? = some .training ∧
        stage = .scoring ∧ error = crash.message)) ∧
    ∃ rows, task.rows =
      rows ++ [Row.ofFailure task.configuration.key none s!"{stage.label}: {error}"] := by
  have keptBegun := kept_of_begin begins
  have kept := Run.kept_follow keptBegun follows
  have travels := kept.travels position task present
  obtain ⟨rows, failedRows⟩ :=
    failedRows_of_ended (Task.ended_of_terminal travels (by rw [state]; rfl)) state
  refine ⟨?_, rows, failedRows.last⟩
  obtain ⟨first, atFirst, -⟩ := Run.exists_task_of_kept kept keptBegun present
  have goesOn : first.report.state.isFailed = false := by
    rw [eq_start_of_begin begins, Run.start, List.getElem?_map] at atFirst
    obtain ⟨configuration, -, rfl⟩ := Option.map_eq_some_iff.mp atFirst
    rfl
  obtain ⟨before, failing, failure, failsIn, filed⟩ :=
    Run.exists_failsIn keptBegun atFirst goesOn follows present (by rw [state]; rfl)
  obtain ⟨early, move, late, after, failed, -, reached, -⟩ := failsIn.moment
  obtain ⟨last, there, same⟩ :=
    Run.exists_task_of_kept (Run.kept_follow keptBegun reached) kept failsIn.present
  obtain rfl : last = task := Option.some.inj (there.symm.trans present)
  obtain ⟨rfl, rfl⟩ : stage = failure.stage ∧ error = failure.fault.message := by
    rw [state] at filed
    cases filed
    exact ⟨rfl, rfl⟩
  refine ⟨before, failing, failure, failsIn, same.symm, rfl, rfl, ?_⟩
  obtain stays | ⟨crash, phase, result, rfl⟩ := Task.stage_of_fails failsIn.fails
  · exact Or.inl stays
  · exact Or.inr ⟨crash, phase, same ▸ result, by rw [Task.stage?, phase], rfl, rfl⟩

/-- A scorer whose training crashes. -/
theorem failure_names_stage_training :
    let scorer : Scorer := ⟨"breaking", true,
      fun _ _ => .immediate (.error (.untrained "breaking")),
      fun _ => ⟨.error ⟨"no data"⟩, false, ⟨0⟩⟩⟩
    let plan : Plan := ⟨[⟨"a", .ok scorer⟩], [.ofSplit ⟨"s", ⟨[]⟩, .empty⟩],
      [.list ⟨"size", fun _ _ => .ok (.ok 0.0)⟩], none, .all⟩
    let evaluator : Evaluator := ⟨{}, 1, false, .empty⟩
    ∃ begun run moves task, evaluator.begin plan = .ok begun ∧
      begun.follow (evaluator.conditions plan) moves = some run ∧ run.tasks[0]? = some task ∧
      task.report.state = .failed .training "panicked: no data" ∧
      (∃ before failing failure,
        Run.FailsIn (evaluator.conditions plan) begun moves run 0 before failing failure ∧
        failing.configuration = task.configuration ∧
        Stage.training = failure.stage ∧ "panicked: no data" = failure.fault.message ∧
        (failing.stage? = some Stage.training ∨ ∃ crash, failing.phase = .crashed crash ∧
          task.configuration.algorithm.build = .error crash ∧ failing.stage? = some .training ∧
          Stage.training = .scoring ∧ "panicked: no data" = crash.message)) ∧
      ∃ rows, task.rows = rows ++
        [Row.ofFailure task.configuration.key none "training: panicked: no data"] := by
  intro scorer plan evaluator
  let moves : List RunMove := [.task 0 .start, .task 0 .load, .task 0 .ask, .finish (0, none),
    .task 0 .fit]
  let begun : Run := .start (evaluator.conditions plan) false plan.configurations
  have ends : (begun.follow (evaluator.conditions plan) moves).map
      (fun run => run.tasks.map fun task => task.report.state) =
        some [.failed .training "panicked: no data"] := rfl
  obtain ⟨run, follows, states⟩ := Option.map_eq_some_iff.mp ends
  have there : (run.tasks.map fun task => task.report.state)[0]? =
      some (.failed .training "panicked: no data") := by
    rw [states]
    rfl
  rw [List.getElem?_map] at there
  obtain ⟨task, present, state⟩ := Option.map_eq_some_iff.mp there
  exact ⟨begun, run, moves, task, rfl, follows, present, state,
    failure_names_stage evaluator plan begun run moves rfl follows 0 task present _ _ state⟩

/-- A scorer that cannot be built: the configuration is to be trained, and the next move files its
failure under scoring. -/
theorem crashed_factory_filed_under_scoring :
    let plan : Plan := ⟨[⟨"a", .error ⟨"no scorer"⟩⟩], [.ofSplit ⟨"s", ⟨[]⟩, .empty⟩],
      [.list ⟨"size", fun _ _ => .ok (.ok 0.0)⟩], none, .all⟩
    let evaluator : Evaluator := ⟨{}, 1, false, .empty⟩
    ∃ begun before run failing failed, evaluator.begin plan = .ok begun ∧
      begun.follow (evaluator.conditions plan) [.task 0 .start, .task 0 .load] = some before ∧
      before.tasks = [failing] ∧ failing.report.state = .training ∧
      failing.stage? = some .training ∧
      before.step (evaluator.conditions plan) (.settle 0) = some run ∧ run.tasks = [failed] ∧
      failed.report.state = .failed .scoring "panicked: no scorer" ∧
      failed.rows = [Row.ofFailure ⟨"a", "s"⟩ none "scoring: panicked: no scorer"] :=
  ⟨_, _, _, _, _, rfl, rfl, rfl, rfl, rfl, rfl, rfl, rfl, rfl⟩

end Evaluator

end Holdout
