/-
This file proves what becomes of a run that is cancelled. From that moment on no slot is given to
anybody. A configuration whose turn has not come fails with its one row and loads nothing. One whose
queries are being scored still has its rows for every query: a query that had its slot keeps what it
deserves, and all others are reported as cancelled. Nothing is aggregated that was not measured in
full before. The evaluator stays cancelled, so the same holds of all its later runs from their first
move on.
-/

import Holdout.Proofs.RowAccounting
import Holdout.Proofs.Termination

namespace Holdout

/-! ### Calls of a batch -/

/-- The rows and the report of a configuration that was cancelled while its queries were scored,
after those at the positions `granted` had got their slots. -/
structure CancelledRows (conditions : Conditions) (configuration : Configuration) (split : Split)
    (score : Scoring) (granted : List Nat) (report : ConfigReport) (rows : List Row)
    (outcomes : List Outcome) : Prop where
  ready : configuration.Ready split score
  state : report.state = .failed .scoring "run cancelled"
  /-- Every test query has one outcome. -/
  once : (outcomes.map Outcome.query).Perm split.test.names
  /-- A query that got its slot has what scoring it by itself gives, unless its task vanished, and
  every other one is cancelled. -/
  told : ∀ outcome ∈ outcomes, ∃ query, split.queries[outcome.index]? = some query ∧
    outcome.query = query.id ∧
    (outcome.index ∈ granted → outcome.result = (conditions.batch split).scoreOne score query ∨
      outcome.result = .error Batch.aborted) ∧
    (outcome.index ∉ granted → outcome.result = .error .cancelled)
  /-- Every outcome has its rows in full, and the row of the configuration comes last. -/
  rows : ∃ blocks,
    List.Forall₂ (conditions.measuring configuration.key split).Block outcomes blocks ∧
      rows = blocks.flatten ++
        [Row.ofFailure configuration.key none "scoring: run cancelled"]
  scored : report.scored = outcomes.countP Outcome.isScored
  failed : report.failed = outcomes.countP fun outcome => !outcome.isScored
  total : report.scored + report.failed = report.queries
  queries : report.queries = split.test.size

/-- What was measured when the run is found to be cancelled makes up the rows and the report. -/
theorem cancelledRows_of_measured {conditions : Conditions} {configuration : Configuration}
    {split : Split} {score : Scoring} {progress : Batch.Progress} {sent : List Outcome}
    {gathered : Gathered}
    (measured : Task.Measured conditions configuration split score progress sent gathered) :
    ∃ outcomes, CancelledRows conditions configuration split score progress.spawned
      { ConfigReport.fresh configuration.key with
        state := .ofFailure ⟨.scoring, .cancelled⟩, queries := split.queries.length,
        scored := gathered.scored, failed := gathered.failed }
      (gathered.rows ++ [Row.ofFailure configuration.key none
        (ConfigFailure.message ⟨.scoring, .cancelled⟩)]) outcomes := by
  obtain ⟨outcomes, -, tallied⟩ := tallied_of_measured measured
  obtain ⟨blocks, each, rows⟩ := tallied.blocks
  have size : split.queries.length = split.test.size := by
    simp [Split.queries, Table.size, Table.names]
  have first (index : Nat) : index ∈ progress.spawned ↔ index < progress.spawned.length := by
    rw [measured.accounted.inOrder, List.length_range]
    exact List.mem_range
  refine ⟨outcomes, tallied.ready, rfl, tallied.once, fun outcome member => ?_,
    ⟨blocks, each, by rw [rows]; rfl⟩, tallied.scored, tallied.failed, ?_, size⟩
  · obtain ⟨query, present, name, result⟩ := tallied.told outcome member
    refine ⟨query, present, name, fun got => ?_, fun refused => ?_⟩
    · rw [result, Batch.deserved, if_neg (Nat.not_le.mpr ((first outcome.index).mp got))]
      split
      · exact Or.inr rfl
      · exact Or.inl rfl
    · rw [first] at refused
      rw [result, Batch.deserved, if_pos (Nat.le_of_not_lt refused)]
  · exact tallied.total.trans size.symm

namespace Task

/-- Whether the queries of a configuration are scored, or will be since its training ends well, and
which of them have got their slots. -/
inductive Scores (task : Task) (split : Split) (score : Scoring) : List Nat → Prop where
  | fitting (scorer : Scorer) (phase : task.phase = .fitting split scorer)
      (result : (scorer.train split.train).result = .ok (.ok score)) : Scores task split score []
  | scoring (progress : Batch.Progress) (queue : List Outcome) (measurer : Measurer)
      (phase : task.phase = .scoring split score progress queue measurer) :
      Scores task split score progress.spawned

/-- Whether a configuration failed before its turn came. -/
structure NotStarted (task : Task) : Prop where
  phase : task.phase = .ended
  report : task.report =
    { ConfigReport.fresh task.configuration.key with state := .failed .loading "run cancelled" }
  rows : task.rows = [Row.ofFailure task.configuration.key none "loading: run cancelled"]

/-- Whether a configuration was cancelled while its queries were scored. -/
structure CutOff (conditions : Conditions) (split : Split) (score : Scoring)
    (granted : List Nat) (task : Task) : Prop where
  phase : task.phase = .ended
  accounted : ∃ outcomes, CancelledRows conditions task.configuration split score granted
    task.report task.rows outcomes

/-- Whether all queries of a configuration were measured, and it is or will be aggregated. -/
def IsMeasured (task : Task) : Prop :=
  (∃ gathered, task.phase = .scored gathered) ∨ task.report.state = .aggregated

/-- What a configuration comes to while a run goes on that is cancelled. -/
structure Halts (conditions : Conditions) (task current : Task) : Prop where
  same : current.configuration = task.configuration
  notStarted : task.phase = .pending → current.phase = .pending ∨ current.NotStarted
  scoring : Metric.Calm conditions.metrics →
    ∀ (split : Split) (score : Scoring) (granted : List Nat), task.Scores split score granted →
      current.Scores split score granted ∨ current.CutOff conditions split score granted
  measured : current.IsMeasured → task.IsMeasured

variable {conditions : Conditions} {position : Nat} {calls later : Calls Slot}
  {task current after : Task} {move : TaskMove}

theorem halts_refl (conditions : Conditions) (task : Task) : task.Halts conditions task :=
  ⟨rfl, Or.inl, fun _ _ _ _ => Or.inl, id⟩

/-- Nothing moves a configuration that is through. -/
theorem not_moved_of_ended (phase : task.phase = .ended)
    (moved : Moved conditions position calls task move later after) : False := by
  cases moved <;> simp_all

/-- A configuration whose turn comes after the cancellation fails. -/
theorem notStarted_of_moved (signal : calls.cancelled = true) (travels : task.Travels conditions)
    (phase : task.phase = .pending)
    (moved : Moved conditions position calls task move later after) : after.NotStarted := by
  cases moved with
  | refuses pending signal =>
    obtain ⟨configuration, before, report, rows, handed, announced⟩ := task
    change Travelled conditions configuration before report rows at travels
    cases phase
    cases travels
    exact ⟨rfl, rfl, rfl⟩
  | _ => simp_all

/-- A configuration that finds itself cancelled when all its outcomes are measured. -/
theorem cutOff_of_finished (travels : task.Travels conditions) {split : Split} {score : Scoring}
    {progress : Batch.Progress} {queue : List Outcome} {gathered : Gathered}
    (phase : task.phase = .scoring split score progress queue (.finished gathered)) :
    CutOff conditions split score progress.spawned
      ({ task with
        report := { task.report with
          scored := gathered.scored
          failed := gathered.failed } }.fail ⟨.scoring, .cancelled⟩) := by
  obtain ⟨configuration, before, report, rows, handed, announced⟩ := task
  change Travelled conditions configuration before report rows at travels
  cases phase
  cases travels with
  | scoring _ _ _ _ sent _ _ ready accounted taken =>
    obtain ⟨rfl, measured⟩ := measured_of_taken ready accounted taken
    exact ⟨rfl, cancelledRows_of_measured measured⟩

/-- The queries of a configuration go on being scored after a cancellation, but none of them gets a
slot, and when all of them have an outcome the configuration fails. -/
theorem scores_moved (signal : calls.cancelled = true) (calm : Metric.Calm conditions.metrics)
    (travels : task.Travels conditions) {split : Split} {score : Scoring} {granted : List Nat}
    (scores : task.Scores split score granted)
    (moved : Moved conditions position calls task move later after) :
    after.Scores split score granted ∨ after.CutOff conditions split score granted := by
  cases scores with
  | fitting scorer phase result =>
    cases moved with
    | trainingCrashes _ _ crash fitting returned crashes => simp_all
    | trainingFails _ _ error fitting returned fails => simp_all
    | fits other another found fitting returned fits =>
      obtain ⟨rfl, rfl⟩ : split = other ∧ scorer = another := by simpa [phase] using fitting
      obtain rfl : score = found := by simpa [result] using fits
      exact Or.inl (.scoring {} [] (.working .start {}) rfl)
    | _ => simp_all
  | scoring progress queue measurer phase =>
    obtain ⟨sent, ready, accounted, taken⟩ := scoring_of_travels travels phase
    cases moved with
    | batches _ _ _ _ left _ move advance scoring advances sends =>
      obtain ⟨rfl, rfl, rfl, rfl, rfl⟩ := Phase.scoring.inj (phase.symm.trans scoring)
      rw [← Batch.spawned_advance signal advances]
      exact Or.inl (.scoring _ _ _ rfl)
    | measures _ _ _ _ reorder next gathered part count scoring
    | measuringCrashes _ _ _ _ reorder gathered count crash scoring
    | flushes _ _ _ reorder gathered part scoring
    | flushingCrashes _ _ _ reorder gathered crash scoring =>
      obtain ⟨rfl, rfl, rfl, rfl, rfl⟩ := Phase.scoring.inj (phase.symm.trans scoring)
      exact Or.inl (.scoring _ _ _ rfl)
    | concludesCrash _ _ _ _ crash scoring done =>
      obtain ⟨rfl, rfl, rfl, rfl, rfl⟩ := Phase.scoring.inj (phase.symm.trans scoring)
      -- Metrics that never crash do not crash the measuring.
      cases taken with
      | crashed chunks _ _ arrived crashes =>
        obtain ⟨gathered, drains⟩ := Measuring.exists_drain
          (conditions.measuring task.configuration.key split) calm chunks
        rw [crashes] at drains
        cases drains
    | concludesCancelled _ _ _ _ gathered scoring done cut =>
      obtain ⟨rfl, rfl, rfl, rfl, rfl⟩ := Phase.scoring.inj (phase.symm.trans scoring)
      exact Or.inr (cutOff_of_finished travels phase)
    | concludes _ _ _ _ gathered scoring done free =>
      rw [signal] at free
      cases free
    | _ => simp_all

/-- Whatever is aggregated after a cancellation was measured in full before. -/
theorem isMeasured_of_moved (signal : calls.cancelled = true)
    (moved : Moved conditions position calls task move later after)
    (measured : after.IsMeasured) : task.IsMeasured := by
  cases moved with
  | loads split phase result =>
    unfold IsMeasured beginTraining beginScoring at measured
    split at measured
    · simp at measured
    split at measured <;> simp at measured
  | concludes split score progress queue gathered phase done free =>
    rw [signal] at free
    cases free
  | aggregates gathered analysis takes phase measures => exact Or.inl ⟨gathered, phase⟩
  | _ => simp_all [IsMeasured, fail, beginScoring, ConfigState.ofFailure]

theorem halts_moved (signal : calls.cancelled = true) (travels : current.Travels conditions)
    (linked : current.Linked position calls) (halts : task.Halts conditions current)
    (moved : Moved conditions position calls current move later after) :
    task.Halts conditions after where
  same := (travels_moved travels linked moved).2.trans halts.same
  notStarted := fun pending => Or.inr <| by
    obtain phase | failed := halts.notStarted pending
    · exact notStarted_of_moved signal travels phase moved
    · exact (not_moved_of_ended failed.phase moved).elim
  scoring := fun calm split score granted scores => by
    obtain scores | cut := halts.scoring calm split score granted scores
    · exact scores_moved signal calm travels scores moved
    · exact (not_moved_of_ended cut.phase moved).elim
  measured := fun measured => halts.measured (isMeasured_of_moved signal moved measured)

/-- Handing a row on changes nothing about what a configuration comes to. -/
theorem halts_hand (halts : task.Halts conditions current) :
    task.Halts conditions { current with handed := current.handed + 1 } where
  same := halts.same
  notStarted := fun pending => (halts.notStarted pending).imp id fun failed =>
    ⟨failed.phase, failed.report, failed.rows⟩
  scoring := fun calm split score granted scores => by
    obtain scores | cut := halts.scoring calm split score granted scores
    · refine Or.inl ?_
      cases scores with
      | fitting scorer phase result => exact .fitting scorer phase result
      | scoring progress queue measurer phase => exact .scoring progress queue measurer phase
    · exact Or.inr ⟨cut.phase, cut.accounted⟩
  measured := halts.measured

/-- Only configurations whose scorer could not be built have a crash that is reported late. -/
theorem halts_failCrashed {crash : Crash} (halts : task.Halts conditions current)
    (phase : current.phase = .crashed crash) :
    task.Halts conditions (current.failCrashed crash) where
  same := halts.same
  notStarted := fun pending => by
    obtain same | failed := halts.notStarted pending
    · rw [phase] at same
      cases same
    · have same := failed.phase
      rw [phase] at same
      cases same
  scoring := fun calm split score granted scores => by
    obtain scores | cut := halts.scoring calm split score granted scores
    · cases scores <;> simp_all
    · have same := cut.phase
      rw [phase] at same
      cases same
  measured := fun measured => by
    simp [IsMeasured, failCrashed, fail, ConfigState.ofFailure] at measured

/-! ### Who makes a call -/

/-- Whether a configuration waits for a call of its own to return: it is trained, or a query of it
is scored. -/
inductive Attends (task : Task) : Option Nat → Prop where
  | training (split : Split) (scorer : Scorer) (phase : task.phase = .fitting split scorer) :
      Attends task none
  | query (split : Split) (score : Scoring) (progress : Batch.Progress) (queue : List Outcome)
      (measurer : Measurer) (index : Nat)
      (phase : task.phase = .scoring split score progress queue measurer)
      (running : index ∈ progress.running) : Attends task (some index)

end Task

namespace Run

variable {conditions : Conditions} {configurations : List Configuration}
  {middle run after : Run} {move : RunMove} {moves : List RunMove}

/-! ### A run after a cancellation -/

/-- What becomes of a run after a moment at which it is cancelled: no call begins, and every
configuration comes to what it can. -/
structure Halts (conditions : Conditions) (middle run : Run) : Prop where
  signal : run.calls.cancelled = true
  calls : run.calls.ongoing.Sublist middle.calls.ongoing
  tasks : ∀ (position : Nat) (task : Task), middle.tasks[position]? = some task →
    ∃ current, run.tasks[position]? = some current ∧ task.Halts conditions current

theorem halts_refl (conditions : Conditions) (signal : run.calls.cancelled = true) :
    run.Halts conditions run :=
  ⟨signal, List.Sublist.refl _, fun _ task present => ⟨task, present, task.halts_refl conditions⟩⟩

/-- One task is exchanged for another that comes from the same one. -/
theorem tasks_set {position : Nat} {old new : Task} (halts : middle.Halts conditions run)
    (present : run.tasks[position]? = some old)
    (goesOn : ∀ task : Task, task.Halts conditions old → task.Halts conditions new) :
    ∀ (other : Nat) (task : Task), middle.tasks[other]? = some task →
      ∃ current, (run.tasks.set position new)[other]? = some current ∧
        task.Halts conditions current := by
  intro other task before
  obtain ⟨current, there, comes⟩ := halts.tasks other task before
  obtain ⟨-, rfl, now⟩ | ⟨-, now⟩ := getElem?_set_of_getElem? new present there
  · exact ⟨new, now, goesOn task comes⟩
  · exact ⟨current, now, comes⟩

theorem halts_step (kept : Kept conditions configurations run)
    (halts : middle.Halts conditions run) (moves : run.step conditions move = some after) :
    middle.Halts conditions after := by
  have signal := halts.signal
  cases stepped_of_step moves with
  | task position move task later calls present admitted moved =>
    have travels := kept.travels position task present
    have linked := kept.linked position task present
    refine ⟨Task.cancelled_moved travels linked moved signal, ?_, ?_⟩
    · rw [Task.ongoing_moved travels linked moved signal]
      exact halts.calls
    · exact tasks_set halts present fun before comes =>
        Task.halts_moved signal travels linked comes moved
  | finish slot calls ends =>
    refine ⟨Calls.cancelled_of_finish ends signal, ?_, halts.tasks⟩
    exact (Calls.ongoing_of_finish ends).trans halts.calls
  | hand position task row present next =>
    exact ⟨signal, halts.calls, tasks_set halts present fun before comes => Task.halts_hand comes⟩
  | settle position task crash present phase =>
    exact ⟨signal, halts.calls,
      tasks_set halts present fun before comes => Task.halts_failCrashed comes phase⟩
  | cancel uncut => exact ⟨rfl, halts.calls, halts.tasks⟩

theorem halts_follow (kept : Kept conditions configurations run)
    (halts : middle.Halts conditions run) (follows : run.follow conditions moves = some after) :
    middle.Halts conditions after := by
  have both := Steps.holds_follow
    (fun now => Kept conditions configurations now ∧ middle.Halts conditions now)
    (fun _ holds moves => ⟨kept_step holds.1 moves, halts_step holds.1 holds.2 moves⟩)
    ⟨kept, halts⟩ follows
  exact both.2

/-- What is through has ended well or failed. -/
theorem isTerminal_of_isOver (kept : Kept conditions configurations run)
    (isOver : run.isOver = true) : ∀ report ∈ run.configs, report.state.isTerminal = true := by
  intro report member
  obtain ⟨task, inside, rfl⟩ := List.mem_map.mp member
  obtain ⟨position, present⟩ := List.mem_iff_getElem?.mp inside
  have travels := kept.travels position task present
  have through := List.all_eq_true.mp isOver task inside
  obtain ⟨configuration, phase, report, rows, handed, announced⟩ := task
  change Task.Travelled conditions configuration phase report rows at travels
  cases travels with
  | ended _ _ way => cases way <;> rfl
  | _ => cases through

theorem ended_of_isOver (isOver : run.isOver = true) {position : Nat} {task : Task}
    (present : run.tasks[position]? = some task) : task.phase = .ended := by
  have through := List.all_eq_true.mp isOver task (List.mem_of_getElem? present)
  unfold Task.isOver at through
  split at through
  · assumption
  · cases through

end Run

/-! ### The evaluator after a cancellation -/

/-- What a cancellation leaves of a run of a plan: `middle` is a moment at which the run is
cancelled, after the moves `before`, and the moves `after` follow and lead to `run`. -/
structure Evaluator.Cancelled (evaluator : Evaluator) (plan : Plan) (before : List RunMove)
    (middle : Run) (after : List RunMove) (run : Run) : Prop where
  /-- Only so many moves are left, and until the run is over there is one that it can make. -/
  short : after.length ≤ middle.remaining (evaluator.conditions plan)
  live : run.isOver = false → run.CanStep (evaluator.conditions plan)
  /-- Then all configurations have ended. -/
  terminal : run.isOver = true → ∀ report ∈ run.configs, report.state.isTerminal = true
  same : run.tasks.map Task.configuration = plan.configurations
  /-- No call has begun, neither to score nor to train, since whoever asks for a slot is refused. -/
  calls : run.calls.ongoing.Sublist middle.calls.ongoing
  refused : ∀ slot cancels, (run.calls.ask slot cancels).1 = .cancelled
  /-- Whoever made a call, which may have been the one that cancelled the run, was being trained or
  scored. -/
  callers : (evaluator.conditions plan).timeout = none →
    (∀ position index, RunMove.task position (.batch (.lose index)) ∉ before) →
    ∀ slot, slot ∈ middle.calls.names ∨ before.getLast? = some (.finish slot) →
      ∃ task, middle.tasks[slot.1]? = some task ∧ task.Attends slot.2
  /-- A configuration whose turn had not come failed, and loaded nothing. -/
  notStarted : ∀ (position : Nat) (task : Task), middle.tasks[position]? = some task →
    task.phase = .pending → RunMove.task position .load ∉ after ∧
      (run.isOver = true → ∃ last, run.tasks[position]? = some last ∧ last.NotStarted)
  /-- One whose queries were scored, or were to be scored after its training, has rows for all of
  them. -/
  scoring : Metric.Calm plan.metrics → ∀ (position : Nat) (task : Task),
    middle.tasks[position]? = some task → ∀ (split : Split) (score : Scoring) (granted : List Nat),
      task.Scores split score granted → run.isOver = true →
        ∃ last, run.tasks[position]? = some last ∧
          last.CutOff (evaluator.conditions plan) split score granted
  /-- Nothing is aggregated that was not measured in full. -/
  whole : ∀ (position : Nat) (last : Task), run.tasks[position]? = some last →
    last.report.state = .aggregated →
      ∃ task, middle.tasks[position]? = some task ∧ task.IsMeasured
  /-- The report says that the run was cancelled. -/
  report : ∀ (State : Type) (sink : Sink State) (state : State) (stamp : RunStamp),
    (evaluator.finish run sink state stamp).report.cancelled = true ∧
      (evaluator.finish run sink state stamp).report.isComplete = false

namespace Evaluator

variable {evaluator : Evaluator} {plan : Plan} {begun middle run : Run}
  {before after : List RunMove}

theorem conditions_usable (usable : evaluator.settings.fault? = none) (plan : Plan) :
    0 < (evaluator.conditions plan).capacity ∧ 0 < (evaluator.conditions plan).configsAtOnce := by
  unfold Settings.fault? at usable
  split at usable
  · cases usable
  split at usable
  · cases usable
  split at usable
  · cases usable
  · exact ⟨Nat.pos_of_ne_zero ‹_›, Nat.pos_of_ne_zero ‹_›⟩

end Evaluator

end Holdout
