/-
This file proves what reaches the sink. The rows of all configurations are mixed there, but each of
them carries the name of its configuration; and since no two configurations have one name, the rows
of a configuration can be told from all others. Those that have reached the sink are the ones that
were handed on so far, in the order in which they were sent.
-/

import Holdout.Proofs.Plan
import Holdout.Proofs.RowAccounting

namespace Holdout

instance (key : ConfigKey) : DecidablePred (Row.IsOf key) := fun row =>
  inferInstanceAs (Decidable (row.algorithm = key.algorithm ∧ row.split = key.split))

/-- A row is of one configuration only. -/
theorem Row.IsOf.unique {row : Row} {first second : ConfigKey} (own : row.IsOf first)
    (other : row.IsOf second) : first = second := by
  obtain ⟨algorithm, split⟩ := first
  obtain ⟨rfl, rfl⟩ := own
  obtain ⟨sameAlgorithm, sameSplit⟩ := other
  rw [sameAlgorithm, sameSplit]

/-! ### The rows of one configuration -/

namespace Task

variable {conditions : Conditions} {position : Nat} {calls later : Calls Slot}
  {task after : Task} {move : TaskMove}

/-- A configuration reports and sends rows under its own name. -/
structure Owned (task : Task) : Prop where
  key : task.report.key = task.configuration.key
  rows : ∀ row ∈ task.rows, row.IsOf task.configuration.key

theorem owned_start (configuration : Configuration) : (start configuration).Owned :=
  ⟨rfl, fun _ member => absurd member List.not_mem_nil⟩

/-- More rows under its own name. -/
theorem Owned.append {rows : List Row} (owned : task.Owned)
    (more : ∀ row ∈ rows, row.IsOf task.configuration.key) :
    ∀ row ∈ task.rows ++ rows, row.IsOf task.configuration.key := by
  intro row member
  rcases List.mem_append.mp member with early | new
  · exact owned.rows row early
  · exact more row new

theorem Owned.fail (owned : task.Owned) (failure : ConfigFailure) : (task.fail failure).Owned where
  key := owned.key
  rows := owned.append fun row member => by
    obtain rfl := List.mem_singleton.mp member
    rw [owned.key]
    exact ⟨rfl, rfl⟩

theorem Owned.failCrashed (owned : task.Owned) (crash : Crash) :
    (task.failCrashed crash).Owned := by
  have fresh : Owned { task with report := ConfigReport.fresh task.configuration.key } :=
    ⟨rfl, owned.rows⟩
  exact fresh.fail _

theorem owned_moved (owned : task.Owned)
    (moved : Moved conditions position calls task move later after) : after.Owned := by
  cases moved with
  | refuses | loadingCrashes | loadingFails | trainingRefused | trainingCrashes | trainingFails
  | concludesCrash | aggregatingCrashes => exact owned.fail _
  | loads split phase result =>
    unfold beginTraining
    split
    · exact ⟨owned.key, owned.rows⟩
    split <;> exact ⟨owned.key, owned.rows⟩
  | measures split score progress queue reorder next gathered part count phase some few enough
      absorbs =>
    refine ⟨owned.key, owned.append ?_⟩
    obtain ⟨gathers, -⟩ | ⟨gathers, -⟩ := Measuring.gatherAll_of_absorb _ absorbs <;>
      exact Measuring.isOf_of_gatherAll gathers
  | flushes split score progress reorder gathered part phase done finishes =>
    rw [Measuring.finish, Measuring.measureChunk_eq] at finishes
    exact ⟨owned.key, owned.append (Measuring.isOf_of_gatherAll finishes)⟩
  | concludesCancelled split score progress queue gathered phase done signal =>
    have counted : Owned { task with
        report := { task.report with scored := gathered.scored, failed := gathered.failed } } :=
      ⟨owned.key, owned.rows⟩
    exact counted.fail _
  | aggregates gathered analysis takes phase measures =>
    refine ⟨owned.key, owned.append fun row member => ?_⟩
    obtain ⟨value, -, rfl⟩ := List.mem_map.mp member
    rw [owned.key]
    exact Row.isOf_ofMetric _ _ _ _
  | _ => exact ⟨owned.key, owned.rows⟩

end Task

/-! ### The rows at the sink -/

namespace Run

variable {conditions : Conditions} {configurations : List Configuration} {run after : Run}

/-- The rows of a configuration that have reached the sink. -/
def logOf (run : Run) (key : ConfigKey) : List Row := run.log.filter (Row.IsOf key)

/-- What has reached the sink: of every configuration the rows that it handed on, and nothing
else. -/
structure Logged (run : Run) : Prop where
  owned : ∀ (position : Nat) (task : Task), run.tasks[position]? = some task → task.Owned
  handed : ∀ (position : Nat) (task : Task), run.tasks[position]? = some task →
    run.logOf task.configuration.key = task.rows.take task.handed
  known : ∀ row ∈ run.log, ∃ configuration ∈ run.tasks.map Task.configuration,
    row.IsOf configuration.key

theorem logged_start (conditions : Conditions) (cancelled : Bool)
    (configurations : List Configuration) :
    Logged (start conditions cancelled configurations) := by
  refine ⟨fun position task present => ?_, fun position task present => ?_, fun row member => ?_⟩
  · obtain ⟨configuration, -, rfl⟩ := List.mem_map.mp (List.mem_of_getElem? present)
    exact Task.owned_start configuration
  · obtain ⟨configuration, -, rfl⟩ := List.mem_map.mp (List.mem_of_getElem? present)
    rfl
  · cases member

/-- A configuration may come to send more rows, as long as it hands none of them on. -/
theorem logged_set {later : Task} {position : Nat} {task : Task} {calls : Calls Slot}
    {states : States} (logged : run.Logged) (below : task.handed ≤ task.rows.length)
    (present : run.tasks[position]? = some task)
    (same : later.configuration = task.configuration) (owned : later.Owned)
    (stays : task.rows <+: later.rows) (handed : later.handed = task.handed) :
    Logged ⟨calls, run.tasks.set position later, run.log, states⟩ where
  owned := fun other found there => by
    obtain ⟨-, rfl⟩ | ⟨-, before⟩ := getElem?_set_cases present there
    · exact owned
    · exact logged.owned other found before
  handed := fun other found there => by
    obtain ⟨-, rfl⟩ | ⟨-, before⟩ := getElem?_set_cases present there
    · obtain ⟨more, rows⟩ := stays
      rw [same, handed, ← rows, List.take_append_of_le_length below]
      exact logged.handed position task present
    · exact logged.handed other found before
  known := fun row member => by
    rw [map_configuration_set present same]
    exact logged.known row member

/-- Two configurations of one name are the same one. -/
theorem position_unique (distinct : (configurations.map Configuration.key).Nodup)
    (same : run.tasks.map Task.configuration = configurations) {position other : Nat}
    {task found : Task} (present : run.tasks[position]? = some task)
    (there : run.tasks[other]? = some found)
    (key : found.configuration.key = task.configuration.key) : other = position := by
  have keyAt {index : Nat} {task : Task} (here : run.tasks[index]? = some task) :
      (configurations.map Configuration.key)[index]? = some task.configuration.key := by
    rw [← same, List.getElem?_map, List.getElem?_map, here]
    rfl
  refine (List.getElem?_inj (List.getElem?_eq_some_iff.mp (keyAt there)).1 distinct).mp ?_
  rw [keyAt there, keyAt present, key]

theorem logged_hand (distinct : (configurations.map Configuration.key).Nodup)
    (same : run.tasks.map Task.configuration = configurations) (logged : run.Logged)
    {position : Nat} {task : Task} {row : Row} (present : run.tasks[position]? = some task)
    (next : task.rows[task.handed]? = some row) :
    Logged { run with
      tasks := run.tasks.set position { task with handed := task.handed + 1 }
      log := run.log ++ [row] } := by
  have own := (logged.owned position task present).rows row (List.mem_of_getElem? next)
  have split (key : ConfigKey) :
      (run.log ++ [row]).filter (Row.IsOf key) = run.logOf key ++ [row].filter (Row.IsOf key) :=
    List.filter_append ..
  -- The row is new in the log of its own configuration, and in no other since names are distinct.
  refine ⟨fun other found there => ?_, fun other found there => ?_, fun other member => ?_⟩
  · obtain ⟨-, rfl⟩ | ⟨-, before⟩ := getElem?_set_cases present there
    · exact ⟨(logged.owned position task present).key, (logged.owned position task present).rows⟩
    · exact logged.owned other found before
  · obtain ⟨-, rfl⟩ | ⟨different, before⟩ := getElem?_set_cases present there
    · have single : [row].filter (Row.IsOf task.configuration.key) = [row] :=
        List.filter_eq_self.mpr (by simpa using own)
      rw [logOf, split, single, logged.handed position task present, List.take_add_one, next]
      rfl
    · have nothing : [row].filter (Row.IsOf found.configuration.key) = [] := by
        rw [List.filter_eq_nil_iff]
        intro last member of
        obtain rfl := List.mem_singleton.mp member
        exact different (position_unique distinct same present before
          ((of_decide_eq_true of).unique own))
      rw [logOf, split, nothing, List.append_nil]
      exact logged.handed other found before
  · have same : (run.tasks.set position { task with handed := task.handed + 1 }).map
        Task.configuration = run.tasks.map Task.configuration := map_configuration_set present rfl
    rw [same]
    rcases List.mem_append.mp member with early | last
    · exact logged.known other early
    · obtain rfl := List.mem_singleton.mp last
      exact ⟨task.configuration, List.mem_map_of_mem (List.mem_of_getElem? present), own⟩

theorem logged_stepped (distinct : (configurations.map Configuration.key).Nodup) {move : RunMove}
    (kept : Kept conditions configurations run) (logged : run.Logged)
    (stepped : Stepped conditions run move after) : after.Logged := by
  cases stepped with
  | task position move task later calls present admitted moved =>
    have same := (Task.travels_moved (kept.travels position task present)
      (kept.linked position task present) moved).2
    obtain ⟨stays, handed⟩ := Task.rows_moved moved
    exact logged_set logged (kept.handed position task present) present same
      (Task.owned_moved (logged.owned position task present) moved) stays handed
  | finish slot calls ends => exact ⟨logged.owned, logged.handed, logged.known⟩
  | hand position task row present next =>
    exact logged_hand distinct kept.same logged present next
  | settle position task crash present phase through first =>
    exact logged_set logged (kept.handed position task present) present rfl
      ((logged.owned position task present).failCrashed crash) (List.prefix_append _ _) rfl
  | cancel uncut => exact ⟨logged.owned, logged.handed, logged.known⟩

theorem logged_follow (distinct : (configurations.map Configuration.key).Nodup)
    {moves : List RunMove} (kept : Kept conditions configurations run) (logged : run.Logged)
    (follows : run.follow conditions moves = some after) : after.Logged :=
  (Steps.holds_follow (fun run => Kept conditions configurations run ∧ run.Logged)
    (fun _ holds moves => ⟨kept_step holds.1 moves,
      logged_stepped distinct holds.1 holds.2 (stepped_of_step moves)⟩) ⟨kept, logged⟩ follows).2

/-- All rows of a configuration that is over have reached the sink. -/
theorem logOf_of_isOver (logged : run.Logged) (isOver : run.isOver = true) {position : Nat}
    {task : Task} (present : run.tasks[position]? = some task) :
    run.logOf task.configuration.key = task.rows := by
  have through := List.all_eq_true.mp isOver task (List.mem_of_getElem? present)
  rw [logged.handed position task present, List.take_of_length_le]
  unfold Task.isOver at through
  split at through
  · exact of_decide_eq_true through
  · cases through

end Run

/-! ### The sink of a run -/

/-- A run only begins if its plan is valid. -/
theorem Evaluator.valid_of_begin {evaluator : Evaluator} {plan : Plan} {begun : Run}
    (begins : evaluator.begin plan = .ok begun) : plan.Valid := by
  unfold begin at begins
  split at begins
  · cases begins
  · rename_i accepted
    exact Plan.fault?_eq_none_iff.mp accepted

/-- Whatever happens in a run of a valid plan, every row at the sink is of one configuration, and
those of a configuration are the rows that it handed on, in the order in which it sent them. -/
theorem Evaluator.logged_of_begin {evaluator : Evaluator} {plan : Plan} {begun run : Run}
    {moves : List RunMove} (begins : evaluator.begin plan = .ok begun)
    (follows : begun.follow (evaluator.conditions plan) moves = some run) : run.Logged := by
  refine Run.logged_follow (valid_of_begin begins).distinct_keys (kept_of_begin begins) ?_ follows
  rw [eq_start_of_begin begins]
  exact Run.logged_start _ _ _

end Holdout
