/-
This file proves that a run comes to its end. Every move uses up one of a number of moves that is
known beforehand, and as long as a configuration is not through some move is possible: a call that
goes on can return, and if none goes on then whoever was given a slot can take it.
-/

import Holdout.Proofs.Reorder
import Holdout.Proofs.Run

namespace Holdout

/-! ### How much there is to measure -/

namespace Reorder

theorem length_insert_le (outcome : Outcome) (held : List Outcome) :
    (insert outcome held).length ≤ held.length + 1 := by
  induction held with
  | nil => exact Nat.le_refl _
  | cons first rest inductionHypothesis =>
    unfold insert
    split
    · exact Nat.le_refl _
    split
    · exact Nat.le_succ _
    · exact Nat.succ_le_succ inductionHypothesis

theorem length_insertAll_le (held chunk : List Outcome) :
    (insertAll held chunk).length ≤ held.length + chunk.length := by
  induction chunk generalizing held with
  | nil => exact Nat.le_refl _
  | cons outcome rest inductionHypothesis =>
    have first := length_insert_le outcome held
    have later := inductionHypothesis (insert outcome held)
    have same : insertAll held (outcome :: rest) = insertAll (insert outcome held) rest := rfl
    rw [same, List.length_cons]
    omega

theorem length_ready (next : Nat) (held : List Outcome) :
    (ready next held).1.length + (ready next held).2.length = held.length := by
  induction held generalizing next with
  | nil => rfl
  | cons first rest inductionHypothesis =>
    unfold ready
    split
    · have := inductionHypothesis (next + 1)
      simp only [List.length_cons]
      omega
    · have := inductionHypothesis next
      simp only [List.length_cons]
      omega

/-- A release makes nothing up. -/
theorem length_release_le (reorder : Reorder) (chunk : List Outcome) :
    (reorder.release chunk).1.length + (reorder.release chunk).2.held.length ≤
      reorder.held.length + chunk.length := by
  have split := length_ready reorder.next (insertAll reorder.held chunk)
  have taken := length_insertAll_le reorder.held chunk
  show (ready reorder.next (insertAll reorder.held chunk)).1.length +
    (ready reorder.next (insertAll reorder.held chunk)).2.length ≤ _
  omega

end Reorder

namespace Metric

theorem length_listMetrics_le (metrics : List Metric) :
    (listMetrics metrics).length ≤ metrics.length := List.length_filterMap_le _ _

theorem length_globalMetrics_le (metrics : List Metric) :
    (globalMetrics metrics).length ≤ metrics.length := List.length_filterMap_le _ _

end Metric

namespace Measuring

variable (measuring : Measuring)

/-- An outcome has a row for every metric at most, or one. -/
theorem length_rows_le {outcomes : List Outcome} {gathered : Gathered}
    (gathers : measuring.gatherAll outcomes = .ok gathered) :
    gathered.rows.length ≤ outcomes.length * (measuring.metrics.length + 1) := by
  have headings := congrArg List.length (measuring.headings_of_gatherAll gathers)
  rw [List.length_map] at headings
  rw [headings]
  clear headings gathers
  induction outcomes with
  | nil => exact Nat.zero_le _
  | cons outcome rest inductionHypothesis =>
    have few := Metric.length_listMetrics_le measuring.metrics
    have one : (outcome.headings measuring.metrics).length ≤ measuring.metrics.length + 1 := by
      unfold Outcome.headings
      split
      · rw [List.length_map]
        omega
      · simp
    rw [List.flatMap_cons, List.length_append, List.length_cons, Nat.succ_mul]
    omega

/-- What taking a chunk in adds to the rows and to what is held back. -/
theorem length_absorb_le {reorder after : Reorder} {chunk : List Outcome} {part : Gathered}
    (absorbs : measuring.absorb reorder chunk = .ok (after, part)) :
    part.rows.length + after.held.length * (measuring.metrics.length + 2) ≤
      (reorder.held.length + chunk.length) * (measuring.metrics.length + 2) := by
  have more (count : Nat) : count * (measuring.metrics.length + 1) ≤
      count * (measuring.metrics.length + 2) := Nat.mul_le_mul_left count (by omega)
  obtain ⟨gathers, rfl⟩ | ⟨gathers, rfl⟩ := measuring.gatherAll_of_absorb absorbs
  · have rows := measuring.length_rows_le gathers
    have room := Nat.mul_le_mul_right (measuring.metrics.length + 2)
      (reorder.length_release_le chunk)
    rw [Nat.add_mul] at room
    have := more (reorder.release chunk).1.length
    omega
  · have rows := measuring.length_rows_le gathers
    have := more chunk.length
    rw [Nat.add_mul]
    omega

end Measuring

/-! ### The moves that are left -/

namespace Task

variable {conditions : Conditions} {position : Nat} {calls : Calls Slot} {task : Task}

/-- Announcing a state is no move of its own. -/
theorem remaining_setState (conditions : Conditions) (task : Task) (state : ConfigState) :
    (task.setState state).remaining conditions = task.remaining conditions := rfl

/-- A configuration that failed has only its rows to hand on. -/
theorem remaining_fail (conditions : Conditions) (task : Task) (failure : ConfigFailure)
    (handed : task.handed ≤ task.rows.length) :
    (task.fail failure).remaining conditions = task.rows.length - task.handed + 1 := by
  rw [fail, remaining_setState]
  simp only [remaining, phaseBound, List.length_append, List.length_singleton]
  omega

theorem remaining_beginScoring (conditions : Conditions) (task : Task) (split : Split)
    (score : Scoring) :
    (task.beginScoring split score).remaining conditions =
      scoringBound conditions split.queries.length + (task.rows.length - task.handed) := by
  have weights : conditions.metrics.length + 3 + 6 = conditions.metrics.length + 9 ∧
      conditions.metrics.length + 3 + 1 = conditions.metrics.length + 4 := by omega
  rw [beginScoring, remaining_setState]
  simp [remaining, phaseBound, scoringBound, Batch.Progress.remaining, Reorder.start, weights]
  omega

theorem remaining_beginTraining (conditions : Conditions) (task : Task) (split : Split) :
    (task.beginTraining split).remaining conditions ≤
      scoringBound conditions split.queries.length + 5 + (task.rows.length - task.handed) := by
  unfold beginTraining
  split
  · simp only [remaining, phaseBound, scoringBound, rows_setState, handed_setState]
    omega
  split
  · simp [remaining, phaseBound]
  · rw [remaining_beginScoring]
    simp only [rows_setState, handed_setState]
    omega

theorem length_enqueue_le {capacity : Nat} {measurer : Measurer} {queue later : List Outcome}
    {outcome : Option Outcome} (sends : enqueue capacity measurer queue outcome = some later) :
    later.length ≤ queue.length + outcome.toList.length := by
  cases outcome with
  | none =>
    cases sends
    exact Nat.le_refl _
  | some outcome =>
    simp only [enqueue] at sends
    split at sends
    · cases sends
      exact Nat.le_succ _
    split at sends
    · cases sends
      rw [List.length_append]
      exact Nat.le_refl _
    · cases sends

/-- Every move of a configuration uses up one of those that are left. -/
theorem remaining_moved {move : TaskMove} {later : Calls Slot} {after : Task}
    (handed : task.handed ≤ task.rows.length)
    (moved : Moved conditions position calls task move later after) :
    after.remaining conditions + later.ongoing.length <
      task.remaining conditions + calls.ongoing.length := by
  cases moved with
  | begins phase signal =>
    simp only [remaining, phaseBound, phase]
    split <;> omega
  | refuses phase signal =>
    rw [remaining_fail _ _ _ handed]
    simp only [remaining, phaseBound, phase]
    split <;> omega
  | loadingCrashes crash phase result =>
    rw [remaining_fail _ _ _ handed, Calls.ongoing_cancelIf]
    simp only [remaining, phaseBound, phase, result]
    omega
  | loadingFails error phase result =>
    rw [remaining_fail _ _ _ handed, Calls.ongoing_cancelIf]
    simp only [remaining, phaseBound, phase, result]
    omega
  | loads split phase result =>
    have bound := remaining_beginTraining conditions task split
    rw [Calls.ongoing_cancelIf]
    simp only [remaining, phaseBound, phase, result] at bound ⊢
    omega
  | trains split scorer asking later phase asks =>
    have names := congrArg List.length (Calls.names_of_granted asks)
    simp only [Calls.names, List.length_map, List.length_cons] at names
    simp only [remaining, phaseBound, phase, names]
    split <;> omega
  | trainingRefused split scorer asking later phase asks =>
    rw [remaining_fail _ _ _ handed, Calls.ongoing_of_not_granted asks (by decide)]
    simp only [remaining, phaseBound, phase]
    split <;> omega
  | waits split scorer later phase asks =>
    rw [Calls.ongoing_of_not_granted asks (by decide)]
    simp [remaining, phaseBound, phase]
  | trainingCrashes split scorer crash phase returned result
  | trainingFails split scorer error phase returned result =>
    rw [remaining_fail _ _ _ handed]
    simp only [remaining, phaseBound, phase]
    omega
  | fits split scorer score phase returned result =>
    rw [remaining_beginScoring]
    simp only [remaining, phaseBound, phase]
    omega
  | batches split score progress queue later measurer move advance phase advances sends =>
    have fewer := Batch.remaining_advance (conditions.metrics.length + 3) advances
    have queued : later.length * (conditions.metrics.length + 3) ≤
        queue.length * (conditions.metrics.length + 3) +
          advance.sent.toList.length * (conditions.metrics.length + 3) := by
      rw [← Nat.add_mul]
      exact Nat.mul_le_mul_right _ (length_enqueue_le sends)
    simp only [remaining, phaseBound, phase]
    omega
  | measures split score progress queue reorder after gathered part count phase some few enough
      absorbs =>
    have room := Measuring.length_absorb_le _ absorbs
    have queued : queue.length * (conditions.metrics.length + 3) =
        (queue.length - count) * (conditions.metrics.length + 3) +
          count * (conditions.metrics.length + 2) + count := by
      rw [← Nat.sub_add_cancel enough, Nat.add_mul, Nat.add_sub_cancel]
      simp only [Nat.mul_add]
      omega
    simp only [Conditions.measuring, List.length_take, Nat.min_eq_left enough,
      Nat.add_mul] at room
    simp only [remaining, phaseBound, phase, List.length_append, List.length_drop]
    omega
  | measuringCrashes split score progress queue reorder gathered count crash phase some few enough
      absorbs =>
    simp only [remaining, phaseBound, phase, List.length_nil, Nat.zero_mul]
    omega
  | flushes split score progress reorder gathered part phase done finishes =>
    have rows := Measuring.length_rows_le _ ((Measuring.measureChunk_eq _ _).symm.trans finishes)
    have more : reorder.held.length * (conditions.metrics.length + 1) ≤
        reorder.held.length * (conditions.metrics.length + 2) :=
      Nat.mul_le_mul_left _ (by omega)
    simp only [Conditions.measuring] at rows
    simp only [remaining, phaseBound, phase, List.length_append]
    omega
  | flushingCrashes split score progress reorder gathered crash phase done finishes =>
    simp only [remaining, phaseBound, phase]
    omega
  | concludesCrash split score progress queue crash phase done =>
    rw [remaining_fail _ _ _ handed]
    simp only [remaining, phaseBound, phase]
    omega
  | concludesCancelled split score progress queue gathered phase done signal =>
    rw [remaining_fail conditions { task with report := { task.report with
      scored := gathered.scored, failed := gathered.failed } } _ handed]
    simp only [remaining, phaseBound, phase]
    omega
  | concludes split score progress queue gathered phase done signal =>
    rw [remaining_setState]
    simp only [remaining, phaseBound, phase]
    omega
  | aggregatingCrashes gathered crash takes phase measures =>
    rw [remaining_fail _ _ _ handed]
    simp only [remaining, phaseBound, phase]
    omega
  | aggregates gathered analysis takes phase measures =>
    have headings := congrArg List.length
      (Gathered.headings_of_analysis task.report.key measures)
    have few := Metric.length_globalMetrics_le conditions.metrics
    rw [List.length_map, List.length_map, List.length_map] at headings
    rw [remaining_setState]
    simp only [remaining, phaseBound, phase, List.length_append, List.length_map]
    omega

end Task

namespace Run

variable {conditions : Conditions} {configurations : List Configuration} {run after : Run}

/-- What configurations have left of which one was exchanged. -/
theorem remainingOf_set (conditions : Conditions) (new : Task) {tasks : List Task} {position : Nat}
    {old : Task} (present : tasks[position]? = some old) :
    remainingOf conditions (tasks.set position new) + old.remaining conditions =
      remainingOf conditions tasks + new.remaining conditions := by
  induction tasks generalizing position with
  | nil => cases present
  | cons task rest inductionHypothesis =>
    cases position with
    | zero =>
      obtain rfl : task = old := Option.some.inj present
      simp only [List.set_cons_zero, remainingOf]
      omega
    | succ position =>
      have there : rest[position]? = some old := present
      have later := inductionHypothesis there
      simp only [List.set_cons_succ, remainingOf]
      omega

/-- Whoever cancels the run can do so once. -/
theorem uncut_le {before after : Calls Slot}
    (signal : before.cancelled = true → after.cancelled = true) :
    (if after.cancelled = true then 0 else 1) ≤ if before.cancelled = true then 0 else 1 := by
  cases cut : before.cancelled with
  | true => simp [signal cut]
  | false => split <;> simp

/-- Every move of a run uses up one of those that are left. -/
theorem remaining_step {move : RunMove} (kept : Kept conditions configurations run)
    (moves : run.step conditions move = some after) :
    after.remaining conditions < run.remaining conditions := by
  cases stepped_of_step moves with
  | task position move task later calls present admitted moved =>
    have handed := kept.handed position task present
    have fewer := Task.remaining_moved handed moved
    have sum := remainingOf_set conditions later present
    have signal := Task.cancelled_moved (kept.travels position task present)
      (kept.linked position task present) moved
    have flag := uncut_le signal
    simp only [remaining, tasks_replace]
    omega
  | finish slot calls ends =>
    have fewer := Calls.length_ongoing_of_finish ends
    have flag := uncut_le (Calls.cancelled_of_finish ends)
    simp only [remaining]
    omega
  | hand position task row present next =>
    have sum := remainingOf_set conditions { task with handed := task.handed + 1 } present
    have below := (List.getElem?_eq_some_iff.mp next).1
    have fewer : Task.remaining conditions { task with handed := task.handed + 1 } + 1 =
        task.remaining conditions := by
      simp only [Task.remaining, Task.phaseBound]
      omega
    simp only [remaining]
    omega
  | settle position task crash present phase through first =>
    have handed := kept.handed position task present
    have sum := remainingOf_set conditions (task.failCrashed crash) present
    have fewer : (task.failCrashed crash).remaining conditions + 1 =
        task.remaining conditions := by
      have ended := Task.remaining_fail conditions
        { task with report := ConfigReport.fresh task.configuration.key }
        ⟨.scoring, .crashed crash⟩ handed
      rw [Task.failCrashed, ended]
      simp only [Task.remaining, Task.phaseBound, phase]
      omega
    rw [remaining, tasks_replace, calls_replace, remaining]
    omega
  | cancel uncut =>
    have before : (if run.calls.cancelled = true then 0 else 1) = 1 := by simp [uncut]
    simp only [remaining, before, Calls.cancelled_cancel, if_true]
    exact Nat.lt_succ_self _

/-- No run makes more moves than were left at its begin. -/
theorem remaining_follow {moves : List RunMove} (kept : Kept conditions configurations run)
    (follows : run.follow conditions moves = some after) :
    after.remaining conditions + moves.length ≤ run.remaining conditions := by
  have bound := Steps.remaining_follow (Kept conditions configurations) (fun _ => true)
    (remaining conditions)
    (fun stays moves => ⟨kept_step stays moves, remaining_step stays moves⟩) kept follows
  simpa using bound

end Run

/-! ### No standstill -/

namespace Task

variable {conditions : Conditions} {position : Nat} {calls : Calls Slot} {task : Task}

/-- Whether a configuration waits for a slot that it asked for. -/
def Waits (position : Nat) (calls : Calls Slot) : Prop :=
  ∃ part cancels later, (position, part) ∈ calls.budget.wishes ∧
    calls.ask (position, part) cancels = (.waiting, later)

/-- Whether a configuration can make one of the moves that it tries. -/
def CanMove (conditions : Conditions) (position : Nat) (calls : Calls Slot) (task : Task) : Prop :=
  ∃ move ∈ task.options, ∃ after, task.move conditions position calls move = some after

/-- Only a configuration that is worked on wishes for a slot, and for one at a time. -/
theorem active_of_wishes {part : Option Nat} (linked : task.Linked position calls)
    (wishes : (position, part) ∈ calls.budget.wishes) : task.isActive = true := by
  unfold Linked at linked
  unfold isActive
  split at linked
  · exact absurd wishes (linked part).2
  · exact absurd wishes (linked part).2
  all_goals rename_i phase
  · simp [phase]
  · exact absurd wishes (linked part).2
  · simp [phase]
  all_goals exact absurd wishes (linked part)

theorem wishes_unique {first second : Option Nat} (linked : task.Linked position calls)
    (here : (position, first) ∈ calls.budget.wishes)
    (there : (position, second) ∈ calls.budget.wishes) : first = second := by
  unfold Linked at linked
  split at linked
  · exact absurd here (linked first).2
  · exact absurd here (linked first).2
  · exact ((linked first).2.mp here).1.trans ((linked second).2.mp there).1.symm
  · exact absurd here (linked first).2
  · cases first with
    | none => exact absurd here linked.2
    | some index =>
      cases second with
      | none => exact absurd there linked.2
      | some other =>
        rw [((linked.1.wishing index).mp here).1, ((linked.1.wishing other).mp there).1]
  all_goals exact absurd here (linked first)

theorem can_ask {split : Split} {scorer : Scorer} {asking : Bool}
    (phase : task.phase = .training split scorer asking) (linked : task.Linked position calls) :
    task.CanMove conditions position calls ∨ Waits position calls := by
  unfold Linked at linked
  simp only [phase] at linked
  generalize asks : calls.ask (position, none) (scorer.train split.train).cancels = result
  obtain ⟨answer, later⟩ := result
  have option : TaskMove.ask ∈ task.options := by simp [options, phase]
  have answered := Calls.asked_of_ask asks
  cases answered with
  | granted =>
    exact Or.inl ⟨.ask, option, _, by simp only [Task.move, ask, phase, asks]; rfl⟩
  | refused =>
    exact Or.inl ⟨.ask, option, _, by simp only [Task.move, ask, phase, asks]; rfl⟩
  | waiting =>
    cases first : asking with
    | false =>
      refine Or.inl ⟨.ask, option, ?_⟩
      simp only [Task.move, ask, phase, asks, first, Bool.false_eq_true, if_false]
      exact ⟨_, rfl⟩
    | true => exact Or.inr ⟨none, _, _, (linked none).2.mpr ⟨rfl, first⟩, asks⟩

/-- A queue with outcomes in it can be worked on if somebody takes them. -/
theorem can_measure {split : Split} {score : Scoring} {progress : Batch.Progress}
    {queue : List Outcome} {reorder : Reorder} {gathered : Gathered}
    (phase : task.phase = .scoring split score progress queue (.working reorder gathered))
    (some : 0 < queue.length) : task.CanMove conditions position calls := by
  refine ⟨.measure (min queue.length Measuring.chunkSize), by simp [options, phase], ?_⟩
  have possible : 0 < min queue.length Measuring.chunkSize ∧
      min queue.length Measuring.chunkSize ≤ Measuring.chunkSize ∧
      min queue.length Measuring.chunkSize ≤ queue.length := by
    refine ⟨Nat.lt_min.mpr ⟨some, by decide⟩, Nat.min_le_right _ _, Nat.min_le_left _ _⟩
  simp only [Task.move, measure, phase, if_pos possible]
  exact ⟨_, rfl⟩

/-- An outcome has to wait only where there are others to be measured. -/
theorem full_of_enqueue {capacity : Nat} {measurer : Measurer} {queue : List Outcome}
    {outcome : Option Outcome} (refuses : enqueue capacity measurer queue outcome = none) :
    capacity ≤ queue.length ∧ ∀ crash, measurer ≠ .crashed crash := by
  cases outcome with
  | none => cases refuses
  | some outcome =>
    simp only [enqueue] at refuses
    split at refuses
    · cases refuses
    rename_i working
    split at refuses
    · cases refuses
    rename_i full
    exact ⟨Nat.le_of_not_lt full, fun crash crashed => working crash crashed⟩

/-- A configuration whose batch is through can go on to its end. -/
theorem can_close {split : Split} {score : Scoring} {progress : Batch.Progress}
    {queue : List Outcome} {measurer : Measurer}
    (phase : task.phase = .scoring split score progress queue measurer)
    (done : progress.isDone split.queries = true) : task.CanMove conditions position calls := by
  cases measurer with
  | working reorder gathered =>
    cases queued : queue with
    | nil =>
      rw [queued] at phase
      refine ⟨.flush, by simp [options, phase], ?_⟩
      simp only [Task.move, flush, phase, done, if_true]
      exact ⟨_, rfl⟩
    | cons outcome rest => exact can_measure phase (by simp [queued])
  | finished gathered | crashed crash =>
    refine ⟨.conclude, by simp [options, phase], ?_⟩
    simp only [Task.move, conclude, phase, done, if_true]
    exact ⟨_, rfl⟩

/-- A configuration whose queries are scored can make a move, unless a query waits for its slot. -/
theorem can_score {split : Split} {score : Scoring} {progress : Batch.Progress}
    {queue : List Outcome} {measurer : Measurer}
    (phase : task.phase = .scoring split score progress queue measurer)
    (room : 0 < conditions.capacity) (travels : task.Travels conditions)
    (linked : task.Linked position calls)
    (returned : ∀ part, (position, part) ∉ calls.names) :
    task.CanMove conditions position calls ∨ Waits position calls := by
  unfold Linked at linked
  simp only [phase] at linked
  obtain ⟨sent, ready, accounted, taken⟩ := scoring_of_travels travels phase
  by_cases done : progress.isDone split.queries = true
  · exact Or.inl (can_close phase done)
  have unfinished := Bool.eq_false_iff.mpr done
  have quiet : ∀ index ∈ progress.running, slots position index ∉ calls.names :=
    fun index _ => returned _
  obtain ⟨move, option, after, advances⟩ | ⟨asking, cancels, later, asks⟩ :=
    Batch.can_advance accounted quiet unfinished
  · cases sends : enqueue conditions.capacity measurer queue after.sent with
    | some later =>
      refine Or.inl ⟨.batch move, ?_, ?_⟩
      · simp only [options, phase]
        exact List.mem_append_left _ (List.mem_map_of_mem option)
      · have advanced : (conditions.batch split).advance score split.queries
            (fun index => (position, some index)) calls progress move = some after := advances
        simp only [Task.move, advance, phase, advanced, sends]
        exact ⟨_, rfl⟩
    | none =>
      -- The queue is full, so there is something in it to be measured.
      obtain ⟨full, working⟩ := full_of_enqueue sends
      cases measurer with
      | working reorder gathered => exact Or.inl (can_measure phase (by omega))
      | finished gathered =>
        rw [unfinished] at taken
        generalize task.rows = rows at taken
        cases taken with
        | finished _ _ _ all => cases all
      | crashed crash => exact absurd rfl (working crash)
  · exact Or.inr ⟨some progress.next, cancels, later,
      (linked.1.wishing progress.next).mpr ⟨rfl, asking⟩, asks⟩

/-- A configuration that is worked on and has no call under way can make a move, unless it waits for
a slot. -/
theorem can_move (active : task.isActive = true) (room : 0 < conditions.capacity)
    (travels : task.Travels conditions) (linked : task.Linked position calls)
    (returned : ∀ part, (position, part) ∉ calls.names) :
    task.CanMove conditions position calls ∨ Waits position calls := by
  cases phase : task.phase with
  | pending | crashed | ended => simp [isActive, phase] at active
  | loading =>
    exact Or.inl ⟨.load, by simp [options, phase], by simp [Task.move, load, phase]⟩
  | training split scorer asking => exact can_ask phase linked
  | fitting split scorer =>
    exact Or.inl ⟨.fit, by simp [options, phase],
      by simp [Task.move, fit, phase, returned none]⟩
  | scoring split score progress queue measurer =>
    exact can_score phase room travels linked returned
  | scored gathered =>
    exact Or.inl ⟨.aggregate ⟨0⟩, by simp [options, phase], by simp [Task.move, aggregate, phase]⟩

end Task

namespace Run

variable {conditions : Conditions} {configurations : List Configuration} {run : Run}

/-- Whether a run can make one of the moves that it tries. -/
def CanStep (conditions : Conditions) (run : Run) : Prop :=
  ∃ move ∈ run.options, ∃ after, run.step conditions move = some after

theorem canStep_of_canMove {position : Nat} {task : Task}
    (present : run.tasks[position]? = some task) (active : task.isActive = true)
    (moves : task.CanMove conditions position run.calls) : run.CanStep conditions := by
  obtain ⟨move, option, after, moves⟩ := moves
  have admitted : run.admits conditions move = true := by
    cases move with
    | start =>
      unfold Task.options at option
      unfold Task.isActive at active
      split at option <;> simp_all
    | _ => rfl
  refine ⟨.task position move, ?_, { run.replace position task after.2 with calls := after.1 }, ?_⟩
  · refine List.mem_append_left _ (List.mem_append_right _ (List.mem_flatMap.mpr ?_))
    exact ⟨(task, position), List.mem_zipIdx_iff_getElem?.mpr present,
      List.mem_map_of_mem option⟩
  · simp only [step, moveTask, present, admitted, if_true, moves, Option.map_some]

/-- A call that goes on can return. -/
theorem canStep_of_call {slot : Slot} (member : slot ∈ run.calls.names) :
    run.CanStep conditions := by
  obtain ⟨calls, ends⟩ := Option.isSome_iff_exists.mp (Calls.finish_isSome member)
  refine ⟨.finish slot, ?_, { run with calls }, by simp only [step, ends, Option.map_some]⟩
  exact List.mem_append_left _ (List.mem_append_left _ (List.mem_append_right _
    (List.mem_map_of_mem member)))

/-- If no call goes on and a configuration is worked on, then some configuration can make a move: if
one waits, the slots are given to others that have not taken them yet. -/
theorem canStep_of_active (kept : Kept conditions configurations run)
    (room : 0 < conditions.capacity) (quiet : run.calls.names = []) {position : Nat} {task : Task}
    (present : run.tasks[position]? = some task) (active : task.isActive = true) :
    run.CanStep conditions := by
  have returned (position : Nat) (part : Option Nat) : (position, part) ∉ run.calls.names := by
    simp [quiet]
  obtain moves | ⟨part, cancels, later, wishes, asks⟩ :=
    Task.can_move active room (kept.travels position task present)
      (kept.linked position task present) (returned position)
  · exact canStep_of_canMove present active moves
  obtain ⟨full, -⟩ := Calls.taken_of_waiting kept.sound asks wishes
  have nobody : run.calls.budget.held = [] := List.eq_nil_iff_forall_not_mem.mpr fun slot held => by
    have calling := (kept.sound.held slot trivial).mp held
    rw [quiet] at calling
    cases calling
  have positive := kept.positive
  rw [nobody, List.length_nil, Nat.add_zero] at full
  obtain ⟨slot, assigned⟩ := List.exists_mem_of_length_pos (l := run.calls.budget.assigned)
    (by omega)
  have wish : (slot.1, slot.2) ∈ run.calls.budget.wishes := List.mem_append_right _ assigned
  have below := kept.wished slot wish
  have there := List.getElem?_eq_getElem below
  generalize run.tasks[slot.1] = other at there
  have linked := kept.linked slot.1 other there
  have otherActive := Task.active_of_wishes linked wish
  obtain moves | ⟨otherPart, otherCancels, otherLater, otherWishes, otherAsks⟩ :=
    Task.can_move otherActive room (kept.travels slot.1 other there) linked (returned slot.1)
  · exact canStep_of_canMove there otherActive moves
  · have same : slot = (slot.1, otherPart) :=
      Prod.ext rfl (Task.wishes_unique linked wish otherWishes)
    rw [same] at assigned
    exact absurd assigned (Calls.taken_of_waiting kept.sound otherAsks otherWishes).2

theorem option_of_position {position : Nat} {task : Task}
    (present : run.tasks[position]? = some task) :
    .hand position ∈ run.options ∧ .settle position ∈ run.options := by
  have inside : position ∈ List.range run.tasks.length :=
    List.mem_range.mpr (List.getElem?_eq_some_iff.mp present).1
  constructor
  · exact List.mem_append_left _ (List.mem_append_left _ (List.mem_append_left _
      (List.mem_map_of_mem inside)))
  · exact List.mem_append_right _ (List.mem_map_of_mem inside)

/-- A row that has not gone to the sink can go there. -/
theorem canStep_of_rows {position : Nat} {task : Task}
    (present : run.tasks[position]? = some task) (some : task.handed < task.rows.length) :
    run.CanStep conditions := by
  refine ⟨.hand position, (option_of_position present).1, ?_⟩
  simp only [step, hand, present, List.getElem?_eq_getElem some]
  exact ⟨_, rfl⟩

/-- If nobody is worked on, then somebody whose turn has not come can begin. -/
theorem canStep_of_pending (places : 0 < conditions.configsAtOnce)
    (idle : ∀ task ∈ run.tasks, task.isActive = false) {position : Nat} {task : Task}
    (present : run.tasks[position]? = some task) (phase : task.phase = .pending) :
    run.CanStep conditions := by
  have nobody : run.tasks.countP Task.isActive = 0 :=
    List.countP_eq_zero.mpr fun task member => by simp [idle task member]
  refine ⟨.task position .start, ?_, ?_⟩
  · refine List.mem_append_left _ (List.mem_append_right _ (List.mem_flatMap.mpr ?_))
    refine ⟨(task, position), List.mem_zipIdx_iff_getElem?.mpr present, List.mem_map_of_mem ?_⟩
    simp [Task.options, phase]
  · simp only [step, moveTask, present, admits, nobody, places, decide_true, if_true, Task.move,
      Task.begin, phase, Option.map_some]
    exact ⟨_, rfl⟩

/-- The first task of a kind. -/
theorem exists_first {tasks : List Task} {kind : Task → Bool} (some : tasks.any kind = true) :
    ∃ position task, tasks[position]? = .some task ∧ kind task = true ∧
      ∀ earlier ∈ tasks.take position, kind earlier = false := by
  induction tasks with
  | nil => cases some
  | cons task rest inductionHypothesis =>
    cases here : kind task with
    | true => exact ⟨0, task, rfl, here, by simp⟩
    | false =>
      rw [List.any_cons, here, Bool.false_or] at some
      obtain ⟨position, found, present, isKind, before⟩ := inductionHypothesis some
      refine ⟨position + 1, found, present, isKind, fun earlier member => ?_⟩
      rcases List.mem_cons.mp member with rfl | later
      · exact here
      · exact before earlier later

/-- If everybody is through, then the first crash that was not reported can be. -/
theorem canStep_of_crash (through : run.tasks.all Task.isThrough = true)
    (some : run.tasks.any (fun task => task.crash?.isSome) = true) : run.CanStep conditions := by
  obtain ⟨position, task, present, isCrash, before⟩ := exists_first some
  obtain ⟨crash, found⟩ := Option.isSome_iff_exists.mp isCrash
  have first : (run.tasks.take position).all (·.crash?.isNone) = true :=
    List.all_eq_true.mpr fun earlier member => by
      simpa using before earlier member
  refine ⟨.settle position, (option_of_position present).2, ?_⟩
  simp only [step, settle, present, found, through, first, and_self, if_true]
  exact ⟨_, rfl⟩

/-- As long as a configuration is not through or a row has not gone to the sink, a run can make one
of the moves that it tries. -/
theorem can_step (kept : Kept conditions configurations run) (room : 0 < conditions.capacity)
    (places : 0 < conditions.configsAtOnce) (unfinished : run.isOver = false) :
    run.CanStep conditions := by
  by_contra stuck
  have quiet : run.calls.names = [] :=
    List.eq_nil_iff_forall_not_mem.mpr fun slot member => stuck (canStep_of_call member)
  have position_of {task : Task} (member : task ∈ run.tasks) :
      ∃ position, run.tasks[position]? = some task := List.getElem?_of_mem member
  have idle : ∀ task ∈ run.tasks, task.isActive = false := fun task member => by
    obtain ⟨position, present⟩ := position_of member
    exact Bool.eq_false_iff.mpr fun active =>
      stuck (canStep_of_active kept room quiet present active)
  have through : run.tasks.all Task.isThrough = true := List.all_eq_true.mpr fun task member => by
    obtain ⟨position, present⟩ := position_of member
    have notActive := idle task member
    have notPending : task.phase ≠ .pending := fun phase =>
      stuck (canStep_of_pending places idle present phase)
    unfold Task.isActive at notActive
    unfold Task.isThrough
    split at notActive <;> simp_all
  have settled : ∀ task ∈ run.tasks, task.crash? = none := fun task member => by
    cases found : task.crash? with
    | none => rfl
    | some crash =>
      refine absurd (canStep_of_crash through ?_) stuck
      exact List.any_eq_true.mpr ⟨task, member, by simp [found]⟩
  have isOver : run.isOver = true := List.all_eq_true.mpr fun task member => by
    obtain ⟨position, present⟩ := position_of member
    have isThrough := List.all_eq_true.mp through task member
    have noCrash := settled task member
    have handed : task.rows.length ≤ task.handed := by
      by_contra some
      exact stuck (canStep_of_rows present (Nat.lt_of_not_le some))
    unfold Task.isThrough at isThrough
    unfold Task.crash? at noCrash
    unfold Task.isOver
    split at isThrough <;> simp_all
  rw [isOver] at unfinished
  cases unfinished

/-! ### Runs in turn -/

/-- A run in turn makes moves that it tries, and stops where none of them is possible. -/
theorem follow_inTurn (kept : Kept conditions configurations run) :
    (∃ moves, run.follow conditions moves = some (run.inTurn conditions) ∧
      ∀ move ∈ moves, ∃ now : Run, move ∈ now.options) ∧
      ∀ move ∈ (run.inTurn conditions).options,
        (run.inTurn conditions).step conditions move = none :=
  Steps.follow_inTurn (Kept conditions configurations) (remaining conditions)
    (fun stays _ moves => ⟨kept_step stays moves, remaining_step stays moves⟩) kept (Nat.le_refl _)

/-- A run in turn is one of the possible runs, and comes to its end. -/
theorem isOver_inTurn (kept : Kept conditions configurations run) (room : 0 < conditions.capacity)
    (places : 0 < conditions.configsAtOnce) :
    (∃ moves, run.follow conditions moves = some (run.inTurn conditions)) ∧
      (run.inTurn conditions).isOver = true := by
  obtain ⟨⟨moves, follows, -⟩, stops⟩ := follow_inTurn kept
  refine ⟨⟨moves, follows⟩, ?_⟩
  by_contra unfinished
  obtain ⟨move, option, after, possible⟩ :=
    can_step (kept_follow kept follows) room places (Bool.eq_false_iff.mpr unfinished)
  rw [stops move option] at possible
  cases possible

end Run

end Holdout
