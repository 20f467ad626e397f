/-
This file proves what holds at all times while a run goes on, whatever moves its configurations make
and in which order: every configuration has behind it what its phase says, the slots are accounted
for, and once the run is cancelled it stays so and begins no call.
-/

import Holdout.Experiment.Evaluator
import Holdout.Proofs.Steps
import Holdout.Proofs.Task

namespace Holdout

/-- Putting an element where it stands already changes nothing. -/
theorem set_of_getElem? {Element : Type} {elements : List Element} {position : Nat}
    {element : Element} (present : elements[position]? = some element) :
    elements.set position element = elements := by
  obtain ⟨below, rfl⟩ := List.getElem?_eq_some_iff.mp present
  exact List.set_getElem_self below

namespace Run

variable {conditions : Conditions} {configurations : List Configuration} {run after : Run}

/-! ### What a move can do -/

/-- The moves of a run, with what each of them needs and changes. -/
inductive Stepped (conditions : Conditions) (run : Run) : RunMove → Run → Prop where
  | task (position : Nat) (move : TaskMove) (task later : Task) (calls : Calls Slot)
      (present : run.tasks[position]? = some task)
      (admitted : run.admits conditions move = true)
      (moved : Task.Moved conditions position run.calls task move calls later) :
      Stepped conditions run (.task position move)
        { run.replace position task later with calls }
  | finish (slot : Slot) (calls : Calls Slot) (ends : run.calls.finish slot = some calls) :
      Stepped conditions run (.finish slot) { run with calls }
  | hand (position : Nat) (task : Task) (row : Row) (present : run.tasks[position]? = some task)
      (next : task.rows[task.handed]? = some row) :
      Stepped conditions run (.hand position)
        { run with
          tasks := run.tasks.set position { task with handed := task.handed + 1 }
          log := run.log ++ [row] }
  | settle (position : Nat) (task : Task) (crash : Crash)
      (present : run.tasks[position]? = some task) (phase : task.phase = .crashed crash)
      (through : run.tasks.all Task.isThrough = true)
      (first : (run.tasks.take position).all (·.crash?.isNone) = true) :
      Stepped conditions run (.settle position)
        (run.replace position task (task.failCrashed crash))
  | cancel (uncut : run.calls.cancelled = false) :
      Stepped conditions run .cancel { run with calls := run.calls.cancel }

theorem stepped_of_step {move : RunMove} (moves : run.step conditions move = some after) :
    Stepped conditions run move after := by
  cases move with
  | task position move =>
    simp only [step, moveTask] at moves
    split at moves
    · cases moves
    rename_i task present
    split at moves
    · rename_i admitted
      obtain ⟨result, taskMoves, rfl⟩ := Option.map_eq_some_iff.mp moves
      exact .task position move task result.2 result.1 present admitted
        (Task.moved_of_move taskMoves)
    · cases moves
  | finish slot =>
    obtain ⟨calls, ends, rfl⟩ := Option.map_eq_some_iff.mp moves
    exact .finish slot calls ends
  | hand position =>
    simp only [step, hand] at moves
    split at moves
    · cases moves
    rename_i task present
    split at moves
    · cases moves
    rename_i row next
    cases moves
    exact .hand position task row present next
  | settle position =>
    simp only [step, settle] at moves
    split at moves
    · cases moves
    rename_i task present
    split at moves
    · cases moves
    rename_i crash found
    split at moves
    · rename_i possible
      cases moves
      have phase : task.phase = .crashed crash := by
        unfold Task.crash? at found
        split at found
        · rename_i same
          rw [same, Option.some.inj found]
        · cases found
      exact .settle position task crash present phase possible.1 possible.2
    · cases moves
  | cancel =>
    simp only [step] at moves
    split at moves
    · cases moves
    rename_i uncut
    cases moves
    exact .cancel (Bool.eq_false_iff.mpr uncut)

/-! ### What always holds -/

/-- What holds at all times while a run of some configurations goes on. -/
structure Kept (conditions : Conditions) (configurations : List Configuration) (run : Run) :
    Prop where
  sound : run.calls.Sound Task.everybody
  positive : 0 < run.calls.budget.size
  same : run.tasks.map Task.configuration = configurations
  travels : ∀ (position : Nat) (task : Task), run.tasks[position]? = some task →
    task.Travels conditions
  linked : ∀ (position : Nat) (task : Task), run.tasks[position]? = some task →
    task.Linked position run.calls
  /-- Only configurations wish for slots. -/
  wished : ∀ slot ∈ run.calls.budget.wishes, slot.1 < run.tasks.length
  handed : ∀ (position : Nat) (task : Task), run.tasks[position]? = some task →
    task.handed ≤ task.rows.length

theorem kept_start (conditions : Conditions) (cancelled : Bool)
    (configurations : List Configuration) :
    Kept conditions configurations (start conditions cancelled configurations) := by
  have task_start {position : Nat} {task : Task}
      (present : (start conditions cancelled configurations).tasks[position]? = some task) :
      ∃ configuration, task = Task.start configuration := by
    obtain ⟨configuration, -, rfl⟩ := List.mem_map.mp (List.mem_of_getElem? present)
    exact ⟨configuration, rfl⟩
  have nobody : (start conditions cancelled configurations).calls.budget.wishes = [] := rfl
  refine ⟨Calls.sound_ofSize _ _, Nat.le_max_right _ _, ?_, fun position task present => ?_,
    fun position task present => ?_, fun slot member => ?_, fun position task present => ?_⟩
  · simp [start, Function.comp_def, Task.start]
  · obtain ⟨configuration, rfl⟩ := task_start present
    exact Task.travels_start conditions configuration
  · obtain ⟨configuration, rfl⟩ := task_start present
    exact fun part => ⟨List.not_mem_nil, by rw [nobody]; exact List.not_mem_nil⟩
  · rw [nobody] at member
    cases member
  · obtain ⟨configuration, rfl⟩ := task_start present
    exact Nat.le_refl _

/-- The task at a position of a list in which one was exchanged. -/
theorem getElem?_set_cases {tasks : List Task} {position other : Nat} {old new found : Task}
    (present : tasks[position]? = some old)
    (there : (tasks.set position new)[other]? = some found) :
    (other = position ∧ found = new) ∨ (other ≠ position ∧ tasks[other]? = some found) := by
  by_cases same : other = position
  · subst same
    rw [List.getElem?_set_self (List.getElem?_eq_some_iff.mp present).1] at there
    exact Or.inl ⟨rfl, (Option.some.inj there).symm⟩
  · rw [List.getElem?_set_ne (Ne.symm same)] at there
    exact Or.inr ⟨same, there⟩

/-- What becomes of a task when one is exchanged. -/
theorem getElem?_set_of_getElem? (new : Task) {tasks : List Task} {position other : Nat}
    {old found : Task} (present : tasks[position]? = some old)
    (there : tasks[other]? = some found) :
    (other = position ∧ found = old ∧ (tasks.set position new)[other]? = some new) ∨
      (other ≠ position ∧ (tasks.set position new)[other]? = some found) := by
  by_cases same : other = position
  · subst same
    exact Or.inl ⟨rfl, Option.some.inj (there.symm.trans present),
      List.getElem?_set_self (List.getElem?_eq_some_iff.mp present).1⟩
  · exact Or.inr ⟨same, (List.getElem?_set_ne (Ne.symm same)).trans there⟩

theorem map_configuration_set {tasks : List Task} {position : Nat} {old new : Task}
    (present : tasks[position]? = some old) (same : new.configuration = old.configuration) :
    (tasks.set position new).map Task.configuration = tasks.map Task.configuration := by
  rw [List.map_set, same]
  exact set_of_getElem? (by rw [List.getElem?_map, present]; rfl)

/-- One configuration goes on, and leaves the others their slots. -/
theorem kept_set (later : Task) {position : Nat} {task : Task} {calls : Calls Slot} {log : List Row}
    {states : States} (kept : Kept conditions configurations run)
    (present : run.tasks[position]? = some task)
    (sound : calls.Sound Task.everybody) (size : calls.budget.size = run.calls.budget.size)
    (same : later.configuration = task.configuration)
    (travels : later.Travels conditions) (linked : later.Linked position calls)
    (handed : later.handed ≤ later.rows.length)
    (signal : run.calls.cancelled = true → calls.cancelled = true)
    (others : ∀ slot : Slot, slot.1 ≠ position → (slot ∈ calls.names ↔ slot ∈ run.calls.names) ∧
      (slot ∈ calls.budget.wishes ↔ slot ∈ run.calls.budget.wishes)) :
    Kept conditions configurations ⟨calls, run.tasks.set position later, log, states⟩ where
  sound := sound
  positive := size ▸ kept.positive
  same := (map_configuration_set present same).trans kept.same
  travels := fun other found there => by
    obtain ⟨-, rfl⟩ | ⟨-, before⟩ := getElem?_set_cases present there
    · exact travels
    · exact kept.travels other found before
  linked := fun other found there => by
    obtain ⟨rfl, rfl⟩ | ⟨different, before⟩ := getElem?_set_cases present there
    · exact linked
    · exact (kept.linked other found before).of_others signal
        (fun part => (others (other, part) different).1.mp)
        fun part => (others (other, part) different).2
  wished := fun slot member => by
    rw [List.length_set]
    by_cases here : slot.1 = position
    · rw [here]
      exact (List.getElem?_eq_some_iff.mp present).1
    · exact kept.wished slot ((others slot here).2.mp member)
  handed := fun other found there => by
    obtain ⟨-, rfl⟩ | ⟨-, before⟩ := getElem?_set_cases present there
    · exact handed
    · exact kept.handed other found before

/-- Nothing changes but the slots, and nobody comes to use or to want one. -/
theorem kept_calls {calls : Calls Slot} (kept : Kept conditions configurations run)
    (sound : calls.Sound Task.everybody) (size : calls.budget.size = run.calls.budget.size)
    (signal : run.calls.cancelled = true → calls.cancelled = true)
    (names : ∀ slot, slot ∈ calls.names → slot ∈ run.calls.names)
    (wishes : ∀ slot, slot ∈ calls.budget.wishes ↔ slot ∈ run.calls.budget.wishes) :
    Kept conditions configurations { run with calls } where
  sound := sound
  positive := size ▸ kept.positive
  same := kept.same
  travels := kept.travels
  linked := fun position task present => (kept.linked position task present).of_others signal
    (fun part => names (position, part)) fun part => wishes (position, part)
  wished := fun slot member => kept.wished slot ((wishes slot).mp member)
  handed := kept.handed

theorem kept_stepped {move : RunMove} (kept : Kept conditions configurations run)
    (stepped : Stepped conditions run move after) : Kept conditions configurations after := by
  cases stepped with
  | task position move task later calls present admitted moved =>
    have travels := kept.travels position task present
    have linked := kept.linked position task present
    obtain ⟨laterTravels, same⟩ := Task.travels_moved travels linked moved
    refine kept_set later kept present (Task.sound_moved travels linked moved kept.sound)
      (Task.size_moved travels linked moved) same laterTravels
      (Task.linked_moved kept.sound travels linked moved) ?_
      (Task.cancelled_moved travels linked moved) fun slot => Task.others_moved travels linked moved
    exact Task.handed_moved (kept.handed position task present) moved
  | finish slot calls ends =>
    exact kept_calls kept (Calls.sound_finish kept.sound ends) (Calls.size_of_finish ends)
      (Calls.cancelled_of_finish ends)
      (fun other => Calls.mem_names_of_finish kept.sound ends) (Calls.wishes_of_finish ends)
  | hand position task row present next =>
    refine kept_set { task with handed := task.handed + 1 } kept present kept.sound rfl
      rfl (kept.travels position task present) (kept.linked position task present) ?_ id
      fun slot _ => ⟨Iff.rfl, Iff.rfl⟩
    exact (List.getElem?_eq_some_iff.mp next).1
  | settle position task crash present phase through first =>
    have travels := kept.travels position task present
    have linked := kept.linked position task present
    have handed := kept.handed position task present
    refine kept_set (task.failCrashed crash) kept present kept.sound rfl rfl
      (Task.travels_failCrashed travels phase) (Task.linked_failCrashed linked phase) ?_ id
      fun slot _ => ⟨Iff.rfl, Iff.rfl⟩
    simp only [Task.failCrashed, Task.fail, Task.setState, List.length_append]
    omega
  | cancel uncut =>
    exact kept_calls kept (Calls.sound_cancelIf kept.sound true) rfl (fun _ => rfl)
      (fun _ member => member) fun _ => Iff.rfl

theorem kept_step {move : RunMove} (kept : Kept conditions configurations run)
    (moves : run.step conditions move = some after) : Kept conditions configurations after :=
  kept_stepped kept (stepped_of_step moves)

theorem kept_follow {moves : List RunMove} (kept : Kept conditions configurations run)
    (follows : run.follow conditions moves = some after) :
    Kept conditions configurations after :=
  Steps.holds_follow (Kept conditions configurations) (fun _ => kept_step) kept follows

end Run

/-! ### The begin of a run -/

namespace Evaluator

variable {evaluator : Evaluator} {plan : Plan} {begun : Run}

theorem eq_start_of_begin (begins : evaluator.begin plan = .ok begun) :
    begun = .start (evaluator.conditions plan) evaluator.cancelled plan.configurations := by
  unfold begin at begins
  split at begins
  · cases begins
  · exact (Except.ok.inj begins).symm

theorem kept_of_begin (begins : evaluator.begin plan = .ok begun) :
    Run.Kept (evaluator.conditions plan) plan.configurations begun := by
  rw [eq_start_of_begin begins]
  exact Run.kept_start _ _ _

end Evaluator

end Holdout
