/-
This file proves that the states which a run shows go with its reports at every moment, also while
it goes on. A configuration announces every state that it comes into, under the name of its report;
what it announces takes the place of its state before; and the states of the others stay.
-/

import Holdout.Proofs.Log
import Holdout.Proofs.Table

namespace Holdout

/-! ### States that are written -/

namespace States

theorem entries_writeAll (states : States) (news : List (ConfigKey × ConfigState)) :
    (states.writeAll news).entries =
      news.foldl (fun entries entry => putEntry entry.1 entry.2 entries) states.entries :=
  (List.foldl_hom States.entries fun _ _ => rfl).symm

theorem entries_waiting {keys : List ConfigKey} (distinct : keys.Nodup) :
    (waiting keys).entries = keys.map fun key => (key, .pending) := by
  have names : (keys.map fun key => (key, ConfigState.pending)).map Prod.fst = keys := by
    rw [List.map_map]
    exact List.map_id' keys
  rw [waiting, entries_writeAll]
  exact foldl_putEntry_of_fresh _ [] (names.symm ▸ distinct)

/-- Of the states that are written under one name, the last one is left, in the place of the state
before. -/
theorem entries_writeAll_of_named {states : States} {key : ConfigKey} {old : ConfigState}
    {position : Nat} (present : states.entries[position]? = some (key, old))
    {news : List (ConfigKey × ConfigState)} (named : ∀ entry ∈ news, entry.1 = key) :
    (states.writeAll news).entries =
      states.entries.set position (key, news.foldl (fun _ entry => entry.2) old) := by
  induction news generalizing states old with
  | nil => exact (set_of_getElem? present).symm
  | cons entry rest inductionHypothesis =>
    obtain ⟨rfl, namedRest⟩ := List.forall_mem_cons.mp named
    have written : (states.write entry.1 entry.2).entries = states.entries.set position entry :=
      putEntry_eq_set states.distinct present
    have there : (states.write entry.1 entry.2).entries[position]? = some (entry.1, entry.2) := by
      rw [written, List.getElem?_set_self (List.getElem?_eq_some_iff.mp present).1]
    have later := inductionHypothesis there namedRest
    rw [written, List.set_set] at later
    exact later

end States

/-! ### States that are announced -/

namespace Task

variable {conditions : Conditions} {position : Nat} {calls later : Calls Slot}
  {task after : Task} {move : TaskMove}

/-- What a configuration announces while it goes on: some states, under the name of its report, the
last of which its report has in the end. If there are none, the state has not changed. -/
structure Announces (before after : Task) (news : List (ConfigKey × ConfigState)) : Prop where
  announced : after.announced = before.announced ++ news
  named : ∀ entry ∈ news, entry.1 = before.report.key
  state : after.report.state = news.foldl (fun _ entry => entry.2) before.report.state

theorem announces_nothing (same : after.announced = task.announced)
    (state : after.report.state = task.report.state) : Announces task after [] :=
  ⟨same.trans (List.append_nil _).symm, fun _ member => absurd member List.not_mem_nil, state⟩

theorem announces_one {key : ConfigKey} {state : ConfigState}
    (announced : after.announced = task.announced ++ [(key, state)])
    (named : key = task.report.key) (reached : after.report.state = state) :
    Announces task after [(key, state)] :=
  ⟨announced, fun entry member => by rw [List.mem_singleton.mp member, named], reached⟩

/-- A scorer that needs no training is announced to be trained nevertheless. -/
theorem announces_beginTraining (task : Task) (split : Split) :
    ∃ news, Announces task (task.beginTraining split) news := by
  unfold beginTraining
  split
  · exact ⟨_, announces_one rfl rfl rfl⟩
  split
  · exact ⟨_, announces_one rfl rfl rfl⟩
  · refine ⟨[(task.report.key, .training), (task.report.key, .scoring)], ?_, ?_, rfl⟩
    · exact List.append_assoc _ _ _
    · simp

theorem announces_moved (moved : Moved conditions position calls task move later after) :
    ∃ news, Announces task after news := by
  cases moved with
  | refuses | loadingCrashes | loadingFails | trainingRefused | trainingCrashes | trainingFails
  | fits | concludesCrash | concludesCancelled | concludes | aggregatingCrashes | aggregates =>
    exact ⟨_, announces_one rfl rfl rfl⟩
  | loads split phase result => exact announces_beginTraining task split
  | _ => exact ⟨[], announces_nothing rfl rfl⟩

theorem announces_failCrashed (owned : task.Owned) (crash : Crash) :
    ∃ news, Announces task (task.failCrashed crash) news :=
  ⟨_, announces_one rfl owned.key.symm rfl⟩

end Task

/-! ### States that are shown -/

namespace Run

variable {conditions : Conditions} {configurations : List Configuration} {run after : Run}

/-- The states that a run shows are those of its reports. -/
def Shown (run : Run) : Prop :=
  run.states.entries = run.configs.map fun config => (config.key, config.state)

theorem shown_start (conditions : Conditions) (cancelled : Bool)
    (distinct : (configurations.map Configuration.key).Nodup) :
    Shown (start conditions cancelled configurations) := by
  show (States.waiting (configurations.map Configuration.key)).entries = _
  rw [States.entries_waiting distinct, configs, start, List.map_map, List.map_map, List.map_map]
  rfl

/-- A configuration goes on, and what it announced is written. -/
theorem shown_replace (shown : run.Shown) {position : Nat} {task later : Task}
    {news : List (ConfigKey × ConfigState)} (present : run.tasks[position]? = some task)
    (announces : Task.Announces task later news) (key : later.report.key = task.report.key) :
    (run.replace position task later).Shown := by
  have there : run.states.entries[position]? = some (task.report.key, task.report.state) := by
    rw [shown, configs, List.getElem?_map, List.getElem?_map, present]
    rfl
  have written : (run.replace position task later).states = run.states.writeAll news := by
    rw [replace, announces.announced, List.drop_left]
  rw [Shown, written, States.entries_writeAll_of_named there announces.named, shown, configs,
    configs, tasks_replace, List.map_set, List.map_set, key, announces.state]

theorem shown_stepped {move : RunMove} (kept : Kept conditions configurations run)
    (logged : run.Logged) (shown : run.Shown) (stepped : Stepped conditions run move after) :
    after.Shown := by
  cases stepped with
  | task position move task later calls present admitted moved =>
    have owned := logged.owned position task present
    have same := (Task.travels_moved (kept.travels position task present)
      (kept.linked position task present) moved).2
    obtain ⟨news, announces⟩ := Task.announces_moved moved
    refine shown_replace shown present announces ?_
    rw [(Task.owned_moved owned moved).key, same, owned.key]
  | finish slot calls ends => exact shown
  | hand position task row present next =>
    have same : (run.tasks.set position { task with handed := task.handed + 1 }).map Task.report =
        run.tasks.map Task.report := by
      rw [List.map_set]
      exact set_of_getElem? (by rw [List.getElem?_map, present]; rfl)
    rw [Shown, configs, same]
    exact shown
  | settle position task crash present phase through first =>
    have owned := logged.owned position task present
    obtain ⟨news, announces⟩ := Task.announces_failCrashed owned crash
    exact shown_replace shown present announces owned.key.symm
  | cancel uncut => exact shown

theorem shown_follow (distinct : (configurations.map Configuration.key).Nodup)
    {moves : List RunMove} (kept : Kept conditions configurations run) (logged : run.Logged)
    (shown : run.Shown) (follows : run.follow conditions moves = some after) : after.Shown :=
  (Steps.holds_follow
    (fun run => Kept conditions configurations run ∧ run.Logged ∧ run.Shown)
    (fun _ ⟨kept, logged, shown⟩ moves => ⟨kept_step kept moves,
      logged_stepped distinct kept logged (stepped_of_step moves),
      shown_stepped kept logged shown (stepped_of_step moves)⟩)
    ⟨kept, logged, shown⟩ follows).2.2

end Run

/-- Whatever happens in a run of a valid plan, the states that it shows are those of its reports, at
its end as while it goes on. -/
theorem Evaluator.shown_of_begin {evaluator : Evaluator} {plan : Plan} {begun run : Run}
    {moves : List RunMove} (begins : evaluator.begin plan = .ok begun)
    (follows : begun.follow (evaluator.conditions plan) moves = some run) : run.Shown := by
  have distinct := (valid_of_begin begins).distinct_keys
  refine Run.shown_follow distinct (kept_of_begin begins) ?_ ?_ follows
  · rw [eq_start_of_begin begins]
    exact Run.logged_start _ _ _
  · rw [eq_start_of_begin begins]
    exact Run.shown_start _ _ distinct

end Holdout
