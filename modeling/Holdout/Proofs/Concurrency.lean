/-
This file proves how many calls go on at once in a run. Configurations train and score in any
interleaving, calls crash, fail, cancel the run or outlive the time they were given, and a call is
counted from the moment its slot is granted to the moment it returns. The count is kept from the
moves alone, and it is what the slots say: a slot is used by a call that goes on, or handed to a
query that will begin one, or free.
-/

import Holdout.Proofs.Termination

namespace Holdout

/-! ### Calls by the moves that were made -/

namespace Task

/-- The call that a configuration makes next, if it gets a slot for it. -/
def wanted? (position : Nat) (task : Task) : Option Slot :=
  match task.phase with
  | .training _ _ _ => some (position, none)
  | .scoring split _ progress _ _ =>
    if progress.next < split.queries.length then some (position, some progress.next) else none
  | _ => none

/-- The call that a move begins, if it asks for a slot and is granted one. -/
def begun? (position : Nat) (calls : Calls Slot) (task : Task) : TaskMove → Option Slot
  | .ask | .batch .ask =>
    (task.wanted? position).filter fun slot => (calls.budget.acquire slot).1 = .granted
  | _ => none

end Task

namespace Run

/-- The calls that go on after a move of a run, if some went on before. -/
def count (run : Run) (ongoing : List Slot) : RunMove → List Slot
  | .task position move =>
    (run.tasks[position]?.bind fun task => task.begun? position run.calls move).toList ++ ongoing
  | .finish slot => ongoing.filter fun other => other ≠ slot
  | _ => ongoing

/-- The calls that have begun and not returned after some moves, counted move by move. -/
def unreturned (conditions : Conditions) (run : Run) (ongoing : List Slot) :
    List RunMove → List Slot
  | [] => ongoing
  | move :: rest =>
    match run.step conditions move with
    | none => ongoing
    | some after => after.unreturned conditions (run.count ongoing move) rest

end Run

namespace Configuration

/-- A call that a configuration can make: training, if its scorer needs it, or scoring one of the
queries of its split. -/
def Makes (configuration : Configuration) : Option Nat → Prop
  | none => ∃ scorer, configuration.algorithm.build = .ok scorer ∧ scorer.requiresTraining = true
  | some index => ∃ split, configuration.source.load.result = .ok (.ok split) ∧
      index < split.queries.length

end Configuration

/-! ### What one move does -/

namespace Calls

variable {Name : Type} [DecidableEq Name] {calls after : Calls Name} {name : Name} {cancels : Bool}
  {answer : BudgetAnswer}

theorem acquire_of_ask (asks : calls.ask name cancels = (answer, after)) :
    (calls.budget.acquire name).1 = answer := by
  cases asked_of_ask asks with
  | granted budget signal acquired | refused budget signal acquired
  | waiting budget signal acquired => rw [acquired]

/-- All calls go on but the one that returns. -/
theorem filter_of_finish {own : Name → Prop} (sound : calls.Sound own)
    (ends : calls.finish name = some after) :
    after.names = calls.names.filter fun other => other ≠ name := by
  rw [names_of_finish sound ends, sound.once.erase_eq_filter]
  exact List.filter_congr fun other _ => by simp [bne, beq_eq_decide]

end Calls

namespace Task

variable {conditions : Conditions} {position : Nat} {calls later : Calls Slot} {task after : Task}

/-- Whoever asks for the wanted slot begins a call exactly if it is granted. -/
theorem names_of_asks {slot : Slot} {cancels : Bool} {answer : BudgetAnswer}
    (wanted : task.wanted? position = some slot)
    (asks : calls.ask slot cancels = (answer, later)) :
    later.names = ((task.wanted? position).filter fun slot =>
      (calls.budget.acquire slot).1 = .granted).toList ++ calls.names := by
  have answered := Calls.acquire_of_ask asks
  rw [wanted, Option.filter_some, answered]
  by_cases granted : answer = .granted
  · rw [granted] at asks
    simpa [granted] using Calls.names_of_granted asks
  · have same := Calls.ongoing_of_not_granted asks granted
    simp [granted, Calls.names, same]

/-- A move of a configuration begins the call that it is granted a slot for, and ends none. -/
theorem names_moved {move : TaskMove}
    (moved : Moved conditions position calls task move later after) :
    later.names = (task.begun? position calls move).toList ++ calls.names := by
  cases moved with
  | trains split scorer asking later phase asks
  | trainingRefused split scorer asking later phase asks
  | waits split scorer later phase asks =>
    exact names_of_asks (by simp [wanted?, phase]) asks
  | batches split score progress queue later measurer move advance phase advances sends =>
    cases Batch.advanced_of_advance advances with
    | granted query after present asks | refused query after present asks
    | waits query after present asks first =>
      have below := (List.getElem?_eq_some_iff.mp present).1
      exact names_of_asks (by simp [wanted?, phase, below, slots]) asks
    | sends | loses | joins | skips | sweeps => rfl
  | loadingCrashes | loadingFails | loads => exact Calls.names_cancelIf calls _
  | _ => rfl

/-- Whatever a configuration wants to call next is one of its calls. -/
theorem makes_of_wanted {slot : Slot} (travels : task.Travels conditions)
    (wanted : task.wanted? position = some slot) :
    slot.1 = position ∧ task.configuration.Makes slot.2 := by
  obtain ⟨configuration, phase, report, rows, handed, announced⟩ := task
  change Travelled conditions configuration phase report rows at travels
  cases travels with
  | training split scorer asking loaded built needed =>
    cases wanted
    exact ⟨rfl, scorer, built, needed⟩
  | scoring split score progress queue sent measurer rows ready accounted taken =>
    simp only [wanted?] at wanted
    split at wanted
    · rename_i below
      cases wanted
      exact ⟨rfl, split, ready.loaded, below⟩
    · cases wanted
  | _ => cases wanted

/-- Whoever waits for a slot wants it for the next call. -/
theorem wanted_of_wishes {part : Option Nat} (travels : task.Travels conditions)
    (linked : task.Linked position calls) (wishes : (position, part) ∈ calls.budget.wishes) :
    task.wanted? position = some (position, part) := by
  unfold Linked at linked
  unfold wanted?
  split at linked
  · exact absurd wishes (linked part).2
  · exact absurd wishes (linked part).2
  · rename_i phase
    simp only [phase, ((linked part).2.mp wishes).1]
  · exact absurd wishes (linked part).2
  · rename_i split score progress queue measurer phase
    obtain ⟨sent, -, accounted, -⟩ := scoring_of_travels travels phase
    cases part with
    | none => exact absurd wishes linked.2
    | some index =>
      obtain ⟨rfl, asking⟩ := (linked.1.wishing index).mp wishes
      simp only [phase, if_pos (accounted.awaits asking)]
  all_goals exact absurd wishes (linked part)

/-- A query whose call has taken too long sends its outcome, if there is room for it, and does
nothing to the slots. -/
theorem move_of_overrun {split : Split} {score : Scoring} {progress : Batch.Progress}
    {queue : List Outcome} {reorder : Reorder} {gathered : Gathered} {index : Nat} {query : Query}
    {limit : Duration} (phase : task.phase = .scoring split score progress queue
      (.working reorder gathered))
    (present : split.queries[index]? = some query) (running : index ∈ progress.running)
    (overruns : (conditions.batch split).overrun? score query = some limit)
    (room : queue.length < conditions.capacity) :
    task.move conditions position calls (.batch (.send index)) =
      some (calls, { task with
        phase := .scoring split score
          { progress with
            running := progress.running.erase index
            ended := progress.ended ++ [index] }
          (queue ++ [⟨index, query.id, .error (.timedOut limit)⟩])
          (.working reorder gathered) }) := by
  have told : (conditions.batch split).scoreOne score query = .error (.timedOut limit) := by
    simp only [Batch.scoreOne, overruns]
  simp only [Task.move, advance, phase, Batch.advance, Batch.send, present, running, overruns,
    Option.isSome_some, or_true, and_true, if_true, enqueue, room, told, Option.map_some]

end Task

namespace Run

variable {conditions : Conditions} {configurations : List Configuration} {run after : Run}

theorem names_stepped {move : RunMove} (kept : Kept conditions configurations run)
    (stepped : Stepped conditions run move after) :
    after.calls.names = run.count run.calls.names move := by
  cases stepped with
  | task position move task later calls present admitted moved =>
    simpa only [count, present, Option.bind_some] using Task.names_moved moved
  | finish slot calls ends =>
    exact Calls.filter_of_finish kept.sound ends
  | hand | settle | cancel => rfl

/-! ### What all moves do -/

theorem names_follow {moves : List RunMove} (kept : Kept conditions configurations run)
    (follows : run.follow conditions moves = some after) :
    after.calls.names = run.unreturned conditions run.calls.names moves := by
  induction moves generalizing run with
  | nil =>
    cases follows
    rfl
  | cons move rest inductionHypothesis =>
    obtain ⟨next, moves, follows⟩ := Option.bind_eq_some_iff.mp follows
    simp only [unreturned, moves, ← names_stepped kept (stepped_of_step moves)]
    exact inductionHypothesis (kept_step kept moves) follows

/-- Moves that come later are counted on. -/
theorem unreturned_append {early late : List RunMove} {middle : Run}
    (kept : Kept conditions configurations run)
    (reached : run.follow conditions early = some middle)
    (follows : middle.follow conditions late = some after) :
    after.calls.names = run.unreturned conditions run.calls.names (early ++ late) :=
  names_follow kept (Steps.follow_append_eq_some.mpr ⟨middle, reached, follows⟩)

/-- Only its own return ends a call. -/
theorem lasts_step {slot : Slot} {move : RunMove} (kept : Kept conditions configurations run)
    (ongoing : slot ∈ run.calls.names) (stays : move ≠ .finish slot)
    (moves : run.step conditions move = some after) : slot ∈ after.calls.names := by
  rw [names_stepped kept (stepped_of_step moves)]
  cases move with
  | task position move => exact List.mem_append_right _ ongoing
  | finish other =>
    have different : slot ≠ other := fun same => stays (same ▸ rfl)
    exact List.mem_filter.mpr ⟨ongoing, by simpa using different⟩
  | hand | settle | cancel => exact ongoing

theorem lasts_follow {slot : Slot} {moves : List RunMove}
    (kept : Kept conditions configurations run) (ongoing : slot ∈ run.calls.names)
    (stays : .finish slot ∉ moves) (follows : run.follow conditions moves = some after) :
    slot ∈ after.calls.names := by
  refine (Steps.holds_follow
    (fun now => Kept conditions configurations now ∧ slot ∈ now.calls.names)
    (fun member holds moves => ?_) ⟨kept, ongoing⟩ follows).2
  exact ⟨kept_step holds.1 moves,
    lasts_step holds.1 holds.2 (fun same => stays (same ▸ member)) moves⟩

theorem follow_single {move : RunMove} (moves : run.step conditions move = some after) :
    run.follow conditions [move] = some after := by
  simp only [follow, Steps.follow, moves, Option.bind_some]

/-- A query whose call has taken too long sends its outcome. -/
theorem step_of_overrun {position : Nat} {task : Task} {split : Split} {score : Scoring}
    {progress : Batch.Progress} {queue : List Outcome} {reorder : Reorder} {gathered : Gathered}
    {index : Nat} {query : Query} {limit : Duration} (present : run.tasks[position]? = some task)
    (phase : task.phase = .scoring split score progress queue (.working reorder gathered))
    (there : split.queries[index]? = some query) (running : index ∈ progress.running)
    (overruns : (conditions.batch split).overrun? score query = some limit)
    (room : queue.length < conditions.capacity) :
    run.step conditions (.task position (.batch (.send index))) =
      some { run with
        tasks := run.tasks.set position { task with
          phase := .scoring split score
            { progress with
              running := progress.running.erase index
              ended := progress.ended ++ [index] }
            (queue ++ [⟨index, query.id, .error (.timedOut limit)⟩])
            (.working reorder gathered) } } := by
  simp only [step, moveTask, present, admits, if_true,
    Task.move_of_overrun phase there running overruns room, Option.map_some]
  rw [replace_of_silent]
  rfl

/-! ### Slots and calls -/

/-- As many slots are held as calls go on. -/
theorem held_perm_names (kept : Kept conditions configurations run) :
    run.calls.budget.held.Perm run.calls.names :=
  (List.perm_ext_iff_of_nodup kept.sound.budget.heldOnce kept.sound.once).mpr
    fun slot => kept.sound.held slot trivial

/-- A slot that was handed over is that of a configuration which wants it for its next call. -/
theorem wanted_of_wishes (kept : Kept conditions configurations run) {slot : Slot}
    (wishes : slot ∈ run.calls.budget.wishes) :
    ∃ task, run.tasks[slot.1]? = some task ∧ task.wanted? slot.1 = some slot := by
  obtain ⟨position, part⟩ := slot
  have present := List.getElem?_eq_getElem (kept.wished _ wishes)
  exact ⟨_, present, Task.wanted_of_wishes (kept.travels _ _ present) (kept.linked _ _ present)
    wishes⟩

/-- No slot is handed to anybody where no configuration wants one. -/
theorem assigned_eq_nil_of_unwanted (kept : Kept conditions configurations run)
    (unwanted : ∀ position (task : Task), run.tasks[position]? = some task →
      task.wanted? position = none) :
    run.calls.budget.assigned = [] := by
  refine List.eq_nil_iff_forall_not_mem.mpr fun slot assigned => ?_
  obtain ⟨task, present, wanted⟩ := wanted_of_wishes kept (List.mem_append_right _ assigned)
  rw [unwanted _ task present] at wanted
  cases wanted

/-! ### The account of a run -/

/-- What is known of the calls of a run after some moves, by the count of those that have begun and
not returned. -/
structure Counted (conditions : Conditions) (configurations : List Configuration) (first : Run)
    (moves : List RunMove) (run : Run) : Prop where
  /-- There are as many slots as the run was given, but one at least. -/
  size : run.calls.budget.size = max conditions.slots 1
  /-- No more calls go on at once than there are slots. -/
  bounded : (first.unreturned conditions [] moves).length ≤ max conditions.slots 1
  /-- No call is counted twice. -/
  once : (first.unreturned conditions [] moves).Nodup
  /-- The slots that are held are held by the calls that go on, one by each. -/
  used : run.calls.budget.held.Perm (first.unreturned conditions [] moves)
  /-- Every other slot is free or handed to a configuration that begins a call with it. -/
  conserved : run.calls.budget.free + run.calls.budget.assigned.length +
    (first.unreturned conditions [] moves).length = max conditions.slots 1
  handed : ∀ slot ∈ run.calls.budget.assigned,
    ∃ task, run.tasks[slot.1]? = some task ∧ task.wanted? slot.1 = some slot
  /-- The calls are those that configurations make. -/
  made : ∀ slot ∈ first.unreturned conditions [] moves,
    ∃ configuration, configurations[slot.1]? = some configuration ∧ configuration.Makes slot.2
  /-- A call goes on until it returns, whatever happens meanwhile. -/
  lasts : ∀ slot ∈ first.unreturned conditions [] moves, ∀ rest later, .finish slot ∉ rest →
    run.follow conditions rest = some later →
      slot ∈ first.unreturned conditions [] (moves ++ rest)
  /-- A call can return at any time, and gives its slot back by that. -/
  returns : ∀ slot ∈ first.unreturned conditions [] moves, ∃ later,
    run.step conditions (.finish slot) = some later ∧
      first.unreturned conditions [] (moves ++ [.finish slot]) =
        (first.unreturned conditions [] moves).filter (· ≠ slot) ∧
      later.calls.budget.free + later.calls.budget.assigned.length =
        run.calls.budget.free + run.calls.budget.assigned.length + 1
  /-- The outcome of a query whose call takes too long is recorded while the call goes on, and
  nothing changes for its slot. -/
  overruns : ∀ position task split score progress queue reorder gathered index query limit,
    run.tasks[position]? = some task →
    task.phase = .scoring split score progress queue (.working reorder gathered) →
    split.queries[index]? = some query → index ∈ progress.running →
    (conditions.batch split).overrun? score query = some limit →
    queue.length < conditions.capacity →
    ∃ later, run.step conditions (.task position (.batch (.send index))) = some later ∧
      later.calls = run.calls ∧
      later.tasks = run.tasks.set position { task with
        phase := .scoring split score
          { progress with
            running := progress.running.erase index
            ended := progress.ended ++ [index] }
          (queue ++ [⟨index, query.id, .error (.timedOut limit)⟩]) (.working reorder gathered) } ∧
      first.unreturned conditions [] (moves ++ [.task position (.batch (.send index))]) =
        first.unreturned conditions [] moves
  /-- When all calls have returned, and no configuration is about to make one, all slots are
  free. -/
  idle : first.unreturned conditions [] moves = [] →
    (∀ position (task : Task), run.tasks[position]? = some task → task.wanted? position = none) →
    run.calls.budget.free = max conditions.slots 1

/-- Every call that goes on is one that a configuration makes. -/
def Making (configurations : List Configuration) (run : Run) : Prop :=
  ∀ slot ∈ run.calls.names,
    ∃ configuration, configurations[slot.1]? = some configuration ∧ configuration.Makes slot.2

theorem making_step {move : RunMove} (kept : Kept conditions configurations run)
    (making : run.Making configurations) (moves : run.step conditions move = some after) :
    after.Making configurations := by
  intro slot ongoing
  rw [names_stepped kept (stepped_of_step moves)] at ongoing
  cases move with
  | task position move =>
    rcases List.mem_append.mp ongoing with begun | earlier
    · obtain ⟨task, present, begun⟩ := Option.bind_eq_some_iff.mp (Option.mem_toList.mp begun)
      have wanted : task.wanted? position = some slot := by
        unfold Task.begun? at begun
        split at begun
        · exact (Option.filter_eq_some_iff.mp begun).1
        · exact (Option.filter_eq_some_iff.mp begun).1
        · cases begun
      obtain ⟨rfl, makes⟩ := Task.makes_of_wanted (kept.travels position task present) wanted
      refine ⟨task.configuration, ?_, makes⟩
      rw [← kept.same, List.getElem?_map, present]
      rfl
    · exact making slot earlier
  | finish other => exact making slot (List.mem_filter.mp ongoing).1
  | hand | settle | cancel => exact making slot ongoing

theorem making_follow {moves : List RunMove} (kept : Kept conditions configurations run)
    (making : run.Making configurations) (follows : run.follow conditions moves = some after) :
    after.Making configurations :=
  (Steps.holds_follow (fun now => Kept conditions configurations now ∧ now.Making configurations)
    (fun _ holds moves => ⟨kept_step holds.1 moves, making_step holds.1 holds.2 moves⟩)
    ⟨kept, making⟩ follows).2

theorem size_step {move : RunMove} (kept : Kept conditions configurations run)
    (moves : run.step conditions move = some after) :
    after.calls.budget.size = run.calls.budget.size := by
  cases stepped_of_step moves with
  | task position move task later calls present admitted moved =>
    exact Task.size_moved (kept.travels position task present) (kept.linked position task present)
      moved
  | finish slot calls ends => exact Calls.size_of_finish ends
  | hand | settle | cancel => rfl

/-- The number of slots never changes. -/
theorem size_follow {moves : List RunMove} (kept : Kept conditions configurations run)
    (follows : run.follow conditions moves = some after) :
    after.calls.budget.size = run.calls.budget.size :=
  (Steps.holds_follow (fun now => Kept conditions configurations now ∧
      now.calls.budget.size = run.calls.budget.size)
    (fun _ holds moves => ⟨kept_step holds.1 moves, (size_step holds.1 moves).trans holds.2⟩)
    ⟨kept, rfl⟩ follows).2

theorem conserved_of_kept (kept : Kept conditions configurations run) :
    run.calls.budget.free + run.calls.budget.assigned.length + run.calls.names.length =
      run.calls.budget.size := by
  rw [← (held_perm_names kept).length_eq]
  exact kept.sound.budget.conserved

/-- A call that returns makes room for one more. -/
theorem returns_of_kept (kept : Kept conditions configurations run) {slot : Slot}
    (ongoing : slot ∈ run.calls.names) :
    ∃ later, run.step conditions (.finish slot) = some later ∧
      later.calls.names = (run.calls.names.filter fun other => other ≠ slot) ∧
      later.calls.budget.free + later.calls.budget.assigned.length =
        run.calls.budget.free + run.calls.budget.assigned.length + 1 := by
  obtain ⟨calls, ends⟩ := Option.isSome_iff_exists.mp (Calls.finish_isSome ongoing)
  have moves : run.step conditions (.finish slot) = some { run with calls } := by
    simp only [step, ends, Option.map_some]
  have conserved := conserved_of_kept kept
  have conservedLater := conserved_of_kept (kept_step kept moves)
  have size := Calls.size_of_finish ends
  have fewer : calls.names.length + 1 = run.calls.names.length := by
    simp only [Calls.names, List.length_map]
    exact Calls.length_ongoing_of_finish ends
  refine ⟨_, moves, names_stepped kept (stepped_of_step moves), ?_⟩
  simp only at conservedLater ⊢
  omega

/-- However the configurations of a run interleave, and whatever their calls do, no more calls go on
at once than there are slots; a call counts until it returns, also if nobody waits for it any more;
and its slot is there again afterwards. -/
theorem calls_bounded (conditions : Conditions) (cancelled : Bool)
    (configurations : List Configuration) (moves : List RunMove) (run : Run)
    (follows : (start conditions cancelled configurations).follow conditions moves = some run) :
    Counted conditions configurations (start conditions cancelled configurations) moves run := by
  have keptStart := kept_start conditions cancelled configurations
  have kept := kept_follow keptStart follows
  have names : run.calls.names =
      (start conditions cancelled configurations).unreturned conditions [] moves :=
    names_follow keptStart follows
  have size : run.calls.budget.size = max conditions.slots 1 := size_follow keptStart follows
  have conserved := conserved_of_kept kept
  rw [size] at conserved
  have making : run.Making configurations := making_follow keptStart (by
    intro slot ongoing
    cases ongoing) follows
  have count (rest : List RunMove) (later : Run)
      (goesOn : run.follow conditions rest = some later) :
      later.calls.names =
        (start conditions cancelled configurations).unreturned conditions [] (moves ++ rest) :=
    unreturned_append keptStart follows goesOn
  constructor
  case size => exact size
  case handed => exact fun slot assigned => wanted_of_wishes kept (List.mem_append_right _ assigned)
  all_goals rw [← names]
  case bounded => omega
  case once => exact kept.sound.once
  case used => exact held_perm_names kept
  case conserved => exact conserved
  case made => exact making
  case lasts =>
    intro slot ongoing rest later stays goesOn
    rw [← count rest later goesOn]
    exact lasts_follow kept ongoing stays goesOn
  case returns =>
    intro slot ongoing
    obtain ⟨later, moves, gone, room⟩ := returns_of_kept kept ongoing
    exact ⟨later, moves, (count _ later (follow_single moves)).symm.trans gone, room⟩
  case overruns =>
    intro position task split score progress queue reorder gathered index query limit present phase
      there running overruns room
    have moves := step_of_overrun present phase there running overruns room
    exact ⟨_, moves, rfl, rfl, (count _ _ (follow_single moves)).symm⟩
  case idle =>
    intro returned unwanted
    rw [returned, assigned_eq_nil_of_unwanted kept unwanted] at conserved
    simpa using conserved

/-- A configuration that is through while the call of its only query goes on, long after it should
have returned. -/
theorem calls_bounded_overrun :
    let scorer : Scorer := ⟨"slow", false,
      fun _ _ => ⟨.ok (.ok (ItemList.empty true)), false, ⟨2⟩⟩,
      fun _ => .immediate (.error (.failed "never trained"))⟩
    let configuration : Configuration :=
      ⟨⟨"a", .ok scorer⟩, .ofSplit ⟨"s", ⟨[]⟩, ⟨[("u", ItemList.empty false)], by decide⟩⟩⟩
    let conditions : Conditions := ⟨[], none, .all, some ⟨1⟩, false, 1, 1, 1⟩
    let first : Run := .start conditions false [configuration]
    ∃ moves run, first.follow conditions moves = some run ∧
      run.states.entries = [(⟨"a", "s"⟩, .aggregated)] ∧
      first.unreturned conditions [] moves = [(0, some 0)] ∧
      Counted conditions [configuration] first moves run := by
  intro scorer configuration conditions first
  let moves : List RunMove := [.task 0 .start, .task 0 .load, .task 0 (.batch .ask),
    .task 0 (.batch (.send 0)), .task 0 (.measure 1), .task 0 (.batch (.join 0)),
    .task 0 (.batch .sweep), .task 0 .flush, .task 0 .conclude, .task 0 (.aggregate ⟨1⟩)]
  have ends : (first.follow conditions moves).map (fun run => run.states.entries) =
      some [(⟨"a", "s"⟩, .aggregated)] := rfl
  obtain ⟨run, follows, states⟩ := Option.map_eq_some_iff.mp ends
  exact ⟨moves, run, follows, states, rfl,
    calls_bounded conditions false [configuration] moves run follows⟩

end Run

end Holdout
