/-
This file proves what a batch that is run by itself collects, whatever the order in which its tasks
finish, whoever shares its slots, and whenever the run is cancelled. Every query has one outcome;
a query that got a slot has the result that scoring it by itself gives, so a scorer that fails for
one query spoils no other; and the queries that are cancelled are the last ones. A batch comes to
its end unless others keep all the slots.
-/

import Holdout.Batch.Run
import Holdout.Proofs.Batch.Accounting
import Holdout.Proofs.Steps
import Mathlib.Data.Sum.Basic

namespace Holdout

/-- Whether a move is one of the batch, not of those who share its slots. -/
def BatchRunMove.isOwn : BatchRunMove → Bool
  | .others _ => false
  | _ => true

/-- The call of a query takes no longer than it may. -/
def Batch.InTime (batch : Batch) (score : Scoring) (query : Query) : Prop :=
  ∀ limit, batch.timeout = some limit →
    (batch.call score query).takes.nanoseconds ≤ limit.nanoseconds

theorem Batch.overrun?_eq_some_iff {batch : Batch} {score : Scoring} {query : Query}
    {limit : Duration} : batch.overrun? score query = some limit ↔ batch.timeout = some limit ∧
      limit.nanoseconds < (batch.call score query).takes.nanoseconds := by
  rw [Batch.overrun?, Option.filter_eq_some_iff, decide_eq_true_iff]

theorem Batch.overrun?_eq_none_iff {batch : Batch} {score : Scoring} {query : Query} :
    batch.overrun? score query = none ↔ batch.InTime score query := by
  rw [Option.eq_none_iff_forall_ne_some, Batch.InTime]
  refine forall_congr' fun limit => ?_
  rw [ne_eq, Batch.overrun?_eq_some_iff, not_and, Nat.not_lt]

/-- What scoring a query by itself can come to. -/
inductive ScoresTo (batch : Batch) (score : Scoring) (query : Query) : QueryResult → Prop where
  /-- The call takes longer than it may. -/
  | timedOut (limit : Duration) (limited : batch.timeout = some limit)
      (late : limit.nanoseconds < (batch.call score query).takes.nanoseconds) :
      ScoresTo batch score query (.error (.timedOut limit))
  /-- The scorer crashes. -/
  | crashed (crash : Crash) (inTime : batch.InTime score query)
      (crashes : (batch.call score query).result = .error crash) :
      ScoresTo batch score query (.error (.crashed crash.text))
  /-- The scorer answers with an error. -/
  | failed (error : ScorerError) (inTime : batch.InTime score query)
      (fails : (batch.call score query).result = .ok (.error error)) :
      ScoresTo batch score query (.error (.scorer error))
  /-- The list of the scorer cannot be ranked. -/
  | unranked (list : ItemList) (error : ItemListError) (inTime : batch.InTime score query)
      (scores : (batch.call score query).result = .ok (.ok list))
      (refused : list.rankTop batch.limit = .error error) :
      ScoresTo batch score query (.error (.invalidList error))
  /-- The list of the scorer is ranked and cut. -/
  | ranked (list ranking : ItemList) (inTime : batch.InTime score query)
      (scores : (batch.call score query).result = .ok (.ok list))
      (ranks : list.rankTop batch.limit = .ok ranking) :
      ScoresTo batch score query (.ok ranking)

theorem scoresTo_scoreOne (batch : Batch) (score : Scoring) (query : Query) :
    ScoresTo batch score query (batch.scoreOne score query) := by
  unfold Batch.scoreOne
  cases overruns : batch.overrun? score query with
  | some limit =>
    obtain ⟨limited, late⟩ := Batch.overrun?_eq_some_iff.mp overruns
    exact .timedOut limit limited late
  | none =>
    have inTime := Batch.overrun?_eq_none_iff.mp overruns
    simp only [Batch.ranked]
    cases result : (batch.call score query).result with
    | error crash => exact .crashed crash inTime result
    | ok answer =>
      cases answer with
      | error error => exact .failed error inTime result
      | ok list =>
        simp only
        cases ranks : list.rankTop batch.limit with
        | error error => exact .unranked list error inTime result ranks
        | ok ranking => exact .ranked list ranking inTime result ranks

/-- A call that takes too long comes to nothing else, whatever it would have come to in the end. -/
theorem ScoresTo.eq_timedOut {batch : Batch} {score : Scoring} {query : Query} {limit : Duration}
    {result : QueryResult} (scores : ScoresTo batch score query result)
    (limited : batch.timeout = some limit)
    (late : limit.nanoseconds < (batch.call score query).takes.nanoseconds) :
    result = .error (.timedOut limit) := by
  cases scores with
  | timedOut other alsoLimited =>
    rw [Option.some.inj (alsoLimited.symm.trans limited)]
  | crashed crash inTime => exact absurd late (Nat.not_lt.mpr (inTime limit limited))
  | failed error inTime => exact absurd late (Nat.not_lt.mpr (inTime limit limited))
  | unranked list error inTime => exact absurd late (Nat.not_lt.mpr (inTime limit limited))
  | ranked list ranking inTime => exact absurd late (Nat.not_lt.mpr (inTime limit limited))

/-- Scoring a query never comes to a cancellation. -/
theorem scoreOne_ne_cancelled (batch : Batch) (score : Scoring) (query : Query) :
    batch.scoreOne score query ≠ .error .cancelled := by
  intro equal
  have scores := scoresTo_scoreOne batch score query
  rw [equal] at scores
  cases scores

/-- Without a limit on the time, the result of the call alone decides. -/
theorem scoreOne_congr {batch : Batch} {first second : Scoring} {query : Query}
    (unlimited : batch.timeout = none)
    (same : ∀ candidates, (first query candidates).result = (second query candidates).result) :
    batch.scoreOne first query = batch.scoreOne second query := by
  simp only [Batch.scoreOne, Batch.overrun?, unlimited, Option.filter_none, Batch.call, same]

namespace BatchRun

variable {batch : Batch} {score : Scoring} {queries : List Query}

/-! ### What always holds -/

/-- What holds at all times while a batch is run. -/
structure Kept (batch : Batch) (score : Scoring) (queries : List Query) (run : BatchRun) :
    Prop where
  sound : run.calls.Sound fun slot => slot.isLeft = true
  accounted : Batch.Accounted batch score queries run.progress run.collected
  linked : Batch.Linked Sum.inl run.calls run.progress
  /-- With one slot, the call that goes on is that of the query that got its slot last. -/
  latest : run.calls.budget.size = 1 → ∀ index, .inl index ∈ run.calls.names →
    index + 1 = run.progress.spawned.length

theorem kept_start (batch : Batch) (score : Scoring) (queries : List Query) (size : Nat)
    (cancelled : Bool) : Kept batch score queries (start size cancelled) where
  sound := Calls.sound_ofSize size cancelled
  accounted := Batch.accounted_start batch score queries
  linked := ⟨by simp [start], by simp [start, Calls.ofSize, Calls.names],
    by simp [start, Calls.ofSize, Budget.ofSize, Budget.wishes]⟩
  latest := by simp [start, Calls.ofSize, Calls.names]

theorem ofOthers_name? (step : BudgetStep String) (slot : BatchSlot) (isOwn : slot.isLeft = true) :
    step.ofOthers.name? ≠ some slot := by
  cases step <;> rintro ⟨⟩
  all_goals cases isOwn

theorem kept_batch {run : BatchRun} {move : Batch.Move} {advance : Batch.Advance BatchSlot}
    (kept : Kept batch score queries run)
    (moves : batch.advance score queries Sum.inl run.calls run.progress move = some advance) :
    Kept batch score queries
      ⟨advance.calls, advance.progress, run.collected ++ advance.sent.toList⟩ where
  sound := Batch.sound_advance kept.sound (fun _ => rfl) kept.accounted kept.linked moves
  accounted := Batch.accounted_advance kept.accounted kept.linked moves
  linked := Batch.linked_advance kept.sound (fun _ => rfl) Sum.inl_injective kept.accounted
    kept.linked moves
  latest := fun single index member => by
    have sound := Batch.sound_advance kept.sound (fun _ => rfl) kept.accounted kept.linked moves
    have few := Calls.length_names_le sound
    have size := Batch.size_advance moves
    cases Batch.advanced_of_advance moves with
    | granted query later present asks =>
      have everyone := Batch.everyone_of_granted kept.accounted kept.linked asks
      have names := Calls.names_of_granted asks
      -- There is room for one call, and that is the new one.
      have alone : run.calls.names = [] := by
        have room : later.budget.size = 1 := single
        simp only [names, List.length_cons] at few
        exact List.length_eq_zero_iff.mp (by omega)
      simp only [names, alone, List.mem_singleton, Sum.inl.injEq] at member
      simp [member, everyone]
    | refused query later present asks =>
      have same := Calls.ongoing_of_not_granted asks (by decide)
      simp only [Calls.names, same] at member
      exact kept.latest (size ▸ single) index member
    | waits query later present asks first =>
      have same := Calls.ongoing_of_not_granted asks (by decide)
      simp only [Calls.names, same] at member
      exact kept.latest (size ▸ single) index member
    | _ => exact kept.latest single index member

theorem kept_step {run after : BatchRun} {move : BatchRunMove}
    (kept : Kept batch score queries run)
    (moves : run.step batch score queries move = some after) : Kept batch score queries after := by
  cases move with
  | batch move =>
    obtain ⟨advance, advances, rfl⟩ := Option.map_eq_some_iff.mp moves
    exact kept_batch kept advances
  | finish index =>
    obtain ⟨calls, ends, rfl⟩ := Option.map_eq_some_iff.mp moves
    have earlier (slot : BatchSlot) (member : slot ∈ calls.names) : slot ∈ run.calls.names :=
      Calls.mem_names_of_finish kept.sound ends member
    exact {
      sound := Calls.sound_finish kept.sound ends
      accounted := kept.accounted
      linked := kept.linked.of_others (Calls.cancelled_of_finish ends) (fun _ => earlier _)
        fun _ => Calls.wishes_of_finish ends _
      latest := fun single other member =>
        kept.latest (Calls.size_of_finish ends ▸ single) other (earlier _ member) }
  | others step =>
    cases moves
    have apart := ofOthers_name? step
    exact {
      sound := Calls.sound_others kept.sound apart
      accounted := kept.accounted
      linked := kept.linked.of_others (fun signal => Budget.step_cancelled _ _ signal)
        (fun _ member => member) fun index => (Budget.mem_step_of_apart _ (apart _ rfl)).1
      latest := fun single =>
        kept.latest (Budget.step_size run.calls.budget step.ofOthers ▸ single) }

theorem kept_follow {run after : BatchRun} {moves : List BatchRunMove}
    (kept : Kept batch score queries run)
    (follows : run.follow batch score queries moves = some after) :
    Kept batch score queries after :=
  Steps.holds_follow (Kept batch score queries) (fun _ => kept_step) kept follows

/-! ### What moves leave behind -/

theorem size_step {run after : BatchRun} {move : BatchRunMove}
    (moves : run.step batch score queries move = some after) :
    after.calls.budget.size = run.calls.budget.size := by
  cases move with
  | batch move =>
    obtain ⟨advance, advances, rfl⟩ := Option.map_eq_some_iff.mp moves
    exact Batch.size_advance advances
  | finish index =>
    obtain ⟨calls, ends, rfl⟩ := Option.map_eq_some_iff.mp moves
    exact Calls.size_of_finish ends
  | others step =>
    cases moves
    exact Budget.step_size _ _

/-- The number of slots never changes. -/
theorem size_follow {run after : BatchRun} {moves : List BatchRunMove}
    (follows : run.follow batch score queries moves = some after) :
    after.calls.budget.size = run.calls.budget.size :=
  Steps.holds_follow (fun now => now.calls.budget.size = run.calls.budget.size)
    (fun _ same moves => (size_step moves).trans same) rfl follows

/-- The tasks that vanish are those that are made to. -/
theorem lost_step {run after : BatchRun} {move : BatchRunMove} (index : Nat)
    (moves : run.step batch score queries move = some after) :
    index ∈ after.progress.lost ↔
      index ∈ run.progress.lost ∨ move = .batch (.lose index) := by
  cases move with
  | batch move =>
    obtain ⟨advance, advances, rfl⟩ := Option.map_eq_some_iff.mp moves
    cases Batch.advanced_of_advance advances with
    | loses other running => simp [eq_comm]
    | _ => simp
  | finish other =>
    obtain ⟨calls, ends, rfl⟩ := Option.map_eq_some_iff.mp moves
    simp
  | others step =>
    cases moves
    simp

theorem lost_follow {run after : BatchRun} {moves : List BatchRunMove} (index : Nat)
    (follows : run.follow batch score queries moves = some after) :
    index ∈ after.progress.lost ↔
      index ∈ run.progress.lost ∨ .batch (.lose index) ∈ moves := by
  induction moves generalizing run with
  | nil =>
    cases follows
    simp
  | cons move rest inductionHypothesis =>
    obtain ⟨next, moves, follows⟩ := Option.bind_eq_some_iff.mp follows
    rw [inductionHypothesis follows, lost_step index moves, List.mem_cons, or_assoc,
      eq_comm (a := move)]

/-- Once the run is cancelled, it stays so and no query gets a slot. -/
theorem spawned_step {run after : BatchRun} {move : BatchRunMove}
    (signal : run.calls.cancelled = true)
    (moves : run.step batch score queries move = some after) :
    after.calls.cancelled = true ∧ after.progress.spawned = run.progress.spawned := by
  cases move with
  | batch move =>
    obtain ⟨advance, advances, rfl⟩ := Option.map_eq_some_iff.mp moves
    exact ⟨(Batch.cancelled_advance advances).trans signal, Batch.spawned_advance signal advances⟩
  | finish other =>
    obtain ⟨calls, ends, rfl⟩ := Option.map_eq_some_iff.mp moves
    exact ⟨Calls.cancelled_of_finish ends signal, rfl⟩
  | others step =>
    cases moves
    exact ⟨Budget.step_cancelled _ _ signal, rfl⟩

theorem spawned_follow {run after : BatchRun} {moves : List BatchRunMove}
    (signal : run.calls.cancelled = true)
    (follows : run.follow batch score queries moves = some after) :
    after.calls.cancelled = true ∧ after.progress.spawned = run.progress.spawned := by
  refine Steps.holds_follow (fun now =>
    now.calls.cancelled = true ∧ now.progress.spawned = run.progress.spawned)
    (fun _ cut moves => ?_) ⟨signal, rfl⟩ follows
  obtain ⟨stays, same⟩ := spawned_step cut.1 moves
  exact ⟨stays, same.trans cut.2⟩

/-- A step in which the run is cancelled gives no slot. -/
theorem spawned_of_cancels {run after : BatchRun} {move : BatchRunMove}
    (before : run.calls.cancelled = false)
    (moves : run.step batch score queries move = some after)
    (signal : after.calls.cancelled = true) :
    after.progress.spawned = run.progress.spawned := by
  cases move with
  | batch move =>
    obtain ⟨advance, advances, rfl⟩ := Option.map_eq_some_iff.mp moves
    have same := Batch.cancelled_advance advances
    rw [before] at same
    exact absurd (signal.symm.trans same) (by decide)
  | finish other =>
    obtain ⟨calls, ends, rfl⟩ := Option.map_eq_some_iff.mp moves
    rfl
  | others step =>
    cases moves
    rfl

/-! ### The way to the end -/

/-- A move of the batch uses up one of those that are left, and no move of others adds one. -/
theorem remaining_step {run after : BatchRun} {move : BatchRunMove}
    (moves : run.step batch score queries move = some after) :
    after.remaining queries + (if move.isOwn then 1 else 0) ≤ run.remaining queries := by
  cases move with
  | batch move =>
    obtain ⟨advance, advances, rfl⟩ := Option.map_eq_some_iff.mp moves
    have fewer := Batch.remaining_advance 0 advances
    simp only [remaining, BatchRunMove.isOwn, if_true]
    omega
  | finish other =>
    obtain ⟨calls, ends, rfl⟩ := Option.map_eq_some_iff.mp moves
    have fewer := Calls.length_ongoing_of_finish ends
    simp only [remaining, BatchRunMove.isOwn, if_true]
    omega
  | others step =>
    cases moves
    exact Nat.le_refl _

theorem remaining_follow {run after : BatchRun} {moves : List BatchRunMove}
    (follows : run.follow batch score queries moves = some after) :
    after.remaining queries + moves.countP BatchRunMove.isOwn ≤ run.remaining queries :=
  Steps.remaining_follow (fun _ => True) BatchRunMove.isOwn (remaining queries)
    (fun _ moves => ⟨trivial, remaining_step moves⟩) trivial follows

/-- Whether all slots are with others, so that the next query has to wait for them. -/
def WaitsForOthers (run : BatchRun) : Prop :=
  run.progress.asking = true ∧
    (run.calls.budget.assigned ++ run.calls.budget.held).length = run.calls.budget.size ∧
    ∀ slot ∈ run.calls.budget.assigned ++ run.calls.budget.held, slot.isRight = true

/-- A batch that is run in turn makes moves of its own. -/
theorem isOwn_of_option {run : BatchRun} {move : BatchRunMove} (option : move ∈ run.options) :
    move.isOwn = true := by
  rcases List.mem_append.mp option with finish | own
  · obtain ⟨index, -, rfl⟩ := List.mem_map.mp finish
    rfl
  · obtain ⟨inner, -, rfl⟩ := List.mem_map.mp own
    rfl

/-- A batch that is not through can make one of the moves that it tries when it is run in turn,
unless it waits for others. -/
theorem can_step {run : BatchRun} (kept : Kept batch score queries run)
    (unfinished : run.progress.isDone queries = false) :
    (∃ move ∈ run.options, ∃ after, run.step batch score queries move = some after) ∨
      run.WaitsForOthers := by
  cases caller : run.calls.names with
  | cons slot rest =>
    -- A call that goes on can return.
    have member : slot ∈ run.calls.names := by simp [caller]
    have isOwn := kept.sound.owned slot member
    cases slot with
    | inr name => cases isOwn
    | inl index =>
      obtain ⟨calls, ends⟩ := Option.isSome_iff_exists.mp (Calls.finish_isSome member)
      refine Or.inl ⟨.finish index, ?_, { run with calls },
        by simp only [step, ends, Option.map_some]⟩
      refine List.mem_append_left _ (List.mem_map_of_mem (List.mem_filterMap.mpr ?_))
      exact ⟨.inl index, member, rfl⟩
  | nil =>
    have returned : ∀ index ∈ run.progress.running, Sum.inl index ∉ run.calls.names := by
      simp [caller]
    obtain ⟨move, option, after, advances⟩ | ⟨asking, cancels, later, asks⟩ :=
      Batch.can_advance kept.accounted returned unfinished
    · refine Or.inl ⟨.batch move, List.mem_append_right _ (List.mem_map_of_mem option),
        ⟨after.calls, after.progress, run.collected ++ after.sent.toList⟩, ?_⟩
      simp only [step, advances, Option.map_some]
    · -- Every slot is taken, and by others, since no call goes on and nobody else wishes.
      have wishes := (kept.linked.wishing run.progress.next).mpr ⟨rfl, asking⟩
      obtain ⟨full, notAssigned⟩ := Calls.taken_of_waiting kept.sound asks wishes
      refine Or.inr ⟨asking, by rw [List.length_append, full], fun slot member => ?_⟩
      cases slot with
      | inr name => rfl
      | inl index =>
        rcases List.mem_append.mp member with assigned | held
        · have wish := (kept.linked.wishing index).mp (List.mem_append_right _ assigned)
          exact absurd (wish.1 ▸ assigned) notAssigned
        · have call := (kept.sound.held (.inl index) rfl).mp held
          rw [caller] at call
          cases call

/-! ### What a batch collects -/

/-- What a batch that is through has collected. -/
structure Settled (batch : Batch) (score : Scoring) (queries : List Query)
    (moves : List BatchRunMove) (run : BatchRun) : Prop where
  /-- There is one outcome for every position, with the name of the query there. -/
  once : Covers queries run.collected
  /-- A query that got a slot has what scoring it by itself gives, unless its task vanished. -/
  alone : ∀ outcome ∈ run.collected, ∀ query, queries[outcome.index]? = some query →
    outcome.index ∈ run.progress.spawned → .batch (.lose outcome.index) ∉ moves →
    ScoresTo batch score query outcome.result
  /-- A query whose task vanished says so. -/
  vanished : ∀ outcome ∈ run.collected, .batch (.lose outcome.index) ∈ moves →
    outcome.result = .error Batch.aborted
  /-- The queries that got a slot are the first ones, and the others are those that are
  cancelled. -/
  suffix : ∃ granted, run.progress.spawned = List.range granted ∧
    ∀ outcome ∈ run.collected, outcome.result = .error .cancelled ↔ granted ≤ outcome.index
  /-- Nothing is cancelled if the run is not. -/
  uncut : run.calls.cancelled = false →
    ∀ outcome ∈ run.collected, outcome.index ∈ run.progress.spawned

theorem mem_spawned {run : BatchRun} (kept : Kept batch score queries run) (index : Nat) :
    index ∈ run.progress.spawned ↔ index < run.progress.spawned.length := by
  rw [kept.accounted.inOrder, List.mem_range, List.length_range]

/-- A query deserves to be cancelled exactly if it got no slot. -/
theorem deserved_eq_cancelled (batch : Batch) (score : Scoring) (progress : Batch.Progress)
    (index : Nat) (query : Query) :
    batch.deserved score progress index query = .error .cancelled ↔
      progress.spawned.length ≤ index := by
  unfold Batch.deserved
  split
  · rename_i refused
    exact ⟨fun _ => refused, fun _ => rfl⟩
  rename_i got
  refine ⟨fun equal => ?_, fun refused => absurd refused got⟩
  split at equal
  · cases equal
  · exact absurd equal (scoreOne_ne_cancelled batch score query)

theorem settled_of_done {size : Nat} {cancelled : Bool} {moves : List BatchRunMove}
    {run : BatchRun}
    (follows : (start size cancelled).follow batch score queries moves = some run)
    (done : run.progress.isDone queries = true) : Settled batch score queries moves run := by
  have kept := kept_follow (kept_start batch score queries size cancelled) follows
  have fate (index : Nat) : index ∈ run.progress.lost ↔ .batch (.lose index) ∈ moves := by
    rw [lost_follow index follows]
    simp [start]
  refine ⟨?_, ?_, ?_, ⟨run.progress.spawned.length, kept.accounted.inOrder, ?_⟩, ?_⟩
  · exact kept.accounted.complete done
  · intro outcome member query present got remains
    obtain ⟨same, samePresent, -, result⟩ := kept.accounted.faithful outcome member
    cases present.symm.trans samePresent
    have below := (mem_spawned kept _).mp got
    rw [result, Batch.deserved, if_neg (Nat.not_le.mpr below),
      if_neg (fun lost => remains ((fate _).mp lost))]
    exact scoresTo_scoreOne batch score query
  · intro outcome member vanishes
    obtain ⟨query, present, -, result⟩ := kept.accounted.faithful outcome member
    have lost := (fate _).mpr vanishes
    have below := kept.accounted.tasks _ (List.mem_append_right _ lost)
    rw [result, Batch.deserved, if_neg (Nat.not_le.mpr below), if_pos lost]
  · intro outcome member
    obtain ⟨query, present, -, result⟩ := kept.accounted.faithful outcome member
    rw [result]
    exact deserved_eq_cancelled batch score run.progress outcome.index query
  · intro uncut outcome member
    rw [mem_spawned kept]
    have asked := (kept.accounted.placed_of_sent member).1
    by_contra refused
    have cut := kept.linked.cut (by omega)
    rw [uncut] at cut
    cases cut

/-- Whether the run is cancelled while the call of a query goes on, or when it returns. -/
def CancelledDuring (batch : Batch) (score : Scoring) (queries : List Query) (run : BatchRun)
    (moves : List BatchRunMove) (index : Nat) : Prop :=
  ∃ before move after middle next, moves = before ++ move :: after ∧
    run.follow batch score queries before = some middle ∧
    middle.step batch score queries move = some next ∧
    .inl index ∈ middle.calls.names ∧
    middle.calls.cancelled = false ∧ next.calls.cancelled = true

/-- With one slot, the query during whose call the run is cancelled is the last that got it. -/
theorem spawned_of_cancelledDuring {size : Nat} {cancelled : Bool} {moves : List BatchRunMove}
    {run : BatchRun} {index : Nat}
    (follows : (start size cancelled).follow batch score queries moves = some run)
    (single : size ≤ 1)
    (during : CancelledDuring batch score queries (start size cancelled) moves index) :
    run.progress.spawned.length = index + 1 := by
  obtain ⟨before, move, after, middle, next, rfl, first, second, calling, uncut, cut⟩ := during
  have kept := kept_follow (kept_start batch score queries size cancelled) first
  obtain ⟨reached, same, later⟩ := Steps.follow_append_eq_some.mp follows
  obtain rfl : middle = reached := Option.some.inj (first.symm.trans same)
  obtain ⟨found, moves, rest⟩ := Option.bind_eq_some_iff.mp later
  obtain rfl : next = found := Option.some.inj (second.symm.trans moves)
  have room : middle.calls.budget.size = 1 := by
    rw [size_follow first]
    show max size 1 = 1
    omega
  rw [(spawned_follow cut rest).2, spawned_of_cancels uncut second cut]
  exact (kept.latest room index calling).symm

/-- In a run that nobody cancelled, the outcome of a query whose task did not vanish is what scoring
it by itself gives. -/
theorem mem_collected_of_uncut {size : Nat} {cancelled : Bool} {moves : List BatchRunMove}
    {run : BatchRun}
    (follows : (start size cancelled).follow batch score queries moves = some run)
    (done : run.progress.isDone queries = true) (uncut : run.calls.cancelled = false)
    {index : Nat} {query : Query} (present : queries[index]? = some query)
    (remains : .batch (.lose index) ∉ moves) :
    ⟨index, query.id, batch.scoreOne score query⟩ ∈ run.collected := by
  have kept := kept_follow (kept_start batch score queries size cancelled) follows
  have inside : index ∈ run.collected.map Outcome.index :=
    (kept.accounted.complete done).indexes.mem_iff.mpr
      (List.mem_range.mpr (List.getElem?_eq_some_iff.mp present).1)
  obtain ⟨outcome, member, rfl⟩ := List.mem_map.mp inside
  obtain ⟨same, samePresent, name, result⟩ := kept.accounted.faithful outcome member
  cases present.symm.trans samePresent
  have got : ¬ run.progress.spawned.length ≤ outcome.index := fun refused => by
    have asked := (kept.accounted.placed_of_sent member).1
    have cut := kept.linked.cut (by omega)
    rw [uncut] at cut
    cases cut
  have kept : outcome.index ∉ run.progress.lost := fun lost => by
    have vanishes := (lost_follow _ follows).mp lost
    simp only [start, List.not_mem_nil, false_or] at vanishes
    exact remains vanishes
  rw [Batch.deserved, if_neg got, if_neg kept] at result
  rw [← name, ← result]
  exact member

/-- Whatever the scorer does, in whatever order the tasks of a batch finish, whoever shares its
slots, and whenever it is cancelled: the batch makes a bounded number of moves and is never stuck
before its end unless others keep all the slots; at its end it has collected one outcome for every
query, each as it should be; with one slot, the queries that are cancelled are those after the one
during whose call the run was cancelled; and another scorer that differs for one query leads to
outcomes that differ at the positions of this query only. -/
theorem batch_collects_every_query_once (batch : Batch) (score : Scoring) (queries : List Query)
    (size : Nat) (cancelled : Bool) (moves : List BatchRunMove) (run : BatchRun)
    (follows : (start size cancelled).follow batch score queries moves = some run) :
    (moves.countP BatchRunMove.isOwn ≤ (start size cancelled).remaining queries ∧
      (run.progress.isDone queries = true ∨ run.WaitsForOthers ∨
        ∃ move after, move.isOwn = true ∧ run.step batch score queries move = some after)) ∧
    (run.progress.isDone queries = true →
      Settled batch score queries moves run ∧
      (size ≤ 1 → ∀ index,
        CancelledDuring batch score queries (start size cancelled) moves index →
        ∀ outcome ∈ run.collected, outcome.result = .error .cancelled ↔ index < outcome.index) ∧
      (batch.timeout = none → run.calls.cancelled = false →
        ∀ (odd : Query) (other : Scoring),
          (∀ query, query ≠ odd → ∀ candidates,
            (other query candidates).result = (score query candidates).result) →
        ∀ (otherSize : Nat) (otherMoves : List BatchRunMove) (otherRun : BatchRun),
          (start otherSize false).follow batch other queries otherMoves = some otherRun →
          otherRun.progress.isDone queries = true → otherRun.calls.cancelled = false →
        ∀ index query, queries[index]? = some query → query ≠ odd →
          .batch (.lose index) ∉ moves → .batch (.lose index) ∉ otherMoves →
          ∃ outcome ∈ run.collected, outcome.index = index ∧ outcome ∈ otherRun.collected)) := by
  have kept := kept_follow (kept_start batch score queries size cancelled) follows
  refine ⟨⟨?_, ?_⟩, fun done => ⟨settled_of_done follows done, ?_, ?_⟩⟩
  · have bound := remaining_follow follows
    omega
  · cases done : run.progress.isDone queries with
    | true => exact Or.inl rfl
    | false =>
      obtain ⟨move, option, after, moves⟩ | waits := can_step kept done
      · exact Or.inr (Or.inr ⟨move, after, isOwn_of_option option, moves⟩)
      · exact Or.inr (Or.inl waits)
  · intro single index during outcome member
    obtain ⟨query, present, -, result⟩ := kept.accounted.faithful outcome member
    rw [result, deserved_eq_cancelled, spawned_of_cancelledDuring follows single during,
      Nat.succ_le_iff]
  · intro unlimited uncut odd other alike otherSize otherMoves otherRun otherFollows otherDone
      otherUncut index query present regular remains otherRemains
    have here := mem_collected_of_uncut follows done uncut present remains
    have there := mem_collected_of_uncut otherFollows otherDone otherUncut present otherRemains
    rw [scoreOne_congr unlimited (alike query regular)] at there
    exact ⟨_, here, rfl, there⟩

/-- A scorer that takes nine nanoseconds for one query, and crashes and cancels the run for all
others. -/
def slowThenStopping : Scoring := fun query _ =>
  if query.id = "slow" then ⟨.ok (.ok (ItemList.empty true)), false, ⟨9⟩⟩
  else ⟨.error ⟨"stop"⟩, true, ⟨0⟩⟩

/-- Three queries with one slot and five nanoseconds each. The first takes too long, which is told
before its call returns, while the second waits for the slot; the second cancels the run. -/
theorem batch_collects_every_query_once_stopping :
    let batch : Batch := { timeout := some ⟨5⟩ }
    let queries : List Query := [⟨"slow", none, none⟩, ⟨"u", none, none⟩, ⟨"v", none, none⟩]
    ∃ run, (start 1 false).follow batch slowThenStopping queries
        [.batch .ask, .batch (.send 0), .batch .ask, .finish 0, .batch .ask, .finish 1,
          .batch (.send 1), .batch .ask, .batch (.join 0), .batch (.join 1), .batch .sweep,
          .batch .sweep, .batch .sweep] = some run ∧
      run.progress.isDone queries = true ∧ Covers queries run.collected ∧
      (∀ outcome ∈ run.collected, outcome.index = 0 →
        outcome.result = .error (.timedOut ⟨5⟩)) ∧
      ∀ outcome ∈ run.collected, outcome.result = .error .cancelled ↔ 1 < outcome.index := by
  intro batch queries
  let run : BatchRun := ⟨⟨⟨1, 1, [], [], [], true⟩, []⟩,
    { next := 3, spawned := [0, 1], reported := [2, 0, 1], swept := 3 },
    [⟨0, "slow", .error (.timedOut ⟨5⟩)⟩, ⟨1, "u", .error (.crashed "stop")⟩,
      ⟨2, "v", .error .cancelled⟩]⟩
  have laws := batch_collects_every_query_once batch slowThenStopping queries 1 false
    [.batch .ask, .batch (.send 0), .batch .ask, .finish 0, .batch .ask, .finish 1,
      .batch (.send 1), .batch .ask, .batch (.join 0), .batch (.join 1), .batch .sweep,
      .batch .sweep, .batch .sweep] run rfl
  obtain ⟨settled, one, -⟩ := laws.2 rfl
  refine ⟨run, rfl, rfl, settled.once, fun outcome member first => ?_, one (Nat.le_refl 1) 1 ?_⟩
  · have scores := settled.alone outcome member ⟨"slow", none, none⟩ (by rw [first]; rfl)
      (by rw [first]; decide) (by rw [first]; decide)
    exact scores.eq_timedOut rfl (by decide)
  · exact ⟨[.batch .ask, .batch (.send 0), .batch .ask, .finish 0, .batch .ask], .finish 1, _, _, _,
      rfl, rfl, rfl, List.mem_singleton.mpr rfl, rfl, rfl⟩

/-! ### Batches in turn -/

/-- A batch that is run in turn makes moves of its own, no task of it vanishes, and it stops only
where it can do nothing. -/
theorem follow_inTurn (batch : Batch) (score : Scoring) (queries : List Query) (run : BatchRun) :
    (∃ moves, run.follow batch score queries moves = some (run.inTurn batch score queries) ∧
      ∀ move ∈ moves, move.isOwn = true ∧ ∀ index, move ≠ .batch (.lose index)) ∧
      ∀ move ∈ (run.inTurn batch score queries).options,
        (run.inTurn batch score queries).step batch score queries move = none := by
  have uses {now next : BatchRun} {move : BatchRunMove} (_ : True) (option : move ∈ now.options)
      (moves : now.step batch score queries move = some next) :
      True ∧ next.remaining queries < now.remaining queries := by
    have fewer := remaining_step moves
    rw [isOwn_of_option option, if_pos rfl] at fewer
    exact ⟨trivial, by omega⟩
  obtain ⟨⟨moves, follows, tried⟩, stops⟩ :=
    Steps.follow_inTurn (fun _ => True) (remaining queries) uses trivial (Nat.le_refl _)
  refine ⟨⟨moves, follows, fun move member => ?_⟩, stops⟩
  obtain ⟨now, option⟩ := tried move member
  refine ⟨isOwn_of_option option, ?_⟩
  rintro index rfl
  simp [options, Batch.Progress.options] at option

/-- Whether nobody but the queries of the batch has or wants a slot. -/
def Alone (run : BatchRun) : Prop :=
  ∀ slot, slot ∈ run.calls.budget.wishes ∨ slot ∈ run.calls.budget.held → slot.isLeft = true

theorem alone_step {run after : BatchRun} {move : BatchRunMove} (alone : run.Alone)
    (isOwn : move.isOwn = true) (moves : run.step batch score queries move = some after) :
    after.Alone := by
  intro slot involved
  cases move with
  | others step => cases isOwn
  | finish index =>
    obtain ⟨calls, ends, rfl⟩ := Option.map_eq_some_iff.mp moves
    exact alone slot (involved.imp (Calls.wishes_of_finish ends slot).mp
      (Calls.mem_held_of_finish ends))
  | batch move =>
    obtain ⟨advance, advances, rfl⟩ := Option.map_eq_some_iff.mp moves
    obtain same | ⟨cancels, answer, asks⟩ := Batch.calls_of_advance advances
    · exact alone slot (by simpa only [same] using involved)
    · by_cases own : slot = .inl run.progress.next
      · rw [own]
        rfl
      · obtain ⟨wishes, held⟩ := Calls.mem_of_ask_of_ne asks own
        exact alone slot (involved.imp wishes.mp held.mp)

theorem alone_follow {run after : BatchRun} {moves : List BatchRunMove} (alone : run.Alone)
    (own : ∀ move ∈ moves, move.isOwn = true)
    (follows : run.follow batch score queries moves = some after) : after.Alone :=
  Steps.holds_follow Alone (fun member alone => alone_step alone (own _ member)) alone follows

/-- A batch that is run in turn comes to its end. -/
theorem isDone_inTurn (batch : Batch) (score : Scoring) (queries : List Query) (size : Nat)
    (cancelled : Bool) :
    ((start size cancelled).inTurn batch score queries).progress.isDone queries = true := by
  obtain ⟨⟨moves, follows, plain⟩, stuck⟩ :=
    follow_inTurn batch score queries (start size cancelled)
  have kept := kept_follow (kept_start batch score queries size cancelled) follows
  have room := size_follow follows
  have alone : ((start size cancelled).inTurn batch score queries).Alone :=
    alone_follow (by simp [Alone, start, Calls.ofSize, Budget.ofSize, Budget.wishes])
      (fun move member => (plain move member).1) follows
  by_contra unfinished
  obtain ⟨move, option, after, moves⟩ | ⟨-, full, others⟩ :=
    can_step kept (Bool.eq_false_iff.mpr unfinished)
  · rw [stuck move option] at moves
    cases moves
  · -- Somebody holds the slots, but nobody but the batch is there.
    have positive : 1 ≤ (start size cancelled).calls.budget.size := Nat.le_max_right _ _
    rw [room] at full
    obtain ⟨slot, member⟩ := List.exists_mem_of_length_pos
      (Nat.lt_of_lt_of_le positive (Nat.le_of_eq full.symm))
    have outside := others slot member
    have inside := alone slot ((List.mem_append.mp member).imp (List.mem_append_right _) id)
    cases slot with
    | inl index => cases outside
    | inr name => cases inside

/-- The results of a batch are complete. -/
theorem complete_run (batch : Batch) (score : Scoring) (queries : List Query) (size : Nat)
    (cancelled : Bool) :
    Covers queries (batch.run score queries size cancelled).outcomes := by
  obtain ⟨⟨moves, follows, -⟩, -⟩ := follow_inTurn batch score queries (start size cancelled)
  exact (settled_of_done follows (isDone_inTurn batch score queries size cancelled)).once

end BatchRun

end Holdout
