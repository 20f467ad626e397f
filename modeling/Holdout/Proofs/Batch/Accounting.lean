/-
This file proves that a batch keeps its books: at any moment every query that has asked for its slot
is running, has ended, has vanished or is reported, and the outcomes that were sent are those of the
queries that have ended or are reported, each once and each with the result that its query deserves.
The facts are about the moves of a batch alone, whoever it shares its slots with.
-/

import Holdout.Batch.Progress
import Holdout.Proofs.Calls
import Holdout.Proofs.Positions
import Mathlib.Data.List.Perm.Basic

namespace Holdout

namespace Batch

variable {Name : Type} [DecidableEq Name]
  {batch : Batch} {score : Scoring} {queries : List Query} {name : Nat → Name}
  {calls : Calls Name} {progress : Progress}

/-! ### What a move can do -/

/-- The moves of a batch, with what each of them needs and changes. -/
inductive Advanced (batch : Batch) (score : Scoring) (queries : List Query) (name : Nat → Name)
    (calls : Calls Name) (progress : Progress) : Move → Advance Name → Prop where
  | granted (query : Query) (after : Calls Name) (present : queries[progress.next]? = some query)
      (asks : calls.ask (name progress.next) (batch.call score query).cancels =
        (.granted, after)) :
      Advanced batch score queries name calls progress .ask ⟨after, { progress with
        next := progress.next + 1
        asking := false
        spawned := progress.spawned ++ [progress.next]
        running := progress.running ++ [progress.next] }, none⟩
  | refused (query : Query) (after : Calls Name) (present : queries[progress.next]? = some query)
      (asks : calls.ask (name progress.next) (batch.call score query).cancels =
        (.cancelled, after)) :
      Advanced batch score queries name calls progress .ask ⟨after, { progress with
        next := progress.next + 1
        asking := false
        reported := progress.reported ++ [progress.next] },
        some ⟨progress.next, query.id, .error .cancelled⟩⟩
  | waits (query : Query) (after : Calls Name) (present : queries[progress.next]? = some query)
      (asks : calls.ask (name progress.next) (batch.call score query).cancels =
        (.waiting, after))
      (first : progress.asking = false) :
      Advanced batch score queries name calls progress .ask
        ⟨after, { progress with asking := true }, none⟩
  | sends (index : Nat) (query : Query) (present : queries[index]? = some query)
      (running : index ∈ progress.running)
      (returned : name index ∉ calls.names ∨ (batch.overrun? score query).isSome) :
      Advanced batch score queries name calls progress (.send index) ⟨calls, { progress with
        running := progress.running.erase index
        ended := progress.ended ++ [index] },
        some ⟨index, query.id, batch.scoreOne score query⟩⟩
  | loses (index : Nat) (running : index ∈ progress.running) :
      Advanced batch score queries name calls progress (.lose index) ⟨calls, { progress with
        running := progress.running.erase index
        lost := progress.lost ++ [index] }, none⟩
  | joins (index : Nat) (asked : queries.length ≤ progress.next) (ended : index ∈ progress.ended) :
      Advanced batch score queries name calls progress (.join index) ⟨calls, { progress with
        ended := progress.ended.erase index
        reported := progress.reported ++ [index] }, none⟩
  | skips (asked : queries.length ≤ progress.next) (quiet : progress.running = [])
      (awaited : progress.ended = []) (present : progress.swept < queries.length)
      (reported : progress.swept ∈ progress.reported) :
      Advanced batch score queries name calls progress .sweep
        ⟨calls, { progress with swept := progress.swept + 1 }, none⟩
  | sweeps (query : Query) (asked : queries.length ≤ progress.next)
      (quiet : progress.running = []) (awaited : progress.ended = [])
      (present : queries[progress.swept]? = some query)
      (missing : progress.swept ∉ progress.reported) :
      Advanced batch score queries name calls progress .sweep
        ⟨calls, { progress with swept := progress.swept + 1 },
          some ⟨progress.swept, query.id, .error aborted⟩⟩

theorem advanced_of_advance {move : Move} {after : Advance Name}
    (moves : batch.advance score queries name calls progress move = some after) :
    Advanced batch score queries name calls progress move after := by
  cases move with
  | ask =>
    simp only [advance, ask] at moves
    split at moves
    · cases moves
    rename_i query present
    split at moves
    · rename_i calls' asks
      cases moves
      exact .granted query calls' present asks
    · rename_i calls' asks
      cases moves
      exact .refused query calls' present asks
    · rename_i answer calls' notGranted notRefused asks
      split at moves
      · cases moves
      rename_i first
      cases moves
      cases Calls.asked_of_ask asks with
      | granted => exact (notGranted rfl).elim
      | refused => exact (notRefused rfl).elim
      | waiting budget => exact .waits query _ present asks (by simpa using first)
  | send index =>
    simp only [advance, send] at moves
    split at moves
    · cases moves
    rename_i query present
    split at moves
    · rename_i possible
      cases moves
      exact .sends index query present possible.1 possible.2
    · cases moves
  | lose index =>
    simp only [advance, lose] at moves
    split at moves
    · rename_i running
      cases moves
      exact .loses index running
    · cases moves
  | join index =>
    simp only [advance, join] at moves
    split at moves
    · rename_i possible
      cases moves
      exact .joins index possible.1 possible.2
    · cases moves
  | sweep =>
    simp only [advance, sweep] at moves
    split at moves
    swap
    · cases moves
    rename_i possible
    split at moves
    · cases moves
    rename_i query present
    cases moves
    split
    · rename_i reported
      exact .skips possible.1 possible.2.1 possible.2.2
        (List.getElem?_eq_some_iff.mp present).1 reported
    · rename_i missing
      exact .sweeps query possible.1 possible.2.1 possible.2.2 present missing

/-! ### The books -/

/-- The result that a query deserves: a task that vanished is aborted, a query that got no slot is
cancelled, and every other one has the result that scoring it by itself gives. -/
def deserved (batch : Batch) (score : Scoring) (progress : Progress) (index : Nat)
    (query : Query) : QueryResult :=
  if progress.spawned.length ≤ index then .error .cancelled
  else if index ∈ progress.lost then .error aborted
  else batch.scoreOne score query

/-- What holds between a batch and the outcomes it has sent. -/
structure Accounted (batch : Batch) (score : Scoring) (queries : List Query) (progress : Progress)
    (sent : List Outcome) : Prop where
  /-- Only queries ask. -/
  bounded : progress.next ≤ queries.length
  /-- Only a query waits. -/
  awaits : progress.asking = true → progress.next < queries.length
  /-- The queries that got a slot are the first ones. -/
  inOrder : progress.spawned = List.range progress.spawned.length
  asked : progress.spawned.length ≤ progress.next
  /-- Every query that has asked is in one place. -/
  placed : (progress.running ++ progress.ended ++ progress.lost ++ progress.reported).Perm
    (List.range progress.next)
  /-- Tasks are tasks of queries that got a slot. -/
  tasks : ∀ index ∈ progress.running ++ progress.ended ++ progress.lost,
    index < progress.spawned.length
  /-- Queries are reported once. -/
  once : (sent.map Outcome.index).Perm (progress.ended ++ progress.reported ++
    progress.lost.filter (· < progress.swept))
  /-- The last pass comes last. -/
  last : 0 < progress.swept →
    queries.length ≤ progress.next ∧ progress.running = [] ∧ progress.ended = []
  sweptBounded : progress.swept ≤ queries.length
  /-- Outcomes are about the query at their position. -/
  faithful : ∀ outcome ∈ sent, ∃ query, queries[outcome.index]? = some query ∧
    outcome.query = query.id ∧
    outcome.result = batch.deserved score progress outcome.index query

theorem accounted_start (batch : Batch) (score : Scoring) (queries : List Query) :
    Accounted batch score queries {} [] where
  bounded := Nat.zero_le _
  awaits := by simp
  inOrder := rfl
  asked := Nat.le_refl _
  placed := List.Perm.refl _
  tasks := by simp
  once := List.Perm.refl _
  last := by simp
  sweptBounded := Nat.zero_le _
  faithful := by simp

/-- A name that goes from one list to another stays the only one of its kind. -/
theorem count_move (others : List Nat) {names : List Nat} {index : Nat} (member : index ∈ names)
    (other : Nat) :
    (names.erase index).count other + (others ++ [index]).count other =
      names.count other + others.count other := by
  have positive : 0 < names.count index := List.count_pos_iff.mpr member
  rw [List.count_append, List.count_singleton, List.count_erase]
  by_cases same : index = other
  · subst same
    simp only [beq_self_eq_true, if_true]
    omega
  · simp [same]

theorem count_filter_lt (names : List Nat) (bound index : Nat) :
    (names.filter (· < bound)).count index = if index < bound then names.count index else 0 := by
  split
  · rename_i below
    exact List.count_filter (by simpa using below)
  · rename_i above
    refine List.count_eq_zero.mpr fun member => above ?_
    simpa using (List.mem_filter.mp member).2

namespace Accounted

variable {sent : List Outcome}

omit [DecidableEq Name] in
/-- Every query that has asked is in one place, and no other is in any. -/
theorem count_eq (accounted : Accounted batch score queries progress sent) (index : Nat) :
    progress.running.count index + progress.ended.count index + progress.lost.count index +
      progress.reported.count index = if index < progress.next then 1 else 0 := by
  have counted := (List.perm_iff_count.mp accounted.placed) index
  rw [List.nodup_range.count, List.count_append, List.count_append, List.count_append] at counted
  simpa using counted

/-- Whoever has sent an outcome has asked and is no task any more. -/
theorem placed_of_sent (accounted : Accounted batch score queries progress sent)
    {outcome : Outcome} (member : outcome ∈ sent) :
    outcome.index < progress.next ∧ outcome.index ∉ progress.running := by
  have listed := accounted.once.mem_iff.mp (List.mem_map_of_mem (f := Outcome.index) member)
  have counted := accounted.count_eq outcome.index
  have positive : 0 < progress.ended.count outcome.index + progress.lost.count outcome.index +
      progress.reported.count outcome.index := by
    rcases List.mem_append.mp listed with early | late
    · rcases List.mem_append.mp early with ended | reported
      · have := List.count_pos_iff.mpr ended
        omega
      · have := List.count_pos_iff.mpr reported
        omega
    · have := List.count_pos_iff.mpr (List.mem_filter.mp late).1
      omega
  constructor
  · by_contra above
    rw [if_neg above] at counted
    omega
  · intro running
    have := List.count_pos_iff.mpr running
    split at counted <;> omega

/-- What an outcome says stays right as long as its query got no slot later and did not vanish. -/
theorem faithful_of_later (accounted : Accounted batch score queries progress sent)
    {later : Progress} {outcome : Outcome} (member : outcome ∈ sent)
    (slots : later.spawned.length ≤ outcome.index ↔ progress.spawned.length ≤ outcome.index)
    (fates : outcome.index ∈ later.lost ↔ outcome.index ∈ progress.lost) :
    ∃ query, queries[outcome.index]? = some query ∧ outcome.query = query.id ∧
      outcome.result = batch.deserved score later outcome.index query := by
  obtain ⟨query, present, same, result⟩ := accounted.faithful outcome member
  refine ⟨query, present, same, result.trans ?_⟩
  simp only [deserved, slots, fates]

/-- An outcome that is added to those that were sent. -/
theorem faithful_append {later : Progress} {added : Outcome}
    (before : ∀ outcome ∈ sent, ∃ query, queries[outcome.index]? = some query ∧
      outcome.query = query.id ∧ outcome.result = batch.deserved score later outcome.index query)
    {query : Query} (present : queries[added.index]? = some query) (same : added.query = query.id)
    (result : added.result = batch.deserved score later added.index query) :
    ∀ outcome ∈ sent ++ [added], ∃ query, queries[outcome.index]? = some query ∧
      outcome.query = query.id ∧
      outcome.result = batch.deserved score later outcome.index query := by
  intro outcome member
  rcases List.mem_append.mp member with early | new
  · exact before outcome early
  · obtain rfl := List.mem_singleton.mp new
    exact ⟨query, present, same, result⟩

theorem granted (accounted : Accounted batch score queries progress sent) {query : Query}
    (present : queries[progress.next]? = some query)
    (everyone : progress.spawned.length = progress.next) :
    Accounted batch score queries { progress with
      next := progress.next + 1
      asking := false
      spawned := progress.spawned ++ [progress.next]
      running := progress.running ++ [progress.next] } sent where
  bounded := (List.getElem?_eq_some_iff.mp present).1
  awaits := by simp
  inOrder := by
    rw [List.length_append, List.length_singleton, List.range_succ, ← accounted.inOrder, everyone]
  asked := by simp [everyone]
  placed := by
    refine List.perm_iff_count.mpr fun index => ?_
    have counted := accounted.count_eq index
    rw [List.nodup_range.count]
    simp only [List.count_append, List.count_singleton, List.mem_range, beq_iff_eq]
    split at counted <;> split <;> split <;> omega
  tasks := by
    have tasks := accounted.tasks
    simp only [List.mem_append, List.mem_singleton, List.length_append,
      List.length_singleton] at tasks ⊢
    intro index member
    by_cases new : index = progress.next
    · omega
    · have := tasks index (by tauto)
      omega
  once := accounted.once
  last := fun positive => by
    have := (accounted.last positive).1
    have := (List.getElem?_eq_some_iff.mp present).1
    omega
  sweptBounded := accounted.sweptBounded
  faithful := fun outcome member => by
    refine accounted.faithful_of_later member ?_ Iff.rfl
    have := (accounted.placed_of_sent member).1
    simp only [List.length_append, List.length_singleton]
    omega

theorem refused (accounted : Accounted batch score queries progress sent) {query : Query}
    (present : queries[progress.next]? = some query) :
    Accounted batch score queries { progress with
      next := progress.next + 1
      asking := false
      reported := progress.reported ++ [progress.next] }
      (sent ++ [⟨progress.next, query.id, .error .cancelled⟩]) where
  bounded := (List.getElem?_eq_some_iff.mp present).1
  awaits := by simp
  inOrder := accounted.inOrder
  asked := Nat.le_succ_of_le accounted.asked
  placed := by
    refine List.perm_iff_count.mpr fun index => ?_
    have counted := accounted.count_eq index
    rw [List.nodup_range.count]
    simp only [List.count_append, List.count_singleton, List.mem_range, beq_iff_eq]
    split at counted <;> split <;> split <;> omega
  tasks := accounted.tasks
  once := by
    refine List.perm_iff_count.mpr fun index => ?_
    have counted := (List.perm_iff_count.mp accounted.once) index
    simp only [List.map_append, List.map_cons, List.map_nil, List.count_append] at counted ⊢
    omega
  last := fun positive => by
    have := (accounted.last positive).1
    have := (List.getElem?_eq_some_iff.mp present).1
    omega
  sweptBounded := accounted.sweptBounded
  faithful := by
    refine faithful_append accounted.faithful present rfl ?_
    simp only [deserved, if_pos accounted.asked]

theorem sends (accounted : Accounted batch score queries progress sent) {index : Nat}
    {query : Query} (present : queries[index]? = some query) (running : index ∈ progress.running) :
    Accounted batch score queries { progress with
      running := progress.running.erase index
      ended := progress.ended ++ [index] }
      (sent ++ [⟨index, query.id, batch.scoreOne score query⟩]) where
  bounded := accounted.bounded
  awaits := accounted.awaits
  inOrder := accounted.inOrder
  asked := accounted.asked
  placed := by
    refine List.perm_iff_count.mpr fun other => ?_
    have counted := (List.perm_iff_count.mp accounted.placed) other
    have moved := count_move progress.ended running other
    simp only [List.count_append] at counted moved ⊢
    omega
  tasks := fun other member => by
    refine accounted.tasks other ?_
    have earlier : other ∈ progress.running.erase index → other ∈ progress.running :=
      List.mem_of_mem_erase
    simp only [List.mem_append, List.mem_singleton] at member ⊢
    rcases member with (run | ended | rfl) | lost
    · exact Or.inl (Or.inl (earlier run))
    · exact Or.inl (Or.inr ended)
    · exact Or.inl (Or.inl running)
    · exact Or.inr lost
  once := by
    refine List.perm_iff_count.mpr fun other => ?_
    have counted := (List.perm_iff_count.mp accounted.once) other
    simp only [List.map_append, List.map_cons, List.map_nil, List.count_append] at counted ⊢
    omega
  last := fun positive => by
    rw [(accounted.last positive).2.1] at running
    cases running
  sweptBounded := accounted.sweptBounded
  faithful := by
    refine faithful_append accounted.faithful present rfl ?_
    have below : index < progress.spawned.length :=
      accounted.tasks index (List.mem_append_left _ (List.mem_append_left _ running))
    have kept : index ∉ progress.lost := fun lost => by
      have counted := accounted.count_eq index
      have := List.count_pos_iff.mpr running
      have := List.count_pos_iff.mpr lost
      split at counted <;> omega
    simp only [deserved, if_neg (Nat.not_le.mpr below), if_neg kept]

theorem loses (accounted : Accounted batch score queries progress sent) {index : Nat}
    (running : index ∈ progress.running) :
    Accounted batch score queries { progress with
      running := progress.running.erase index
      lost := progress.lost ++ [index] } sent where
  bounded := accounted.bounded
  awaits := accounted.awaits
  inOrder := accounted.inOrder
  asked := accounted.asked
  placed := by
    refine List.perm_iff_count.mpr fun other => ?_
    have counted := (List.perm_iff_count.mp accounted.placed) other
    have moved := count_move progress.lost running other
    simp only [List.count_append] at counted moved ⊢
    omega
  tasks := fun other member => by
    refine accounted.tasks other ?_
    have earlier : other ∈ progress.running.erase index → other ∈ progress.running :=
      List.mem_of_mem_erase
    simp only [List.mem_append, List.mem_singleton] at member ⊢
    rcases member with (run | ended) | lost | rfl
    · exact Or.inl (Or.inl (earlier run))
    · exact Or.inl (Or.inr ended)
    · exact Or.inr lost
    · exact Or.inl (Or.inl running)
  once := by
    -- The last pass has not begun, since a task is still running.
    have early : progress.swept = 0 := by
      by_contra late
      rw [(accounted.last (Nat.pos_of_ne_zero late)).2.1] at running
      cases running
    have once := accounted.once
    simpa [early] using once
  last := fun positive => by
    rw [(accounted.last positive).2.1] at running
    cases running
  sweptBounded := accounted.sweptBounded
  faithful := fun outcome member => by
    refine accounted.faithful_of_later member Iff.rfl ?_
    have different : outcome.index ≠ index := fun same =>
      (accounted.placed_of_sent member).2 (same ▸ running)
    simp [different]

theorem joins (accounted : Accounted batch score queries progress sent) {index : Nat}
    (ended : index ∈ progress.ended) :
    Accounted batch score queries { progress with
      ended := progress.ended.erase index
      reported := progress.reported ++ [index] } sent where
  bounded := accounted.bounded
  awaits := accounted.awaits
  inOrder := accounted.inOrder
  asked := accounted.asked
  placed := by
    refine List.perm_iff_count.mpr fun other => ?_
    have counted := (List.perm_iff_count.mp accounted.placed) other
    have moved := count_move progress.reported ended other
    simp only [List.count_append] at counted moved ⊢
    omega
  tasks := fun other member => by
    refine accounted.tasks other ?_
    have earlier : other ∈ progress.ended.erase index → other ∈ progress.ended :=
      List.mem_of_mem_erase
    simp only [List.mem_append] at member ⊢
    tauto
  once := by
    refine List.perm_iff_count.mpr fun other => ?_
    have counted := (List.perm_iff_count.mp accounted.once) other
    have moved := count_move progress.reported ended other
    simp only [List.count_append] at counted moved ⊢
    omega
  last := fun positive => by
    rw [(accounted.last positive).2.2] at ended
    cases ended
  sweptBounded := accounted.sweptBounded
  faithful := fun outcome member => accounted.faithful_of_later member Iff.rfl Iff.rfl

theorem skips (accounted : Accounted batch score queries progress sent)
    (asked : queries.length ≤ progress.next) (quiet : progress.running = [])
    (awaited : progress.ended = []) (present : progress.swept < queries.length)
    (reported : progress.swept ∈ progress.reported) :
    Accounted batch score queries { progress with swept := progress.swept + 1 } sent where
  bounded := accounted.bounded
  awaits := accounted.awaits
  inOrder := accounted.inOrder
  asked := accounted.asked
  placed := accounted.placed
  tasks := accounted.tasks
  once := by
    refine List.perm_iff_count.mpr fun other => ?_
    have counted := (List.perm_iff_count.mp accounted.once) other
    have placed := accounted.count_eq other
    simp only [List.count_append, count_filter_lt] at counted ⊢
    by_cases same : other = progress.swept
    · subst same
      have := List.count_pos_iff.mpr reported
      have : progress.lost.count progress.swept = 0 := by split at placed <;> omega
      simp only [this, ite_self] at counted ⊢
      exact counted
    · have : other < progress.swept + 1 ↔ other < progress.swept := by omega
      simp only [this]
      exact counted
  last := fun _ => ⟨asked, quiet, awaited⟩
  sweptBounded := present
  faithful := accounted.faithful

theorem sweeps (accounted : Accounted batch score queries progress sent) {query : Query}
    (asked : queries.length ≤ progress.next) (quiet : progress.running = [])
    (awaited : progress.ended = []) (present : queries[progress.swept]? = some query)
    (missing : progress.swept ∉ progress.reported) :
    Accounted batch score queries { progress with swept := progress.swept + 1 }
      (sent ++ [⟨progress.swept, query.id, .error aborted⟩]) := by
  have below : progress.swept < queries.length := (List.getElem?_eq_some_iff.mp present).1
  have vanished : progress.lost.count progress.swept = 1 := by
    have placed := accounted.count_eq progress.swept
    rw [quiet, awaited, List.count_eq_zero.mpr missing, if_pos (by omega)] at placed
    simpa using placed
  exact {
    bounded := accounted.bounded
    awaits := accounted.awaits
    inOrder := accounted.inOrder
    asked := accounted.asked
    placed := accounted.placed
    tasks := accounted.tasks
    once := by
      refine List.perm_iff_count.mpr fun other => ?_
      have counted := (List.perm_iff_count.mp accounted.once) other
      simp only [List.map_append, List.map_cons, List.map_nil, List.count_append, count_filter_lt,
        List.count_singleton, beq_iff_eq] at counted ⊢
      by_cases same : progress.swept = other
      · subst same
        simp only [Nat.lt_irrefl, if_false, vanished, Nat.lt_succ_self, if_true] at counted ⊢
        omega
      · have : other < progress.swept + 1 ↔ other < progress.swept := by omega
        simp only [this, if_neg same]
        exact counted
    last := fun _ => ⟨asked, quiet, awaited⟩
    sweptBounded := below
    faithful := by
      refine faithful_append accounted.faithful present rfl ?_
      have inside : progress.swept ∈ progress.lost := List.count_pos_iff.mp (by omega)
      have got : progress.swept < progress.spawned.length :=
        accounted.tasks _ (List.mem_append_right _ inside)
      simp only [deserved, if_neg (Nat.not_le.mpr got), if_pos inside] }

end Accounted

/-! ### The books and the slots -/

/-- What holds between a batch and the slots: queries that got none came after a cancellation, calls
are calls of queries that got one, and the only query that may wish for one is the next. -/
structure Linked (name : Nat → Name) (calls : Calls Name) (progress : Progress) : Prop where
  cut : progress.spawned.length < progress.next → calls.cancelled = true
  called : ∀ index, name index ∈ calls.names → index < progress.spawned.length
  wishing : ∀ index, name index ∈ calls.budget.wishes ↔
    index = progress.next ∧ progress.asking = true

variable {own : Name → Prop} {sent : List Outcome} {move : Move} {after : Advance Name}

omit [DecidableEq Name] in
/-- A query goes without a slot only once the run is cancelled. -/
theorem Linked.everyone (linked : Linked name calls progress)
    (accounted : Accounted batch score queries progress sent) (signal : calls.cancelled = false) :
    progress.spawned.length = progress.next := by
  by_contra different
  have cut := linked.cut (Nat.lt_of_le_of_ne accounted.asked different)
  rw [signal] at cut
  cases cut

/-- A move does nothing to the slots but ask for one. -/
theorem calls_of_advance
    (moves : batch.advance score queries name calls progress move = some after) :
    after.calls = calls ∨ ∃ cancels answer,
      calls.ask (name progress.next) cancels = (answer, after.calls) := by
  cases advanced_of_advance moves with
  | granted query later present asks => exact Or.inr ⟨_, _, asks⟩
  | refused query later present asks => exact Or.inr ⟨_, _, asks⟩
  | waits query later present asks => exact Or.inr ⟨_, _, asks⟩
  | _ => exact Or.inl rfl

omit [DecidableEq Name] in
/-- The next query makes no call yet. -/
theorem fresh_next (accounted : Accounted batch score queries progress sent)
    (linked : Linked name calls progress) : name progress.next ∉ calls.names := fun member => by
  have := linked.called _ member
  have := accounted.asked
  omega

theorem sound_advance (sound : calls.Sound own) (owns : ∀ index, own (name index))
    (accounted : Accounted batch score queries progress sent)
    (linked : Linked name calls progress)
    (moves : batch.advance score queries name calls progress move = some after) :
    after.calls.Sound own := by
  obtain same | ⟨cancels, answer, asks⟩ := calls_of_advance moves
  · rw [same]
    exact sound
  · exact Calls.sound_ask sound asks (owns _) (fresh_next accounted linked)

theorem cancelled_advance
    (moves : batch.advance score queries name calls progress move = some after) :
    after.calls.cancelled = calls.cancelled := by
  obtain same | ⟨cancels, answer, asks⟩ := calls_of_advance moves
  · rw [same]
  · exact Calls.cancelled_of_ask asks

theorem size_advance
    (moves : batch.advance score queries name calls progress move = some after) :
    after.calls.budget.size = calls.budget.size := by
  obtain same | ⟨cancels, answer, asks⟩ := calls_of_advance moves
  · rw [same]
  · exact Calls.size_of_ask asks

/-- Once the run is cancelled, no query gets a slot any more. -/
theorem spawned_advance (signal : calls.cancelled = true)
    (moves : batch.advance score queries name calls progress move = some after) :
    after.progress.spawned = progress.spawned := by
  cases advanced_of_advance moves with
  | granted query later present asks =>
    cases Calls.asked_of_ask asks with
    | granted budget free =>
      rw [signal] at free
      cases free
  | _ => rfl

/-- A slot is granted only before the cancellation, when every query before this one got one. -/
theorem everyone_of_granted (accounted : Accounted batch score queries progress sent)
    (linked : Linked name calls progress) {cancels : Bool} {later : Calls Name}
    (asks : calls.ask (name progress.next) cancels = (.granted, later)) :
    progress.spawned.length = progress.next := by
  cases Calls.asked_of_ask asks with
  | granted budget signal acquired =>
    by_contra different
    have cut := linked.cut (Nat.lt_of_le_of_ne accounted.asked different)
    rw [signal] at cut
    cases cut

/-- A batch keeps its books whatever move it makes. -/
theorem accounted_advance (accounted : Accounted batch score queries progress sent)
    (linked : Linked name calls progress)
    (moves : batch.advance score queries name calls progress move = some after) :
    Accounted batch score queries after.progress (sent ++ after.sent.toList) := by
  cases advanced_of_advance moves with
  | granted query later present asks =>
    have everyone := everyone_of_granted accounted linked asks
    simpa using accounted.granted present everyone
  | refused query later present asks => exact accounted.refused present
  | waits query later present asks first =>
    have awaits : true = true → progress.next < queries.length := fun _ =>
      (List.getElem?_eq_some_iff.mp present).1
    simpa using ({ accounted with awaits } :
      Accounted batch score queries { progress with asking := true } sent)
  | sends index query present running returned => exact accounted.sends present running
  | loses index running => simpa using accounted.loses running
  | joins index asked ended => simpa using accounted.joins ended
  | skips asked quiet awaited present reported =>
    simpa using accounted.skips asked quiet awaited present reported
  | sweeps query asked quiet awaited present missing =>
    exact accounted.sweeps asked quiet awaited present missing

omit [DecidableEq Name] in
/-- What others do to the slots does not matter as long as it leaves the batch its own. -/
theorem Linked.of_others (linked : Linked name calls progress) {later : Calls Name}
    (signal : calls.cancelled = true → later.cancelled = true)
    (names : ∀ index, name index ∈ later.names → name index ∈ calls.names)
    (wishes : ∀ index, name index ∈ later.budget.wishes ↔ name index ∈ calls.budget.wishes) :
    Linked name later progress where
  cut := fun behind => signal (linked.cut behind)
  called := fun index member => linked.called index (names index member)
  wishing := fun index => (wishes index).trans (linked.wishing index)

/-- A batch stays in keeping with the slots whatever move it makes. -/
theorem linked_advance (sound : calls.Sound own) (owns : ∀ index, own (name index))
    (distinct : Function.Injective name)
    (accounted : Accounted batch score queries progress sent)
    (linked : Linked name calls progress)
    (moves : batch.advance score queries name calls progress move = some after) :
    Linked name after.calls after.progress := by
  have fresh := fresh_next accounted linked
  cases advanced_of_advance moves with
  | granted query later present asks =>
    have wishes := Calls.wishes_of_answered sound asks (owns _) fresh (by decide)
    refine ⟨fun behind => ?_, fun index member => ?_, fun index => ?_⟩
    · simp only [List.length_append, List.length_singleton] at behind
      rw [Calls.cancelled_of_ask asks]
      exact linked.cut (by omega)
    · rw [Calls.names_of_granted asks] at member
      simp only [List.length_append, List.length_singleton]
      rcases List.mem_cons.mp member with same | earlier
      · have everyone := everyone_of_granted accounted linked asks
        have := distinct same
        omega
      · have := linked.called index earlier
        omega
    · rw [wishes, linked.wishing]
      simp only [Bool.false_eq_true, and_false, iff_false, not_and]
      rintro different rfl
      exact absurd rfl different
  | refused query later present asks =>
    have wishes := Calls.wishes_of_answered sound asks (owns _) fresh (by decide)
    have signal : calls.cancelled = true := by
      cases Calls.asked_of_ask asks with
      | refused budget signal => exact signal
    refine ⟨fun _ => ?_, fun index member => ?_, fun index => ?_⟩
    · rw [Calls.cancelled_of_ask asks]
      exact signal
    · have same := Calls.ongoing_of_not_granted asks (by decide)
      rw [Calls.names, same] at member
      exact linked.called index member
    · rw [wishes, linked.wishing]
      simp only [Bool.false_eq_true, and_false, iff_false, not_and]
      rintro different rfl
      exact absurd rfl different
  | waits query later present asks first =>
    refine ⟨fun behind => ?_, fun index member => ?_, fun index => ?_⟩
    · rw [Calls.cancelled_of_ask asks]
      exact linked.cut behind
    · have same := Calls.ongoing_of_not_granted asks (by decide)
      rw [Calls.names, same] at member
      exact linked.called index member
    · rw [Calls.wishes_of_waiting asks, linked.wishing, first, distinct.eq_iff]
      simp
  | _ => exact ⟨linked.cut, linked.called, linked.wishing⟩

/-! ### The end of a batch -/

omit [DecidableEq Name] in
/-- A batch that is through has sent one outcome for every query. -/
theorem Accounted.complete (accounted : Accounted batch score queries progress sent)
    (done : progress.isDone queries = true) : Covers queries sent := by
  refine Covers.of_indexes ?_ fun outcome member => ?_
  swap
  · obtain ⟨query, present, name, -⟩ := accounted.faithful outcome member
    exact ⟨query, present, name⟩
  obtain ⟨asked, quiet, awaited, swept⟩ := of_decide_eq_true done
  have everyone : progress.next = queries.length := Nat.le_antisymm accounted.bounded asked
  have placed := accounted.placed
  have once := accounted.once
  rw [quiet, awaited, everyone] at placed
  rw [awaited] at once
  have vanished : progress.lost.filter (· < progress.swept) = progress.lost := by
    refine List.filter_eq_self.mpr fun index lost => ?_
    have inside : index ∈ List.range queries.length :=
      placed.mem_iff.mp (List.mem_append_left _ (List.mem_append_right _ lost))
    have := List.mem_range.mp inside
    simpa using Nat.lt_of_lt_of_le this swept
  rw [vanished] at once
  exact once.trans (List.perm_append_comm.trans (by simpa using placed))

/-- A batch that is through makes no more moves. -/
theorem advance_of_done (done : progress.isDone queries = true) (move : Move) :
    batch.advance score queries name calls progress move = none := by
  obtain ⟨asked, quiet, awaited, swept⟩ := of_decide_eq_true done
  cases moves : batch.advance score queries name calls progress move with
  | none => rfl
  | some after =>
    cases advanced_of_advance moves with
    | granted query later present | refused query later present | waits query later present =>
      have := (List.getElem?_eq_some_iff.mp present).1
      omega
    | sends index query present running =>
      rw [quiet] at running
      cases running
    | loses index running =>
      rw [quiet] at running
      cases running
    | joins index asked ended =>
      rw [awaited] at ended
      cases ended
    | skips asked quiet awaited present => omega
    | sweeps query asked quiet awaited present =>
      have := (List.getElem?_eq_some_iff.mp present).1
      omega

/-! ### The way to the end -/

/-- A batch that is not through and whose calls have returned can make one of the moves that it
tries when it is run in turn, unless its next query waits for a slot. -/
theorem can_advance (accounted : Accounted batch score queries progress sent)
    (returned : ∀ index ∈ progress.running, name index ∉ calls.names)
    (unfinished : progress.isDone queries = false) :
    (∃ move ∈ progress.options, ∃ after,
        batch.advance score queries name calls progress move = some after) ∨
      (progress.asking = true ∧
        ∃ cancels later, calls.ask (name progress.next) cancels = (.waiting, later)) := by
  by_cases asked : queries.length ≤ progress.next
  swap
  · -- The next query asks.
    have present := List.getElem?_eq_getElem (Nat.lt_of_not_le asked)
    generalize queries[progress.next] = query at present
    generalize asks : calls.ask (name progress.next) (batch.call score query).cancels = result
    obtain ⟨answer, later⟩ := result
    have possible (enough : answer ≠ .waiting ∨ progress.asking = false) :
        ∃ move ∈ progress.options, ∃ after,
          batch.advance score queries name calls progress move = some after := by
      refine ⟨.ask, by simp [Progress.options], Option.isSome_iff_exists.mp ?_⟩
      simp only [advance, ask, present, asks]
      cases Calls.asked_of_ask asks with
      | granted | refused => rfl
      | waiting => simp [enough.resolve_left (fun different => different rfl)]
    cases Calls.asked_of_ask asks with
    | granted | refused => exact Or.inl (possible (Or.inl (by decide)))
    | waiting =>
      cases first : progress.asking with
      | false => exact Or.inl (possible (Or.inr first))
      | true => exact Or.inr ⟨rfl, _, _, asks⟩
  by_cases quiet : progress.running = []
  swap
  · -- A task whose call has returned sends its outcome.
    obtain ⟨index, running⟩ := List.exists_mem_of_ne_nil _ quiet
    have below : index < queries.length := by
      have := accounted.tasks index (List.mem_append_left _ (List.mem_append_left _ running))
      have := accounted.asked
      have := accounted.bounded
      omega
    refine Or.inl ⟨.send index, by simp [Progress.options, running],
      Option.isSome_iff_exists.mp ?_⟩
    simp [advance, send, List.getElem?_eq_getElem below, running, returned index running]
  by_cases awaited : progress.ended = []
  swap
  · -- A task that has sent its outcome is awaited.
    obtain ⟨index, ended⟩ := List.exists_mem_of_ne_nil _ awaited
    refine Or.inl ⟨.join index, by simp [Progress.options, ended],
      Option.isSome_iff_exists.mp ?_⟩
    simp [advance, join, asked, ended]
  -- The last pass goes on.
  have below : progress.swept < queries.length := by
    simp only [Progress.isDone, decide_eq_false_iff_not, asked, quiet, awaited, true_and,
      Nat.not_le] at unfinished
    exact unfinished
  refine Or.inl ⟨.sweep, by simp [Progress.options], Option.isSome_iff_exists.mp ?_⟩
  simp [advance, sweep, asked, quiet, awaited, List.getElem?_eq_getElem below]

/-- One position less to go, weighed. -/
theorem sub_mul_of_lt {bound position : Nat} (below : position < bound) (weight : Nat) :
    (bound - position) * weight = (bound - (position + 1)) * weight + weight := by
  rw [← Nat.succ_mul]
  congr 1
  omega

/-- Every move of a batch uses up one of those that are left, also if an outcome that is sent leads
to more of them. -/
theorem remaining_advance (weight : Nat)
    (moves : batch.advance score queries name calls progress move = some after) :
    after.progress.remaining weight queries + after.sent.toList.length * weight +
        after.calls.ongoing.length <
      progress.remaining weight queries + calls.ongoing.length := by
  have waiting : (if progress.asking = true then 0 else 1) ≤ 1 := by split <;> omega
  cases advanced_of_advance moves with
  | granted query later present asks =>
    have fewer := sub_mul_of_lt (List.getElem?_eq_some_iff.mp present).1 (weight + 6)
    have ongoing : later.ongoing.length = calls.ongoing.length + 1 := by
      simpa [Calls.names] using congrArg List.length (Calls.names_of_granted asks)
    simp only [Progress.remaining, List.length_append, List.length_singleton, Option.toList_none,
      List.length_nil, Bool.false_eq_true, if_false, Nat.succ_mul, ongoing]
    omega
  | refused query later present asks =>
    have fewer := sub_mul_of_lt (List.getElem?_eq_some_iff.mp present).1 (weight + 6)
    have ongoing := Calls.ongoing_of_not_granted asks (by decide)
    simp only [Progress.remaining, Option.toList_some, List.length_singleton, Bool.false_eq_true,
      if_false, ongoing, Nat.one_mul]
    omega
  | waits query later present asks first =>
    have ongoing := Calls.ongoing_of_not_granted asks (by decide)
    simp [Progress.remaining, first, ongoing]
  | sends index query present running returned =>
    have fewer := Budget.length_erase_add_one running
    have product := congrArg (· * (weight + 2)) fewer
    simp only [Nat.add_mul, Nat.one_mul] at product
    simp only [Progress.remaining, List.length_append, List.length_singleton, Option.toList_some,
      Nat.one_mul]
    omega
  | loses index running =>
    have fewer := Budget.length_erase_add_one running
    have product := congrArg (· * (weight + 2)) fewer
    simp only [Nat.add_mul, Nat.one_mul] at product
    simp only [Progress.remaining, Option.toList_none, List.length_nil, Nat.zero_mul]
    omega
  | joins index asked ended =>
    have fewer := Budget.length_erase_add_one ended
    simp only [Progress.remaining, Option.toList_none, List.length_nil, Nat.zero_mul]
    omega
  | skips asked quiet awaited present reported =>
    have fewer := sub_mul_of_lt present (weight + 1)
    simp only [Progress.remaining, Option.toList_none, List.length_nil, Nat.zero_mul]
    omega
  | sweeps query asked quiet awaited present missing =>
    have fewer := sub_mul_of_lt (List.getElem?_eq_some_iff.mp present).1 (weight + 1)
    simp only [Progress.remaining, Option.toList_some, List.length_singleton, Nat.one_mul]
    omega

end Batch

end Holdout
