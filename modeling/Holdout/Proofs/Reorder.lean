/-
This file proves that reordering loses nothing and puts everything in order: at any moment what was
released are the outcomes of the first positions, the position that is due has not arrived, what is
held comes later, and both together are what has arrived. So nothing is held that could be released,
and what comes out in the end is what went in, sorted by position, however it was cut into chunks.
-/

import Holdout.Batch.Results
import Holdout.Experiment.Reorder
import Holdout.Proofs.Sorting
import Mathlib.Data.Nat.Basic
import Mathlib.Order.Bounds.Defs

namespace Holdout

namespace Reorder

/-! ### Holding -/

/-- Outcomes stand in the order of their positions. -/
def Ascending (outcomes : List Outcome) : Prop :=
  outcomes.Pairwise fun first second => first.index < second.index

theorem mem_insert {outcome other : Outcome} {held : List Outcome}
    (member : other ∈ insert outcome held) : other = outcome ∨ other ∈ held := by
  induction held with
  | nil => simpa [insert] using member
  | cons first rest inductionHypothesis =>
    unfold insert at member
    split at member
    · simpa using member
    split at member
    · rcases List.mem_cons.mp member with here | later
      · exact Or.inl here
      · exact Or.inr (List.mem_cons_of_mem _ later)
    · rcases List.mem_cons.mp member with here | later
      · exact Or.inr (here ▸ List.mem_cons_self)
      · exact (inductionHypothesis later).imp id (List.mem_cons_of_mem _)

theorem ascending_insert {outcome : Outcome} {held : List Outcome} (ascending : Ascending held) :
    Ascending (insert outcome held) := by
  induction held with
  | nil => exact List.pairwise_singleton _ _
  | cons first rest inductionHypothesis =>
    obtain ⟨before, ascendingRest⟩ := List.pairwise_cons.mp ascending
    unfold insert
    split
    · rename_i earlier
      refine List.pairwise_cons.mpr ⟨fun other member => ?_, ascending⟩
      rcases List.mem_cons.mp member with rfl | later
      · exact earlier
      · exact Nat.lt_trans earlier (before other later)
    split
    · rename_i same
      exact List.pairwise_cons.mpr ⟨fun other member => same ▸ before other member, ascendingRest⟩
    · rename_i notEarlier notSame
      refine List.pairwise_cons.mpr ⟨fun other member => ?_, inductionHypothesis ascendingRest⟩
      rcases mem_insert member with rfl | later
      · omega
      · exact before other later

/-- A new position is added to what is held. -/
theorem perm_insert {outcome : Outcome} {held : List Outcome}
    (fresh : outcome.index ∉ held.map Outcome.index) :
    (insert outcome held).Perm (outcome :: held) := by
  induction held with
  | nil => exact List.Perm.refl _
  | cons first rest inductionHypothesis =>
    rw [List.map_cons, List.mem_cons, not_or] at fresh
    unfold insert
    split
    · exact List.Perm.refl _
    rw [if_neg fresh.1]
    exact ((inductionHypothesis fresh.2).cons first).trans (List.Perm.swap _ _ _)

/-- Takes all outcomes of a chunk in. -/
def insertAll (held chunk : List Outcome) : List Outcome :=
  chunk.foldl (fun held outcome => insert outcome held) held

theorem ascending_insertAll {held chunk : List Outcome} (ascending : Ascending held) :
    Ascending (insertAll held chunk) := by
  induction chunk generalizing held with
  | nil => exact ascending
  | cons outcome rest inductionHypothesis => exact inductionHypothesis (ascending_insert ascending)

theorem perm_insertAll {held chunk : List Outcome}
    (distinct : ((held ++ chunk).map Outcome.index).Nodup) :
    (insertAll held chunk).Perm (held ++ chunk) := by
  induction chunk generalizing held with
  | nil => simp [insertAll]
  | cons outcome rest inductionHypothesis =>
    have moved : (held ++ outcome :: rest).Perm (outcome :: held ++ rest) := List.perm_middle
    have distinctMoved := ((moved.map Outcome.index).nodup_iff).mp distinct
    have fresh : outcome.index ∉ held.map Outcome.index := by
      rw [List.cons_append, List.map_cons, List.nodup_cons, List.map_append] at distinctMoved
      exact fun member => distinctMoved.1 (List.mem_append_left _ member)
    have inserted := perm_insert fresh
    have distinctInserted : ((insert outcome held ++ rest).map Outcome.index).Nodup :=
      (((inserted.append_right rest).map Outcome.index).nodup_iff).mpr distinctMoved
    exact (inductionHypothesis distinctInserted).trans
      ((inserted.append_right rest).trans moved.symm)

/-! ### Releasing -/

/-- Nothing is due while everything is later. -/
theorem ready_of_later {next : Nat} {held : List Outcome}
    (later : ∀ outcome ∈ held, next < outcome.index) : ready next held = ([], held) := by
  induction held with
  | nil => rfl
  | cons first rest inductionHypothesis =>
    have different : first.index ≠ next := (Nat.ne_of_lt (later first List.mem_cons_self)).symm
    simp only [ready, if_neg different, inductionHypothesis fun outcome member =>
      later outcome (List.mem_cons_of_mem _ member)]

/-- What is due are the positions that follow one another; everything else is later than that. -/
theorem ready_spec {next : Nat} {held : List Outcome} (ascending : Ascending held)
    (notYet : ∀ outcome ∈ held, next ≤ outcome.index) :
    (ready next held).1 ++ (ready next held).2 = held ∧
      (ready next held).1.map Outcome.index = List.range' next (ready next held).1.length ∧
      ∀ outcome ∈ (ready next held).2, next + (ready next held).1.length < outcome.index := by
  induction held generalizing next with
  | nil => simp [ready]
  | cons first rest inductionHypothesis =>
    obtain ⟨before, ascendingRest⟩ := List.pairwise_cons.mp ascending
    unfold ready
    split
    · rename_i due
      have later : ∀ outcome ∈ rest, next + 1 ≤ outcome.index := fun outcome member => by
        have := before outcome member
        omega
      obtain ⟨whole, positions, others⟩ := inductionHypothesis ascendingRest later
      refine ⟨by simp only [List.cons_append, whole], ?_, fun outcome member => ?_⟩
      · simp only [List.map_cons, List.length_cons, List.range'_succ, due, positions]
      · have := others outcome member
        simp only [List.length_cons]
        omega
    · rename_i notDue
      have first_later : next < first.index := by
        have := notYet first List.mem_cons_self
        omega
      have later : ∀ outcome ∈ rest, next < outcome.index := fun outcome member =>
        Nat.lt_trans first_later (before outcome member)
      have nothing := ready_of_later later
      refine ⟨by simp [nothing], by simp [nothing], fun outcome member => ?_⟩
      simp only [nothing, List.length_nil, List.mem_cons] at member ⊢
      rcases member with rfl | among
      · exact first_later
      · exact later outcome among

/-- What holds while outcomes arrive: those of the first positions were released, the one that is
due has not arrived, and the others are held in order. -/
structure Holds (reorder : Reorder) (arrived released : List Outcome) : Prop where
  positions : released.map Outcome.index = List.range reorder.next
  ascending : Ascending reorder.held
  later : ∀ outcome ∈ reorder.held, reorder.next < outcome.index
  nothingLost : (released ++ reorder.held).Perm arrived

theorem holds_start : Holds start [] [] :=
  ⟨rfl, List.Pairwise.nil, by simp [start], List.Perm.refl _⟩

theorem holds_release {reorder : Reorder} {arrived released chunk : List Outcome}
    (holds : Holds reorder arrived released)
    (distinct : ((arrived ++ chunk).map Outcome.index).Nodup) :
    Holds (reorder.release chunk).2 (arrived ++ chunk)
      (released ++ (reorder.release chunk).1) := by
  -- What was released, what is held and what arrives now have different positions.
  have all : (released ++ (reorder.held ++ chunk)).Perm (arrived ++ chunk) := by
    rw [← List.append_assoc]
    exact holds.nothingLost.append_right chunk
  have allDistinct := ((all.map Outcome.index).nodup_iff).mpr distinct
  rw [List.map_append, List.nodup_append] at allDistinct
  obtain ⟨-, newDistinct, apart⟩ := allDistinct
  have inserted := perm_insertAll newDistinct
  have notYet : ∀ outcome ∈ insertAll reorder.held chunk, reorder.next ≤ outcome.index := by
    intro outcome member
    by_contra early
    have before : outcome.index ∈ released.map Outcome.index := by
      rw [holds.positions]
      exact List.mem_range.mpr (Nat.lt_of_not_le early)
    exact apart _ before _ (List.mem_map_of_mem (inserted.mem_iff.mp member)) rfl
  have ascending : Ascending (insertAll reorder.held chunk) := ascending_insertAll holds.ascending
  obtain ⟨whole, positions, others⟩ := ready_spec ascending notYet
  unfold release
  show Holds ⟨reorder.next + (ready reorder.next (insertAll reorder.held chunk)).1.length,
    (ready reorder.next (insertAll reorder.held chunk)).2⟩ (arrived ++ chunk)
    (released ++ (ready reorder.next (insertAll reorder.held chunk)).1)
  refine ⟨?_, ?_, others, ?_⟩
  · have joined := List.range'_append_1 (s := 0) (m := reorder.next)
      (n := (ready reorder.next (insertAll reorder.held chunk)).1.length)
    rw [Nat.zero_add] at joined
    rw [List.map_append, holds.positions, positions, List.range_eq_range', joined,
      List.range_eq_range']
  · rw [← whole] at ascending
    exact (List.pairwise_append.mp ascending).2.1
  · rw [List.append_assoc, whole]
    exact (inserted.append_left released).trans all

theorem Holds.released_lt {reorder : Reorder} {arrived released : List Outcome}
    (holds : Holds reorder arrived released) :
    ∀ outcome ∈ released, outcome.index < reorder.next := by
  intro outcome member
  rw [← List.mem_range, ← holds.positions]
  exact List.mem_map_of_mem member

/-- What is held continues what was released. -/
theorem Holds.ascending_append {reorder : Reorder} {arrived released : List Outcome}
    (holds : Holds reorder arrived released) : Ascending (released ++ reorder.held) := by
  have sorted : (released.map Outcome.index).Pairwise (· < ·) := by
    rw [holds.positions]
    exact List.pairwise_lt_range
  exact List.pairwise_append.mpr ⟨List.pairwise_map.mp sorted, holds.ascending,
    fun first early second late =>
      Nat.lt_trans (holds.released_lt first early) (holds.later second late)⟩

/-! ### After every chunk -/

/-- The buffer once it has taken these chunks in. -/
def after (reorder : Reorder) (chunks : List (List Outcome)) : Reorder :=
  chunks.foldl (fun current chunk => (current.release chunk).2) reorder

/-- What is left at the end is what is held when the last chunk was taken in. -/
theorem releases_eq_concat (reorder : Reorder) (chunks : List (List Outcome)) :
    reorder.releases chunks =
      (reorder.releases chunks).take chunks.length ++ [(reorder.after chunks).held] := by
  induction chunks generalizing reorder with
  | nil => rfl
  | cons chunk rest inductionHypothesis =>
    exact congrArg (List.cons (reorder.release chunk).1) (inductionHypothesis _)

/-- What holds before any chunks holds after the first ones, with what they released. -/
theorem holds_after {reorder : Reorder} {arrived released : List Outcome}
    (holds : Holds reorder arrived released) {chunks : List (List Outcome)}
    (distinct : ((arrived ++ chunks.flatten).map Outcome.index).Nodup) (count : Nat)
    (within : count ≤ chunks.length) :
    Holds (reorder.after (chunks.take count)) (arrived ++ (chunks.take count).flatten)
      (released ++ ((reorder.releases chunks).take count).flatten) := by
  induction chunks generalizing reorder arrived released count with
  | nil =>
    rw [Nat.le_zero.mp within]
    simpa [after] using holds
  | cons chunk rest inductionHypothesis =>
    cases count with
    | zero => simpa [after] using holds
    | succ count =>
      rw [List.flatten_cons, ← List.append_assoc] at distinct
      have distinctFirst : ((arrived ++ chunk).map Outcome.index).Nodup := by
        rw [List.map_append] at distinct
        exact (List.nodup_append.mp distinct).1
      have later := inductionHypothesis (holds_release holds distinctFirst) distinct count
        (Nat.le_of_succ_le_succ within)
      rwa [List.append_assoc, List.append_assoc] at later

/-- What comes out in the end is what arrived, in order. -/
theorem releases_spec (chunks : List (List Outcome))
    (distinct : (chunks.flatten.map Outcome.index).Nodup) :
    (inOrder chunks).flatten.Perm chunks.flatten ∧ Ascending (inOrder chunks).flatten := by
  have holds := holds_after holds_start distinct chunks.length le_rfl
  have whole : (inOrder chunks).flatten =
      ((inOrder chunks).take chunks.length).flatten ++ (start.after chunks).held := by
    rw [inOrder, releases_eq_concat, List.flatten_append, List.flatten_singleton,
      ← releases_eq_concat]
  rw [List.take_length, List.nil_append, List.nil_append] at holds
  rw [whole]
  exact ⟨holds.nothingLost, holds.ascending_append⟩

/-- Everything that may be released was, and nothing else. The position `due` is the first one that
has not arrived; what is before it was released in order, and what is after it is held in order. -/
structure ReleasedTo (due : Nat) (arrived released held : List Outcome) : Prop where
  least : IsLeast {position | position ∉ arrived.map Outcome.index} due
  positions : released.map Outcome.index = List.range due
  earlier : ∀ outcome, outcome ∈ released ↔ outcome ∈ arrived ∧ outcome.index < due
  later : ∀ outcome, outcome ∈ held ↔ outcome ∈ arrived ∧ due < outcome.index
  ascending : Ascending held

theorem Holds.releasedTo {reorder : Reorder} {arrived released : List Outcome}
    (holds : Holds reorder arrived released) :
    ReleasedTo reorder.next arrived released reorder.held := by
  have before := holds.released_lt
  have parts (outcome : Outcome) :
      outcome ∈ arrived ↔ outcome ∈ released ∨ outcome ∈ reorder.held :=
    holds.nothingLost.mem_iff.symm.trans List.mem_append
  refine ⟨⟨?_, ?_⟩, holds.positions, fun outcome => ?_, fun outcome => ?_, holds.ascending⟩
  · intro present
    obtain ⟨outcome, member, index⟩ := List.mem_map.mp present
    rcases (parts outcome).mp member with early | late
    · exact Nat.ne_of_lt (before outcome early) index
    · exact Nat.ne_of_gt (holds.later outcome late) index
  · intro position missing
    by_contra early
    have released : position ∈ released.map Outcome.index := by
      rw [holds.positions]
      exact List.mem_range.mpr (Nat.lt_of_not_le early)
    obtain ⟨outcome, member, index⟩ := List.mem_map.mp released
    exact missing (index ▸ List.mem_map_of_mem ((parts outcome).mpr (Or.inl member)))
  · rw [parts]
    refine ⟨fun member => ⟨Or.inl member, before outcome member⟩, fun ⟨member, early⟩ => ?_⟩
    exact member.resolve_right fun late => Nat.lt_asymm early (holds.later outcome late)
  · rw [parts]
    refine ⟨fun member => ⟨Or.inr member, holds.later outcome member⟩, fun ⟨member, late⟩ => ?_⟩
    exact member.resolve_left fun early => Nat.lt_asymm late (before outcome early)

/-- Whenever a chunk was taken in, everything was released that may be, and nothing else; what is
still held follows at the end. All of it together is what arrived, in order, nothing lost or
doubled, also where some positions never arrive. -/
theorem released_when_due {chunks : List (List Outcome)}
    (distinct : (chunks.flatten.map Outcome.index).Nodup) :
    (∀ count ≤ chunks.length, ∃ due, ReleasedTo due (chunks.take count).flatten
      ((inOrder chunks).take count).flatten (start.after (chunks.take count)).held) ∧
    inOrder chunks = (inOrder chunks).take chunks.length ++ [(start.after chunks).held] ∧
    (inOrder chunks).flatten.Perm chunks.flatten ∧ Ascending (inOrder chunks).flatten := by
  refine ⟨fun count within => ?_, releases_eq_concat start chunks, releases_spec chunks distinct⟩
  have holds := holds_after holds_start distinct count within
  exact ⟨_, holds.releasedTo⟩

/-- Position zero arrives late and position three never does, so that first nothing is due, then
three outcomes are, and one is left at the end. -/
theorem released_when_due_gap :
    let outcome := fun index => (⟨index, "q", .error .cancelled⟩ : Outcome)
    let chunks := [[outcome 2, outcome 1], [outcome 0, outcome 4]]
    (chunks.flatten.map Outcome.index).Nodup ∧
      inOrder chunks = [[], [outcome 0, outcome 1, outcome 2], [outcome 4]] ∧
      (∃ due, ReleasedTo due [outcome 2, outcome 1] [] [outcome 1, outcome 2]) ∧
      Ascending (inOrder chunks).flatten := by
  intro outcome chunks
  have distinct : (chunks.flatten.map Outcome.index).Nodup := by decide
  obtain ⟨each, -, -, ascending⟩ := released_when_due distinct
  exact ⟨distinct, rfl, each 1 (by decide), ascending⟩

/-! ### Against results put in order -/

/-- Outcomes in the order of their positions are determined by what they are. -/
theorem eq_of_perm_of_ascending {first second : List Outcome} (same : first.Perm second)
    (firstAscending : Ascending first) (secondAscending : Ascending second) : first = second :=
  same.eq_of_pairwise (fun _ _ _ _ before after => absurd before (Nat.lt_asymm after))
    firstAscending secondAscending

/-- Results put in order are in order. -/
theorem ascending_ordered {outcomes : List Outcome}
    (distinct : (outcomes.map Outcome.index).Nodup) :
    Ascending (Results.ofOutcomes outcomes).ordered.outcomes :=
  Sorting.strict_mergeSort (fun _ _ => decide_eq_true_iff) distinct

/-- Outcomes come out in the order of the queries, in whatever order and in whatever chunks they
arrive. -/
theorem flatten_inOrder {outcomes : List Outcome} {chunks : List (List Outcome)}
    (distinct : (outcomes.map Outcome.index).Nodup) (arrives : chunks.flatten.Perm outcomes) :
    (inOrder chunks).flatten = (Results.ofOutcomes outcomes).ordered.outcomes := by
  have distinctChunks := ((arrives.map Outcome.index).nodup_iff).mpr distinct
  obtain ⟨perm, ascending⟩ := releases_spec chunks distinctChunks
  refine eq_of_perm_of_ascending ?_ ascending (ascending_ordered distinct)
  exact (perm.trans arrives).trans (List.mergeSort_perm _ _).symm

end Reorder

end Holdout
