/-
This file proves what holds of every system that goes on step by step: what its single steps keep
holds after all of them, and a system that goes on by itself stops only where it can do nothing,
provided that every move uses something up.
-/

import Holdout.Steps

namespace Holdout

namespace Steps

variable {State Move : Type} {step : State → Move → Option State}

/-- Moves can be made in two parts. -/
theorem follow_append_eq_some {first last : State} {early late : List Move} :
    follow step first (early ++ late) = some last ↔
      ∃ middle, follow step first early = some middle ∧ follow step middle late = some last := by
  induction early generalizing first with
  | nil => simp [follow]
  | cons move rest inductionHypothesis =>
    simp only [List.cons_append, follow, Option.bind_eq_some_iff, inductionHypothesis]
    constructor
    · rintro ⟨next, moves, middle, here, there⟩
      exact ⟨middle, ⟨next, moves, here⟩, there⟩
    · rintro ⟨middle, ⟨next, moves, here⟩, there⟩
      exact ⟨next, moves, middle, here, there⟩

/-- What every step keeps is kept by all of them. -/
theorem holds_follow (Holds : State → Prop) {moves : List Move}
    (keeps : ∀ {state next : State} {move : Move}, move ∈ moves → Holds state →
      step state move = some next → Holds next) {first last : State} (holds : Holds first)
    (follows : follow step first moves = some last) : Holds last := by
  induction moves generalizing first with
  | nil =>
    cases follows
    exact holds
  | cons move rest inductionHypothesis =>
    obtain ⟨next, moves, follows⟩ := Option.bind_eq_some_iff.mp follows
    refine inductionHypothesis (fun member => keeps (List.mem_cons_of_mem _ member)) ?_ follows
    exact keeps List.mem_cons_self holds moves

/-- If some of the moves use up what is left, there are only so many of them. -/
theorem remaining_follow (Holds : State → Prop) (counts : Move → Bool) (remaining : State → Nat)
    (keeps : ∀ {state next : State} {move : Move}, Holds state → step state move = some next →
      Holds next ∧ remaining next + (if counts move then 1 else 0) ≤ remaining state)
    {first last : State} {moves : List Move} (holds : Holds first)
    (follows : follow step first moves = some last) :
    remaining last + moves.countP counts ≤ remaining first := by
  induction moves generalizing first with
  | nil =>
    cases follows
    exact Nat.le_refl _
  | cons move rest inductionHypothesis =>
    obtain ⟨next, moves, follows⟩ := Option.bind_eq_some_iff.mp follows
    obtain ⟨stays, fewer⟩ := keeps holds moves
    have later := inductionHypothesis stays follows
    rw [List.countP_cons]
    omega

/-- A system that goes on by itself makes moves that it tries, and stops where none of them is
possible. -/
theorem follow_inTurn (Holds : State → Prop) (remaining : State → Nat)
    {options : State → List Move}
    (keeps : ∀ {state next : State} {move : Move}, Holds state → move ∈ options state →
      step state move = some next → Holds next ∧ remaining next < remaining state)
    {fuel : Nat} {first : State} (holds : Holds first) (enough : remaining first ≤ fuel) :
    (∃ moves, follow step first moves = some (inTurn step options fuel first) ∧
      ∀ move ∈ moves, ∃ state, move ∈ options state) ∧
      ∀ move ∈ options (inTurn step options fuel first),
        step (inTurn step options fuel first) move = none := by
  induction fuel generalizing first with
  | zero =>
    refine ⟨⟨[], rfl, by simp⟩, fun move option => Option.eq_none_iff_forall_ne_some.mpr ?_⟩
    intro next moves
    have fewer := (keeps holds option moves).2
    omega
  | succ fuel inductionHypothesis =>
    unfold inTurn
    cases found : (options first).findSome? (step first) with
    | none => exact ⟨⟨[], rfl, by simp⟩, List.findSome?_eq_none_iff.mp found⟩
    | some next =>
      obtain ⟨move, option, moves⟩ := List.exists_of_findSome?_eq_some found
      obtain ⟨stays, fewer⟩ := keeps holds option moves
      obtain ⟨⟨rest, follows, tried⟩, stops⟩ := inductionHypothesis stays (by omega)
      refine ⟨⟨move :: rest, by simpa only [follow, moves, Option.bind_some] using follows, ?_⟩,
        stops⟩
      intro other member
      rcases List.mem_cons.mp member with rfl | later
      · exact ⟨first, option⟩
      · exact tried other later

end Steps

end Holdout
