/-
This file follows slots and their signal over any number of steps, whoever makes them. A slot is
free or it is out: somebody holds it, or it was handed to somebody who waits for it and has not
looked yet. No step changes how many slots there are. Whoever asks gets a slot exactly if the run is
not cancelled and a slot is there, is refused exactly if the run is cancelled, and waits otherwise.
Slots that are out when the run is cancelled come back like all others.
-/

import Holdout.Proofs.Calls
import Mathlib.Data.List.Nodup

namespace Holdout

/-! ### What those who ask were told -/

/-- Who has a slot and who waits for one, as far as that can be told from the answers. -/
structure Ledger (Name : Type) where
  /-- Who was granted a slot and has not given it back. -/
  holding : List Name := []
  /-- Who was told to wait and has not been told anything else since. -/
  waiting : List Name := []

namespace Ledger

variable {Name : Type} [DecidableEq Name]

/-- Enters a step with its answer. -/
def enter (ledger : Ledger Name) : BudgetStep Name → BudgetAnswer → Ledger Name
  | .acquire name, .granted => ⟨ledger.holding.insert name, ledger.waiting.erase name⟩
  | .acquire name, .waiting => ⟨ledger.holding, ledger.waiting.insert name⟩
  | .acquire name, .cancelled => ⟨ledger.holding, ledger.waiting.erase name⟩
  | .abandon name, .abandoned => ⟨ledger.holding, ledger.waiting.erase name⟩
  | .release name, .released => ⟨ledger.holding.erase name, ledger.waiting⟩
  | _, _ => ledger

end Ledger

namespace Budget

variable {Name : Type}

/-- The slots that are out, by the names of those who have them: somebody holds a slot, or it was
handed to them while they waited. -/
def out (budget : Budget Name) : List Name := budget.held ++ budget.assigned

variable [DecidableEq Name] {budget : Budget Name} {name : Name}

/-- What steps lead to, one after the other. Copies of a budget and of its signal share one state,
so it makes no difference through which of them a step is made. -/
def after (budget : Budget Name) (steps : List (BudgetStep Name)) : Budget Name :=
  steps.foldl (fun now step => (now.step step).2) budget

/-- What is entered in a ledger while steps are made. -/
def entered (budget : Budget Name) (ledger : Ledger Name) : List (BudgetStep Name) → Ledger Name
  | [] => ledger
  | step :: rest => (budget.step step).2.entered (ledger.enter step (budget.step step).1) rest

/-! ### Over many steps -/

theorem sound_after (steps : List (BudgetStep Name)) (sound : budget.Sound) :
    (budget.after steps).Sound := by
  induction steps generalizing budget with
  | nil => exact sound
  | cons step rest inductionHypothesis => exact inductionHypothesis (sound_step budget step sound)

theorem size_after (budget : Budget Name) (steps : List (BudgetStep Name)) :
    (budget.after steps).size = budget.size := by
  induction steps generalizing budget with
  | nil => rfl
  | cons step rest inductionHypothesis =>
    exact (inductionHypothesis _).trans (budget.step_size step)

/-- Nothing but cancelling cancels. -/
theorem step_cancelled_iff (budget : Budget Name) (step : BudgetStep Name) :
    (budget.step step).2.cancelled = true ↔ budget.cancelled = true ∨ step = .cancel := by
  cases step with
  | acquire name => simp [Budget.step]
  | release name => simp [Budget.step]
  | abandon name =>
    simp only [Budget.step, abandon]
    split <;> simp
  | cancel => simp [Budget.step]

theorem after_cancelled_iff (budget : Budget Name) (steps : List (BudgetStep Name)) :
    (budget.after steps).cancelled = true ↔ budget.cancelled = true ∨ .cancel ∈ steps := by
  induction steps generalizing budget with
  | nil => simp [after]
  | cons step rest inductionHypothesis =>
    show ((budget.step step).2.after rest).cancelled = true ↔ _
    rw [inductionHypothesis, step_cancelled_iff, List.mem_cons, or_assoc, eq_comm (a := step)]

/-! ### Asking -/

/-- A slot is there for somebody who asks: a free one, or one that was handed to them. -/
def HasSlot (budget : Budget Name) (name : Name) : Prop :=
  0 < budget.free ∨ name ∈ budget.assigned

theorem acquire_refused_iff (budget : Budget Name) (name : Name) :
    (budget.acquire name).1 = .cancelled ↔ budget.cancelled = true := by
  rcases budget.acquire_answer name with ⟨signal, answer⟩ | ⟨signal, answer | answer⟩ <;>
    simp [signal, answer]

theorem acquire_granted_iff (sound : budget.Sound) (name : Name) :
    (budget.acquire name).1 = .granted ↔ budget.cancelled = false ∧ budget.HasSlot name := by
  unfold acquire HasSlot
  cases signal : budget.cancelled with
  | true => simp
  | false =>
    by_cases assigned : name ∈ budget.assigned
    · simp [assigned]
    by_cases waiting : name ∈ budget.waiting
    · -- Nobody waits while a slot is free.
      have full := sound.busy (List.ne_nil_of_mem waiting)
      simp [assigned, waiting, full]
    by_cases free : 0 < budget.free
    · simp [assigned, waiting, free]
    · simp [assigned, waiting, free]

theorem acquire_waits_iff (sound : budget.Sound) (name : Name) :
    (budget.acquire name).1 = .waiting ↔ budget.cancelled = false ∧ ¬ budget.HasSlot name := by
  have granted := acquire_granted_iff sound name
  rcases budget.acquire_answer name with ⟨signal, answer⟩ | ⟨signal, answer | answer⟩ <;>
    simp_all

theorem held_of_granted (answer : (budget.acquire name).1 = .granted) :
    (budget.acquire name).2.held = budget.held.insert name := by
  have hold (before : Budget Name) : (before.hold name).held = before.held.insert name := by
    unfold Budget.hold
    split
    · rename_i member
      rw [List.insert_of_mem member, handOn_held]
    · rename_i absent
      exact (List.insert_of_not_mem absent).symm
  unfold acquire at answer ⊢
  repeat' split
  all_goals simp_all

/-! ### Giving back and stopping -/

theorem release_answer (budget : Budget Name) (name : Name) :
    (name ∈ budget.held ∧ (budget.release name).1 = .released) ∨
      (name ∉ budget.held ∧ (budget.release name).1 = .nothing) := by
  unfold release
  split
  · rename_i held
    exact Or.inl ⟨held, rfl⟩
  · rename_i absent
    exact Or.inr ⟨absent, rfl⟩

theorem returned_of_held (held : name ∈ budget.held) :
    (budget.release name).1 = .released ∧
      (budget.release name).2.held = budget.held.erase name ∧
      (budget.waiting = [] → (budget.release name).2.free = budget.free + 1) ∧
      ∀ first ∈ budget.waiting.head?, (budget.release name).2.HasSlot first := by
  refine ⟨by simp [release, held], budget.release_held name, fun nobody => ?_, fun first head => ?_⟩
  · simp [release, held, handOn, nobody]
  · obtain ⟨rest, someone⟩ := List.head?_eq_some_iff.mp head
    simp [release, held, handOn, someone, HasSlot]

theorem abandon_eq (budget : Budget Name) (name : Name) :
    budget.abandon name =
      if name ∈ budget.wishes then (.abandoned, budget.withdraw name) else (.nothing, budget) := by
  simp only [abandon, wishes, List.mem_append, or_comm]

/-! ### The ledger -/

/-- Whoever asks wishes for a slot afterwards exactly if they were told to wait. -/
theorem mem_acquire_wishes_self (sound : budget.Sound) (name : Name) :
    name ∈ (budget.acquire name).2.wishes ↔ (budget.acquire name).1 = .waiting := by
  obtain ⟨waitingOnce, assignedOnce, apart⟩ := List.nodup_append.mp sound.distinct
  rcases budget.acquire_answer name with ⟨signal, answer⟩ | ⟨signal, answer | answer⟩
  · rw [answer, acquire_of_cancelled budget name signal]
    simp [mem_withdraw_wishes budget name name sound]
  · rw [answer]
    refine iff_of_false ?_ (by decide)
    have granted := (acquire_granted_iff sound name).mp answer
    unfold acquire
    rw [if_neg (by simp [signal])]
    split
    · rename_i assigned
      have notWaiting : name ∉ budget.waiting := fun waiting => apart _ waiting _ assigned rfl
      rw [mem_hold_wishes]
      simp [wishes, notWaiting, assignedOnce.not_mem_erase]
    rename_i notAssigned
    have free := granted.2.resolve_right notAssigned
    have notWaiting : name ∉ budget.waiting := fun waiting => by
      have full := sound.busy (List.ne_nil_of_mem waiting)
      omega
    rw [if_neg notWaiting, if_pos free, mem_hold_wishes]
    simp [wishes, notWaiting, notAssigned]
  · exact iff_of_true (((acquire_waiting budget name answer).2 name).mpr (Or.inl rfl)) answer

/-- A ledger that is kept while steps are made says who holds a slot and who waits for one. -/
structure Kept (ledger : Ledger Name) (budget : Budget Name) : Prop where
  holding : budget.held = ledger.holding
  waiting : ∀ name, name ∈ budget.wishes ↔ name ∈ ledger.waiting
  once : ledger.waiting.Nodup

theorem kept_acquire {ledger : Ledger Name} (sound : budget.Sound) (kept : Kept ledger budget)
    (name : Name) :
    Kept (ledger.enter (.acquire name) (budget.acquire name).1) (budget.acquire name).2 := by
  have self := mem_acquire_wishes_self sound name
  have erased (other : Name) (notSelf : name ∉ (budget.acquire name).2.wishes) :
      other ∈ (budget.acquire name).2.wishes ↔ other ∈ ledger.waiting.erase name := by
    rw [kept.once.mem_erase_iff, ← kept.waiting other]
    by_cases same : other = name
    · subst same
      exact iff_of_false notSelf (by simp)
    · rw [budget.mem_acquire_wishes same]
      exact (and_iff_right same).symm
  rcases budget.acquire_answer name with ⟨signal, answer⟩ | ⟨signal, answer | answer⟩
  · rw [answer] at self ⊢
    refine ⟨?_, fun other => erased other (by simpa using self), kept.once.erase name⟩
    rw [acquire_of_cancelled budget name signal, withdraw_held]
    exact kept.holding
  · rw [answer] at self ⊢
    refine ⟨?_, fun other => erased other (by simpa using self), kept.once.erase name⟩
    rw [held_of_granted answer, kept.holding]
    rfl
  · rw [answer]
    obtain ⟨held, wishes⟩ := acquire_waiting budget name answer
    refine ⟨held.trans kept.holding, fun other => ?_, List.Nodup.insert kept.once⟩
    rw [wishes other, kept.waiting other]
    exact List.mem_insert_iff.symm

theorem kept_step {ledger : Ledger Name} (sound : budget.Sound) (kept : Kept ledger budget)
    (step : BudgetStep Name) :
    Kept (ledger.enter step (budget.step step).1) (budget.step step).2 := by
  cases step with
  | acquire name => exact kept_acquire sound kept name
  | release name =>
    have held := (budget.release_held name).trans (congrArg (List.erase · name) kept.holding)
    have wishes (other : Name) := (budget.release_wishes name).mem_iff.trans (kept.waiting other)
    rcases budget.release_answer name with ⟨member, answer⟩ | ⟨absent, answer⟩
    · simp only [Budget.step, answer]
      exact ⟨held, wishes, kept.once⟩
    · simp only [Budget.step, answer]
      exact ⟨held.trans (List.erase_of_not_mem (kept.holding ▸ absent)), wishes, kept.once⟩
  | abandon name =>
    simp only [Budget.step]
    rw [abandon_eq]
    split
    · refine ⟨(budget.withdraw_held name).trans kept.holding, fun other => ?_, kept.once.erase name⟩
      rw [mem_withdraw_wishes budget name other sound, kept.waiting other]
      exact kept.once.mem_erase_iff.symm
    · exact kept
  | cancel => exact ⟨kept.holding, kept.waiting, kept.once⟩

/-- The ledger is right after any number of steps. -/
theorem kept_after (steps : List (BudgetStep Name)) {ledger : Ledger Name} (sound : budget.Sound)
    (kept : Kept ledger budget) : Kept (budget.entered ledger steps) (budget.after steps) := by
  induction steps generalizing budget ledger with
  | nil => exact kept
  | cons step rest inductionHypothesis =>
    exact inductionHypothesis (sound_step budget step sound) (kept_step sound kept step)

/-! ### After cancelling -/

/-- Once a run is cancelled nobody comes to hold a slot or to wish for one, and whoever gives theirs
back or looks for one is rid of it. -/
theorem mem_step_of_cancelled (sound : budget.Sound) (signal : budget.cancelled = true)
    (step : BudgetStep Name) (other : Name) :
    (other ∈ (budget.step step).2.held ↔ other ∈ budget.held ∧ step ≠ .release other) ∧
      (other ∈ (budget.step step).2.wishes ↔
        other ∈ budget.wishes ∧ step ≠ .acquire other ∧ step ≠ .abandon other) := by
  cases step with
  | acquire name =>
    simp only [Budget.step, acquire_of_cancelled budget name signal, withdraw_held]
    refine ⟨by simp, ?_⟩
    rw [mem_withdraw_wishes budget name other sound]
    simp [and_comm, eq_comm]
  | release name =>
    simp only [Budget.step, release_held, sound.heldOnce.mem_erase_iff]
    refine ⟨by simp [and_comm, eq_comm], ?_⟩
    rw [(budget.release_wishes name).mem_iff]
    simp
  | abandon name =>
    simp only [Budget.step]
    rw [abandon_eq]
    split
    · refine ⟨by simp, ?_⟩
      rw [mem_withdraw_wishes budget name other sound]
      simp [and_comm, eq_comm]
    · rename_i absent
      refine ⟨by simp, ?_⟩
      constructor
      · intro wishes
        refine ⟨wishes, by simp, ?_⟩
        rintro same
        cases same
        exact absent wishes
      · exact And.left
  | cancel => simp [Budget.step, wishes]

theorem mem_after_of_cancelled (steps : List (BudgetStep Name)) (sound : budget.Sound)
    (signal : budget.cancelled = true) (other : Name) :
    (other ∈ (budget.after steps).held ↔ other ∈ budget.held ∧ .release other ∉ steps) ∧
      (other ∈ (budget.after steps).wishes ↔
        other ∈ budget.wishes ∧ .acquire other ∉ steps ∧ .abandon other ∉ steps) := by
  induction steps generalizing budget with
  | nil => simp [after]
  | cons step rest inductionHypothesis =>
    obtain ⟨held, wishes⟩ := mem_step_of_cancelled sound signal step other
    obtain ⟨heldLater, wishesLater⟩ :=
      inductionHypothesis (sound_step budget step sound) (budget.step_cancelled step signal)
    refine ⟨heldLater.trans ?_, wishesLater.trans ?_⟩
    · rw [held, List.mem_cons, not_or, and_assoc, ne_comm]
    · rw [wishes, List.mem_cons, List.mem_cons, not_or, not_or, ne_comm (a := step),
        ne_comm (a := step)]
      tauto

/-- Nothing is out any more once all who held a slot gave it back and all who waited for one looked
or stopped. -/
theorem free_after_of_cancelled (steps : List (BudgetStep Name)) (sound : budget.Sound)
    (signal : budget.cancelled = true) (dropped : ∀ name ∈ budget.held, .release name ∈ steps)
    (looked : ∀ name ∈ budget.wishes, .acquire name ∈ steps ∨ .abandon name ∈ steps) :
    (budget.after steps).free = budget.size := by
  have conserved := (sound_after steps sound).conserved
  have nobodyHolds : (budget.after steps).held = [] := List.eq_nil_iff_forall_not_mem.mpr
    fun name member => by
      obtain ⟨held, kept⟩ := (mem_after_of_cancelled steps sound signal name).1.mp member
      exact kept (dropped name held)
  have nobodyWishes : (budget.after steps).wishes = [] := List.eq_nil_iff_forall_not_mem.mpr
    fun name member => by
      obtain ⟨wished, noLook, noStop⟩ :=
        (mem_after_of_cancelled steps sound signal name).2.mp member
      exact (looked name wished).elim noLook noStop
  have nothingHandedOver := (List.append_eq_nil_iff.mp nobodyWishes).2
  rw [nothingHandedOver, nobodyHolds, size_after] at conserved
  simpa using conserved

/-! ### The account -/

/-- What holds of a budget of a requested size after any steps. -/
structure Accounted (requested : Nat) (steps : List (BudgetStep Name)) (budget : Budget Name) :
    Prop where
  /-- There are as many slots as were requested, but one at least. -/
  size : budget.size = max requested 1
  /-- Every slot is free or out. -/
  conserved : budget.free + budget.out.length = max requested 1
  /-- Those who hold a slot are those who were granted one and have not given it back, and those who
  wish for one are those who were told to wait. -/
  ledger : Kept ((ofSize requested).entered {} steps) budget
  /-- A slot that is out without being held was handed to somebody who waits. -/
  handed : ∀ name ∈ budget.assigned, name ∈ ((ofSize requested).entered {} steps).waiting
  /-- Nobody queues while a slot is free. -/
  busy : budget.waiting ≠ [] → budget.free = 0
  /-- The signal is what it was set to, through whichever copy. -/
  signal : budget.cancelled = true ↔ .cancel ∈ steps
  /-- The signal stays, whatever is done. -/
  forever : budget.cancelled = true → ∀ rest, (budget.after rest).cancelled = true
  /-- A slot is granted if one is there and the run is not cancelled. -/
  granted : ∀ name,
    (budget.acquire name).1 = .granted ↔ budget.cancelled = false ∧ budget.HasSlot name
  /-- Asking is refused if the run is cancelled, even while slots are free. -/
  refused : ∀ name, (budget.acquire name).1 = .cancelled ↔ budget.cancelled = true
  /-- Who is neither granted a slot nor refused waits. -/
  waits : ∀ name,
    (budget.acquire name).1 = .waiting ↔ budget.cancelled = false ∧ ¬ budget.HasSlot name
  /-- A slot can be given back at any time; it becomes free, or is there for whoever waits
  longest. -/
  returned : ∀ name ∈ budget.held,
    (budget.release name).1 = .released ∧
      (budget.release name).2.held = budget.held.erase name ∧
      (budget.waiting = [] → (budget.release name).2.free = budget.free + 1) ∧
      ∀ first ∈ budget.waiting.head?, (budget.release name).2.HasSlot first
  /-- After cancelling all slots become free, once those who held one gave it back and those who
  waited for one looked or stopped. -/
  drained : budget.cancelled = true → ∀ rest,
    (∀ name ∈ budget.held, .release name ∈ rest) →
    (∀ name ∈ budget.wishes, .acquire name ∈ rest ∨ .abandon name ∈ rest) →
    (budget.after rest).free = max requested 1

/-- Every slot is accounted for after every sequence of steps, in which anybody asks for slots,
gives them back, stops asking and cancels, in any order. -/
theorem slots_accounted (requested : Nat) (steps : List (BudgetStep Name)) :
    Accounted requested steps ((ofSize requested).after steps) := by
  have start : (ofSize requested : Budget Name).Sound := sound_ofSize requested false
  have sound := sound_after steps start
  have sizeIs : ((ofSize requested : Budget Name).after steps).size = max requested 1 :=
    size_after _ steps
  have ledger : Kept ((ofSize requested).entered {} steps)
      ((ofSize requested : Budget Name).after steps) :=
    kept_after steps start ⟨rfl, by simp [wishes, ofSize], List.nodup_nil⟩
  refine ⟨sizeIs, ?_, ledger, ?_, sound.busy, ?_, ?_, acquire_granted_iff sound,
    acquire_refused_iff _, acquire_waits_iff sound, fun name held => returned_of_held held, ?_⟩
  · have conserved := sound.conserved
    rw [sizeIs] at conserved
    rw [out, List.length_append]
    omega
  · exact fun name assigned => (ledger.waiting name).mp (List.mem_append_right _ assigned)
  · rw [after_cancelled_iff]
    simp [ofSize]
  · exact fun cancelled rest => (after_cancelled_iff _ rest).mpr (Or.inl cancelled)
  · intro cancelled rest dropped looked
    rw [free_after_of_cancelled rest sound cancelled dropped looked, sizeIs]

-- A slot that is handed over after the run was cancelled becomes free.
example : ((ofSize 0).after [.acquire "a", .acquire "b", .cancel, .release "a",
    .acquire "b"]).free = 1 := by decide

end Budget

end Holdout
