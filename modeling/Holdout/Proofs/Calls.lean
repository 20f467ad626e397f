/-
This file proves what slots and calls keep whatever happens: no slot is lost and none is made up,
whoever waits waits because all slots are taken, a run that is cancelled stays so, and once it is
cancelled no call begins any more.
-/

import Holdout.Calls
import Mathlib.Data.List.Perm.Subperm

namespace Holdout

/-- Whom a step is about, if it is about anybody. -/
def BudgetStep.name? {Name : Type} : BudgetStep Name → Option Name
  | .acquire name => some name
  | .release name => some name
  | .abandon name => some name
  | .cancel => none

namespace Budget

variable {Name : Type}

/-! ### Handing a slot on -/

@[simp] theorem handOn_cancelled (budget : Budget Name) :
    budget.handOn.cancelled = budget.cancelled := by
  unfold handOn
  split <;> rfl

@[simp] theorem handOn_held (budget : Budget Name) : budget.handOn.held = budget.held := by
  unfold handOn
  split <;> rfl

@[simp] theorem handOn_size (budget : Budget Name) : budget.handOn.size = budget.size := by
  unfold handOn
  split <;> rfl

/-- Who wants a slot and does not hold it yet. -/
def wishes (budget : Budget Name) : List Name := budget.waiting ++ budget.assigned

theorem handOn_wishes (budget : Budget Name) : budget.handOn.wishes.Perm budget.wishes := by
  unfold handOn
  split
  · exact List.Perm.refl _
  · rename_i name rest someone
    simp only [wishes, someone]
    rw [← List.append_assoc]
    exact List.perm_append_singleton name (rest ++ budget.assigned)

/-- What holds of a budget at all times: its slots are free, assigned or held, and nobody waits
while one is free. -/
structure Sound (budget : Budget Name) : Prop where
  conserved : budget.free + budget.assigned.length + budget.held.length = budget.size
  busy : budget.waiting ≠ [] → budget.free = 0
  distinct : budget.wishes.Nodup
  heldOnce : budget.held.Nodup

theorem sound_ofSize (size : Nat) (cancelled : Bool) :
    Sound ({ (ofSize size : Budget Name) with cancelled } : Budget Name) :=
  ⟨by simp [ofSize], by simp [ofSize], by simp [ofSize, wishes], by simp [ofSize]⟩

/-- Handing a slot on makes up for one that is missing. -/
theorem sound_handOn (budget : Budget Name)
    (missing : budget.free + budget.assigned.length + budget.held.length + 1 = budget.size)
    (busy : budget.waiting ≠ [] → budget.free = 0) (distinct : budget.wishes.Nodup)
    (heldOnce : budget.held.Nodup) : budget.handOn.Sound := by
  refine ⟨?_, ?_, (handOn_wishes budget).nodup_iff.mpr distinct, by simpa using heldOnce⟩
  · unfold handOn
    split
    · simp only
      omega
    · rename_i someone
      have free : budget.free = 0 := busy (by simp [someone])
      simp only [List.length_append, List.length_singleton]
      omega
  · unfold handOn
    split
    · rename_i nobody
      exact fun someone => absurd nobody someone
    · rename_i someone
      exact fun _ => busy (by simp [someone])

/-! ### The signal -/

variable [DecidableEq Name]

@[simp] theorem withdraw_cancelled (budget : Budget Name) (name : Name) :
    (budget.withdraw name).cancelled = budget.cancelled := by
  unfold withdraw
  split
  · exact handOn_cancelled _
  · rfl

@[simp] theorem hold_cancelled (budget : Budget Name) (name : Name) :
    (budget.hold name).cancelled = budget.cancelled := by
  unfold hold
  split
  · exact handOn_cancelled _
  · rfl

@[simp] theorem acquire_cancelled (budget : Budget Name) (name : Name) :
    (budget.acquire name).2.cancelled = budget.cancelled := by
  unfold acquire
  repeat' split
  all_goals simp

@[simp] theorem release_cancelled (budget : Budget Name) (name : Name) :
    (budget.release name).2.cancelled = budget.cancelled := by
  unfold release
  split <;> simp

/-- No step takes a cancellation back. -/
theorem step_cancelled (budget : Budget Name) (step : BudgetStep Name)
    (cancelled : budget.cancelled = true) : (budget.step step).2.cancelled = true := by
  cases step with
  | acquire name => simpa [Budget.step] using cancelled
  | release name => simpa [Budget.step] using cancelled
  | abandon name =>
    simp only [Budget.step, abandon]
    split
    · simpa using cancelled
    · exact cancelled
  | cancel => rfl

/-- Asking is refused exactly when the run is cancelled, and else answered with a slot or with
waiting. -/
theorem acquire_answer (budget : Budget Name) (name : Name) :
    (budget.cancelled = true ∧ (budget.acquire name).1 = .cancelled) ∨
      (budget.cancelled = false ∧
        ((budget.acquire name).1 = .granted ∨ (budget.acquire name).1 = .waiting)) := by
  unfold acquire
  cases signal : budget.cancelled with
  | true => exact Or.inl ⟨rfl, by simp⟩
  | false =>
    refine Or.inr ⟨rfl, ?_⟩
    simp only [Bool.false_eq_true, if_false]
    repeat' split
    all_goals simp

/-! ### The slots -/

theorem length_erase_add_one {names : List Name} {name : Name} (member : name ∈ names) :
    (names.erase name).length + 1 = names.length := by
  have positive := List.length_pos_of_mem member
  rw [List.length_erase_of_mem member]
  omega

theorem sound_withdraw (budget : Budget Name) (name : Name) (sound : budget.Sound) :
    (budget.withdraw name).Sound := by
  unfold withdraw
  split
  · rename_i assigned
    have shorter := length_erase_add_one assigned
    refine sound_handOn _ ?_ sound.busy ?_ sound.heldOnce
    · have conserved := sound.conserved
      simp only
      omega
    · exact sound.distinct.sublist (List.Sublist.append_left List.erase_sublist _)
  · refine ⟨sound.conserved, fun someone => sound.busy fun nobody => someone ?_, ?_, sound.heldOnce⟩
    · simp [nobody]
    · exact sound.distinct.sublist (List.Sublist.append_right List.erase_sublist _)

/-- Holding makes up for a slot that is missing. -/
theorem sound_hold (budget : Budget Name) (name : Name)
    (missing : budget.free + budget.assigned.length + budget.held.length + 1 = budget.size)
    (busy : budget.waiting ≠ [] → budget.free = 0)
    (distinct : budget.wishes.Nodup) (heldOnce : budget.held.Nodup) :
    (budget.hold name).Sound := by
  unfold hold
  split
  · exact sound_handOn budget missing busy distinct heldOnce
  · rename_i absent
    exact ⟨by simp only [List.length_cons]; omega, busy, distinct,
      List.nodup_cons.mpr ⟨absent, heldOnce⟩⟩

theorem sound_acquire (budget : Budget Name) (name : Name) (sound : budget.Sound) :
    (budget.acquire name).2.Sound := by
  have conserved := sound.conserved
  unfold acquire
  split
  · exact sound_withdraw budget name sound
  split
  · rename_i assigned
    have shorter := length_erase_add_one assigned
    refine sound_hold _ _ (by simp only; omega) sound.busy ?_ sound.heldOnce
    exact sound.distinct.sublist (List.Sublist.append_left List.erase_sublist _)
  split
  · exact sound
  split
  · rename_i positive
    refine sound_hold _ _ (by simp only; omega) (fun someone => ?_) sound.distinct sound.heldOnce
    have := sound.busy someone
    omega
  · rename_i notAssigned notWaiting notFree
    refine ⟨conserved, fun _ => by simp only; omega, ?_, sound.heldOnce⟩
    have fresh : name ∉ budget.wishes := by
      simp [wishes, notAssigned, notWaiting]
    simp only [wishes, List.append_assoc, List.singleton_append]
    exact (List.perm_middle.nodup_iff).mpr (List.nodup_cons.mpr ⟨fresh, sound.distinct⟩)

theorem sound_release (budget : Budget Name) (name : Name) (sound : budget.Sound) :
    (budget.release name).2.Sound := by
  unfold release
  split
  · rename_i held
    have shorter := length_erase_add_one held
    have conserved := sound.conserved
    exact sound_handOn _ (by simp only; omega) sound.busy sound.distinct
      (sound.heldOnce.erase name)
  · exact sound

/-- No step loses a slot or makes one up. -/
theorem sound_step (budget : Budget Name) (step : BudgetStep Name) (sound : budget.Sound) :
    (budget.step step).2.Sound := by
  cases step with
  | acquire name => exact sound_acquire budget name sound
  | release name => exact sound_release budget name sound
  | abandon name =>
    simp only [Budget.step, abandon]
    split
    · exact sound_withdraw budget name sound
    · exact sound
  | cancel => exact ⟨sound.conserved, sound.busy, sound.distinct, sound.heldOnce⟩

/-! ### Who holds and who wishes -/

@[simp] theorem withdraw_held (budget : Budget Name) (name : Name) :
    (budget.withdraw name).held = budget.held := by
  unfold withdraw
  split
  · exact handOn_held _
  · rfl

/-- A wish that is withdrawn is gone, and no other is. -/
theorem mem_withdraw_wishes (budget : Budget Name) (name other : Name) (sound : budget.Sound) :
    other ∈ (budget.withdraw name).wishes ↔ other ≠ name ∧ other ∈ budget.wishes := by
  obtain ⟨waitingOnce, assignedOnce, apart⟩ := List.nodup_append.mp sound.distinct
  unfold withdraw
  split
  · rename_i assigned
    have notWaiting : name ∉ budget.waiting := fun waiting => apart _ waiting _ assigned rfl
    rw [(handOn_wishes _).mem_iff]
    simp only [wishes, List.mem_append, assignedOnce.mem_erase_iff]
    constructor
    · rintro (waiting | ⟨different, member⟩)
      · exact ⟨fun same => notWaiting (same ▸ waiting), Or.inl waiting⟩
      · exact ⟨different, Or.inr member⟩
    · rintro ⟨different, waiting | member⟩
      · exact Or.inl waiting
      · exact Or.inr ⟨different, member⟩
  · rename_i notAssigned
    simp only [wishes, List.mem_append, waitingOnce.mem_erase_iff]
    constructor
    · rintro (⟨different, waiting⟩ | member)
      · exact ⟨different, Or.inl waiting⟩
      · exact ⟨fun same => notAssigned (same ▸ member), Or.inr member⟩
    · rintro ⟨different, waiting | member⟩
      · exact Or.inl ⟨different, waiting⟩
      · exact Or.inr member

/-- Whoever is refused neither wishes nor gets a slot. -/
theorem acquire_of_cancelled (budget : Budget Name) (name : Name)
    (cancelled : budget.cancelled = true) :
    budget.acquire name = (.cancelled, budget.withdraw name) := by
  simp [acquire, cancelled]

/-- Whoever is granted a slot without having one holds it, and wishes no more. -/
theorem acquire_granted (budget : Budget Name) (name : Name) (sound : budget.Sound)
    (fresh : name ∉ budget.held) (granted : (budget.acquire name).1 = .granted) :
    (budget.acquire name).2.held = name :: budget.held ∧
      ∀ other, other ∈ (budget.acquire name).2.wishes ↔ other ≠ name ∧ other ∈ budget.wishes := by
  obtain ⟨waitingOnce, assignedOnce, apart⟩ := List.nodup_append.mp sound.distinct
  unfold acquire at granted ⊢
  split
  · rename_i cancelled
    simp [cancelled] at granted
  rename_i signal
  simp only [signal] at granted
  split
  · rename_i assigned
    have notWaiting : name ∉ budget.waiting := fun waiting => apart _ waiting _ assigned rfl
    refine ⟨by simp [hold, fresh], fun other => ?_⟩
    simp only [hold, fresh, if_false, wishes, List.mem_append, assignedOnce.mem_erase_iff]
    constructor
    · rintro (waiting | ⟨different, member⟩)
      · exact ⟨fun same => notWaiting (same ▸ waiting), Or.inl waiting⟩
      · exact ⟨different, Or.inr member⟩
    · rintro ⟨different, waiting | member⟩
      · exact Or.inl waiting
      · exact Or.inr ⟨different, member⟩
  rename_i notAssigned
  split
  · rename_i waiting
    simp [notAssigned, waiting] at granted
  rename_i notWaiting
  split
  · refine ⟨by simp [hold, fresh], fun other => ?_⟩
    simp only [hold, fresh, if_false, wishes, List.mem_append]
    refine ⟨fun member => ⟨fun same => ?_, member⟩, And.right⟩
    subst same
    exact member.elim notWaiting notAssigned
  · rename_i notFree
    simp [notAssigned, notWaiting, notFree] at granted

/-- Whoever is told to wait wishes for a slot, and nothing else changes. -/
theorem acquire_waiting (budget : Budget Name) (name : Name)
    (waiting : (budget.acquire name).1 = .waiting) :
    (budget.acquire name).2.held = budget.held ∧
      ∀ other, other ∈ (budget.acquire name).2.wishes ↔ other = name ∨ other ∈ budget.wishes := by
  unfold acquire at waiting ⊢
  split
  · rename_i cancelled
    simp [cancelled] at waiting
  rename_i signal
  simp only [signal] at waiting
  split
  · rename_i assigned
    simp [assigned] at waiting
  rename_i notAssigned
  split
  · rename_i already
    refine ⟨rfl, fun other => ⟨Or.inr, ?_⟩⟩
    rintro (rfl | member)
    · exact List.mem_append_left _ already
    · exact member
  rename_i notWaiting
  split
  · rename_i free
    simp [notAssigned, notWaiting, free] at waiting
  · refine ⟨rfl, fun other => ?_⟩
    simp only [wishes, List.mem_append, List.mem_singleton]
    tauto

/-- A slot that was assigned is there at the next look. -/
theorem acquire_of_assigned (budget : Budget Name) (name : Name) (signal : budget.cancelled = false)
    (assigned : name ∈ budget.assigned) : (budget.acquire name).1 = .granted := by
  simp [acquire, signal, assigned]

theorem release_held (budget : Budget Name) (name : Name) :
    (budget.release name).2.held = budget.held.erase name := by
  unfold release
  split
  · simp
  · rename_i absent
    exact (List.erase_of_not_mem absent).symm

theorem release_wishes (budget : Budget Name) (name : Name) :
    (budget.release name).2.wishes.Perm budget.wishes := by
  unfold release
  split
  · exact handOn_wishes _
  · exact List.Perm.refl _

/-- Nobody but the one who asks comes to hold a slot, and nobody loses one. -/
theorem mem_acquire_held (budget : Budget Name) {name other : Name} (different : other ≠ name) :
    other ∈ (budget.acquire name).2.held ↔ other ∈ budget.held := by
  have held (before : Budget Name) : other ∈ (before.hold name).held ↔ other ∈ before.held := by
    unfold hold
    split
    · simp
    · simp [different]
  unfold acquire
  repeat' split
  all_goals simp [held]

/-- What somebody else does changes nothing about a wish. -/
theorem mem_withdraw_wishes_of_ne (budget : Budget Name) {name other : Name}
    (different : other ≠ name) :
    other ∈ (budget.withdraw name).wishes ↔ other ∈ budget.wishes := by
  unfold withdraw
  split
  · rw [(handOn_wishes _).mem_iff]
    simp only [wishes, List.mem_append, List.mem_erase_of_ne different]
  · simp only [wishes, List.mem_append, List.mem_erase_of_ne different]

theorem mem_hold_wishes (budget : Budget Name) (name other : Name) :
    other ∈ (budget.hold name).wishes ↔ other ∈ budget.wishes := by
  unfold hold
  split
  · exact (handOn_wishes budget).mem_iff
  · exact Iff.rfl

theorem mem_acquire_wishes (budget : Budget Name) {name other : Name} (different : other ≠ name) :
    other ∈ (budget.acquire name).2.wishes ↔ other ∈ budget.wishes := by
  unfold acquire
  split
  · exact budget.mem_withdraw_wishes_of_ne different
  split
  · rw [mem_hold_wishes]
    simp only [wishes, List.mem_append, List.mem_erase_of_ne different]
  split
  · exact Iff.rfl
  split
  · rw [mem_hold_wishes]
    exact Iff.rfl
  · simp [wishes, different]

/-- A step changes neither a wish nor a hold of anybody whom it is not about. -/
theorem mem_step_of_apart (budget : Budget Name) {step : BudgetStep Name} {other : Name}
    (apart : step.name? ≠ some other) :
    (other ∈ (budget.step step).2.wishes ↔ other ∈ budget.wishes) ∧
      (other ∈ (budget.step step).2.held ↔ other ∈ budget.held) := by
  cases step with
  | acquire name =>
    have different : other ≠ name := fun same => apart (by rw [same]; rfl)
    exact ⟨budget.mem_acquire_wishes different, budget.mem_acquire_held different⟩
  | release name =>
    have different : other ≠ name := fun same => apart (by rw [same]; rfl)
    refine ⟨(budget.release_wishes name).mem_iff, ?_⟩
    simp only [Budget.step, release_held, List.mem_erase_of_ne different]
  | abandon name =>
    have different : other ≠ name := fun same => apart (by rw [same]; rfl)
    simp only [Budget.step, abandon]
    split
    · exact ⟨budget.mem_withdraw_wishes_of_ne different, by rw [withdraw_held]⟩
    · exact ⟨Iff.rfl, Iff.rfl⟩
  | cancel => exact ⟨Iff.rfl, Iff.rfl⟩

/-- The number of slots never changes. -/
theorem step_size (budget : Budget Name) (step : BudgetStep Name) :
    (budget.step step).2.size = budget.size := by
  have hold (before : Budget Name) (name : Name) : (before.hold name).size = before.size := by
    unfold Budget.hold
    split <;> simp
  have withdraw (name : Name) : (budget.withdraw name).size = budget.size := by
    unfold Budget.withdraw
    split <;> simp
  cases step with
  | acquire name =>
    simp only [Budget.step, acquire]
    repeat' split
    all_goals simp [hold, withdraw]
  | release name =>
    simp only [Budget.step, release]
    split <;> simp
  | abandon name =>
    simp only [Budget.step, abandon]
    split <;> simp [withdraw]
  | cancel => rfl

end Budget

namespace Calls

variable {Name : Type}

/-! ### The signal -/

@[simp] theorem cancelled_cancel (calls : Calls Name) : calls.cancel.cancelled = true := rfl

@[simp] theorem names_cancelIf (calls : Calls Name) (cancels : Bool) :
    (calls.cancelIf cancels).names = calls.names := by
  unfold cancelIf
  split <;> rfl

@[simp] theorem ongoing_cancelIf (calls : Calls Name) (cancels : Bool) :
    (calls.cancelIf cancels).ongoing = calls.ongoing := by
  unfold cancelIf
  split <;> rfl

@[simp] theorem cancelled_cancelIf (calls : Calls Name) (cancels : Bool) :
    (calls.cancelIf cancels).cancelled = (calls.cancelled || cancels) := by
  unfold cancelIf
  cases cancels <;> simp

@[simp] theorem held_cancelIf (calls : Calls Name) (cancels : Bool) :
    (calls.cancelIf cancels).budget.held = calls.budget.held := by
  unfold cancelIf
  split <;> rfl

@[simp] theorem wishes_cancelIf (calls : Calls Name) (cancels : Bool) :
    (calls.cancelIf cancels).budget.wishes = calls.budget.wishes := by
  unfold cancelIf
  split <;> rfl

variable [DecidableEq Name]

/-! ### Asking -/

/-- What asking for a slot can lead to. -/
inductive Asked (calls : Calls Name) (name : Name) (cancels : Bool) :
    BudgetAnswer → Calls Name → Prop where
  | granted (budget : Budget Name) (signal : calls.cancelled = false)
      (answer : calls.budget.acquire name = (.granted, budget)) :
      Asked calls name cancels .granted ⟨budget, (name, cancels) :: calls.ongoing⟩
  | refused (budget : Budget Name) (signal : calls.cancelled = true)
      (answer : calls.budget.acquire name = (.cancelled, budget)) :
      Asked calls name cancels .cancelled ⟨budget, calls.ongoing⟩
  | waiting (budget : Budget Name) (signal : calls.cancelled = false)
      (answer : calls.budget.acquire name = (.waiting, budget)) :
      Asked calls name cancels .waiting ⟨budget, calls.ongoing⟩

theorem asked_of_ask {calls after : Calls Name} {name : Name} {cancels : Bool}
    {answer : BudgetAnswer} (asks : calls.ask name cancels = (answer, after)) :
    Asked calls name cancels answer after := by
  have answers := calls.budget.acquire_answer name
  unfold ask at asks
  generalize acquired : calls.budget.acquire name = result at answers asks
  obtain ⟨first, budget⟩ := result
  rcases answers with ⟨signal, equal⟩ | ⟨signal, equal | equal⟩ <;> cases equal <;> cases asks
  · exact .refused budget signal acquired
  · exact .granted budget signal acquired
  · exact .waiting budget signal acquired

/-- Asking changes nothing about the signal. -/
theorem cancelled_of_ask {calls after : Calls Name} {name : Name} {cancels : Bool}
    {answer : BudgetAnswer} (asks : calls.ask name cancels = (answer, after)) :
    after.cancelled = calls.cancelled := by
  have same := calls.budget.acquire_cancelled name
  cases asked_of_ask asks with
  | granted budget signal acquired => rw [acquired] at same; exact same
  | refused budget signal acquired => rw [acquired] at same; exact same
  | waiting budget signal acquired => rw [acquired] at same; exact same

/-! ### What always holds -/

/-- What holds of calls at all times, if some names are only used for calls: the calls are made in
slots that are held, each in one of its own. -/
structure Sound (own : Name → Prop) (calls : Calls Name) : Prop where
  budget : calls.budget.Sound
  once : calls.names.Nodup
  held : ∀ name, own name → (name ∈ calls.budget.held ↔ name ∈ calls.names)
  owned : ∀ name ∈ calls.names, own name

variable {own : Name → Prop} {calls after : Calls Name}

omit [DecidableEq Name] in
theorem sound_ofSize (size : Nat) (cancelled : Bool) :
    (ofSize size cancelled : Calls Name).Sound own :=
  ⟨Budget.sound_ofSize size cancelled, List.nodup_nil, by simp [ofSize, Budget.ofSize, names],
    by simp [ofSize, names]⟩

omit [DecidableEq Name] in
theorem sound_cancelIf (sound : calls.Sound own) (cancels : Bool) :
    (calls.cancelIf cancels).Sound own := by
  unfold cancelIf
  split
  · exact ⟨⟨sound.budget.conserved, sound.budget.busy, sound.budget.distinct,
      sound.budget.heldOnce⟩, sound.once, sound.held, sound.owned⟩
  · exact sound

theorem sound_ask (sound : calls.Sound own) {name : Name} {cancels : Bool} {answer : BudgetAnswer}
    (asks : calls.ask name cancels = (answer, after)) (isOwn : own name)
    (fresh : name ∉ calls.names) : after.Sound own := by
  have free : name ∉ calls.budget.held := fun held => fresh ((sound.held name isOwn).mp held)
  have budgetSound := Budget.sound_acquire calls.budget name sound.budget
  cases asked_of_ask asks with
  | granted budget signal acquired =>
    have granted := Budget.acquire_granted calls.budget name sound.budget free (by rw [acquired])
    simp only [acquired] at granted budgetSound
    refine ⟨budgetSound, List.nodup_cons.mpr ⟨fresh, sound.once⟩, fun other owns => ?_, ?_⟩
    · have before := sound.held other owns
      simp only [granted.1, names, List.map_cons, List.mem_cons]
      exact or_congr_right before
    · intro other member
      rcases List.mem_cons.mp member with rfl | member
      · exact isOwn
      · exact sound.owned other member
  | refused budget signal acquired =>
    have withdrawn : budget = calls.budget.withdraw name := by
      have refused := Budget.acquire_of_cancelled calls.budget name signal
      rw [acquired] at refused
      exact congrArg Prod.snd refused
    simp only [acquired] at budgetSound
    have same : budget.held = calls.budget.held := by rw [withdrawn, Budget.withdraw_held]
    exact ⟨budgetSound, sound.once, by simpa only [same, names] using sound.held, sound.owned⟩
  | waiting budget signal acquired =>
    have waited := Budget.acquire_waiting calls.budget name (by rw [acquired])
    simp only [acquired] at waited budgetSound
    exact ⟨budgetSound, sound.once, by simpa only [waited.1, names] using sound.held, sound.owned⟩

/-- A slot that is granted begins a call. -/
theorem names_of_granted {name : Name} {cancels : Bool}
    (asks : calls.ask name cancels = (.granted, after)) : after.names = name :: calls.names := by
  cases asked_of_ask asks with
  | granted budget signal acquired => rfl

/-- No other answer begins one. -/
theorem ongoing_of_not_granted {name : Name} {cancels : Bool} {answer : BudgetAnswer}
    (asks : calls.ask name cancels = (answer, after)) (refused : answer ≠ .granted) :
    after.ongoing = calls.ongoing := by
  cases asked_of_ask asks with
  | granted budget signal acquired => exact absurd rfl refused
  | refused budget signal acquired => rfl
  | waiting budget signal acquired => rfl

/-- Asking begins no call of anybody else. -/
theorem mem_names_of_ask_of_ne {name other : Name} {cancels : Bool} {answer : BudgetAnswer}
    (asks : calls.ask name cancels = (answer, after)) (different : other ≠ name) :
    other ∈ after.names ↔ other ∈ calls.names := by
  by_cases granted : answer = .granted
  · rw [granted] at asks
    rw [names_of_granted asks, List.mem_cons]
    exact or_iff_right different
  · rw [names, ongoing_of_not_granted asks granted]
    rfl

/-- Whoever is granted a slot or refused one wishes no more. -/
theorem wishes_of_answered (sound : calls.Sound own) {name : Name} {cancels : Bool}
    {answer : BudgetAnswer} (asks : calls.ask name cancels = (answer, after)) (isOwn : own name)
    (fresh : name ∉ calls.names) (answered : answer ≠ .waiting) (other : Name) :
    other ∈ after.budget.wishes ↔ other ≠ name ∧ other ∈ calls.budget.wishes := by
  cases asked_of_ask asks with
  | granted budget signal acquired =>
    have free : name ∉ calls.budget.held := fun held => fresh ((sound.held name isOwn).mp held)
    have granted := Budget.acquire_granted calls.budget name sound.budget free (by rw [acquired])
    simp only [acquired] at granted
    exact granted.2 other
  | refused budget signal acquired =>
    have refused := Budget.acquire_of_cancelled calls.budget name signal
    have withdrawn : budget = calls.budget.withdraw name :=
      congrArg Prod.snd (acquired.symm.trans refused)
    simp only [withdrawn]
    exact calls.budget.mem_withdraw_wishes name other sound.budget
  | waiting budget signal acquired => exact absurd rfl answered

/-- Whoever is told to wait wishes for a slot. -/
theorem wishes_of_waiting {name : Name} {cancels : Bool}
    (asks : calls.ask name cancels = (.waiting, after)) (other : Name) :
    other ∈ after.budget.wishes ↔ other = name ∨ other ∈ calls.budget.wishes := by
  cases asked_of_ask asks with
  | waiting budget signal acquired =>
    have waited := Budget.acquire_waiting calls.budget name (by rw [acquired])
    simp only [acquired] at waited
    exact waited.2 other

/-- Nobody but the one who asks comes to hold a slot or to wish for one. -/
theorem mem_of_ask_of_ne {name other : Name} {cancels : Bool} {answer : BudgetAnswer}
    (asks : calls.ask name cancels = (answer, after)) (different : other ≠ name) :
    (other ∈ after.budget.wishes ↔ other ∈ calls.budget.wishes) ∧
      (other ∈ after.budget.held ↔ other ∈ calls.budget.held) := by
  have wishes := calls.budget.mem_acquire_wishes different
  have held := calls.budget.mem_acquire_held different
  cases asked_of_ask asks with
  | granted budget signal acquired => simpa only [acquired] using And.intro wishes held
  | refused budget signal acquired => simpa only [acquired] using And.intro wishes held
  | waiting budget signal acquired => simpa only [acquired] using And.intro wishes held

/-! ### Returning -/

/-- What the end of a call leads to. -/
theorem finish_eq_some {name : Name} (ends : calls.finish name = some after) :
    ∃ cancels, (name, cancels) ∈ calls.ongoing ∧
      after = (⟨(calls.budget.release name).2, calls.ongoing.erase (name, cancels)⟩ :
        Calls Name).cancelIf cancels := by
  unfold finish at ends
  split at ends
  · rename_i call found
    have member := List.mem_of_find?_eq_some found
    have same : call.1 = name := by simpa using List.find?_some found
    obtain ⟨caller, cancels⟩ := call
    obtain rfl : caller = name := same
    exact ⟨cancels, member, (Option.some.inj ends).symm⟩
  · cases ends

/-- Every call can return. -/
theorem finish_isSome {name : Name} (member : name ∈ calls.names) :
    (calls.finish name).isSome = true := by
  obtain ⟨call, inside, rfl⟩ := List.mem_map.mp member
  unfold finish
  split
  · rfl
  · rename_i absent
    simpa using List.find?_eq_none.mp absent call inside

theorem names_erase (sound : calls.Sound own) {name : Name} {cancels : Bool}
    (member : (name, cancels) ∈ calls.ongoing) :
    (calls.ongoing.erase (name, cancels)).map Prod.fst = calls.names.erase name := by
  have once := sound.once
  unfold names at once ⊢
  generalize calls.ongoing = ongoing at once member ⊢
  induction ongoing with
  | nil => cases member
  | cons call rest inductionHypothesis =>
    rw [List.map_cons, List.nodup_cons] at once
    by_cases same : call = (name, cancels)
    · subst same
      simp
    · have inRest : (name, cancels) ∈ rest := (List.mem_cons.mp member).resolve_left
        fun equal => same equal.symm
      have different : call.1 ≠ name := by
        intro equal
        exact once.1 (equal ▸ List.mem_map_of_mem inRest)
      rw [List.erase_cons_tail (by simpa using same), List.map_cons, List.map_cons,
        List.erase_cons_tail (by simpa using different), inductionHypothesis once.2 inRest]

theorem sound_finish (sound : calls.Sound own) {name : Name}
    (ends : calls.finish name = some after) : after.Sound own := by
  obtain ⟨cancels, member, rfl⟩ := finish_eq_some ends
  refine sound_cancelIf
    ⟨Budget.sound_release _ _ sound.budget, ?_, fun other owns => ?_, ?_⟩ cancels
  · show ((calls.ongoing.erase (name, cancels)).map Prod.fst).Nodup
    rw [names_erase sound member]
    exact sound.once.erase name
  · show other ∈ (calls.budget.release name).2.held ↔
      other ∈ (calls.ongoing.erase (name, cancels)).map Prod.fst
    rw [names_erase sound member, Budget.release_held, sound.budget.heldOnce.mem_erase_iff,
      sound.once.mem_erase_iff]
    exact and_congr_right fun _ => sound.held other owns
  · intro other inside
    rw [names, names_erase sound member] at inside
    exact sound.owned other (List.mem_of_mem_erase inside)

omit [DecidableEq Name] in
/-- No more calls go on than there are slots. -/
theorem length_names_le (sound : calls.Sound own) : calls.names.length ≤ calls.budget.size := by
  have subset : calls.names ⊆ calls.budget.held := fun name member =>
    (sound.held name (sound.owned name member)).mpr member
  have := (sound.once.subperm subset).length_le
  have := sound.budget.conserved
  omega

/-- The end of a call ends this call and no other. -/
theorem names_of_finish (sound : calls.Sound own) {name : Name}
    (ends : calls.finish name = some after) : after.names = calls.names.erase name := by
  obtain ⟨cancels, member, rfl⟩ := finish_eq_some ends
  rw [names_cancelIf]
  exact names_erase sound member

theorem length_ongoing_of_finish {name : Name} (ends : calls.finish name = some after) :
    after.ongoing.length + 1 = calls.ongoing.length := by
  obtain ⟨cancels, member, rfl⟩ := finish_eq_some ends
  have positive := List.length_pos_of_mem member
  rw [ongoing_cancelIf, List.length_erase_of_mem member]
  omega

/-- The end of a call begins no other. -/
theorem ongoing_of_finish {name : Name} (ends : calls.finish name = some after) :
    after.ongoing.Sublist calls.ongoing := by
  obtain ⟨cancels, member, rfl⟩ := finish_eq_some ends
  rw [ongoing_cancelIf]
  exact List.erase_sublist

theorem mem_names_of_finish (sound : calls.Sound own) {name other : Name}
    (ends : calls.finish name = some after) (member : other ∈ after.names) :
    other ∈ calls.names := by
  rw [names_of_finish sound ends] at member
  exact List.mem_of_mem_erase member

/-- The end of a call makes nobody wish for a slot, and takes no wish away. -/
theorem wishes_of_finish {name : Name} (ends : calls.finish name = some after) (other : Name) :
    other ∈ after.budget.wishes ↔ other ∈ calls.budget.wishes := by
  obtain ⟨cancels, member, rfl⟩ := finish_eq_some ends
  rw [wishes_cancelIf]
  exact (calls.budget.release_wishes name).mem_iff

theorem mem_held_of_finish {name other : Name} (ends : calls.finish name = some after)
    (held : other ∈ after.budget.held) : other ∈ calls.budget.held := by
  obtain ⟨cancels, member, rfl⟩ := finish_eq_some ends
  simp only [held_cancelIf, Budget.release_held] at held
  exact List.mem_of_mem_erase held

/-- The end of a call takes no cancellation back. -/
theorem cancelled_of_finish {name : Name} (ends : calls.finish name = some after)
    (signal : calls.cancelled = true) : after.cancelled = true := by
  obtain ⟨cancels, member, rfl⟩ := finish_eq_some ends
  have same := calls.budget.release_cancelled name
  rw [cancelled_cancelIf, Bool.or_eq_true]
  exact Or.inl (same.trans signal)

/-! ### Others -/

/-- Those who share the slots, and are not among those who make the calls, cannot spoil anything. -/
theorem sound_others (sound : calls.Sound own) {step : BudgetStep Name}
    (apart : ∀ name, own name → step.name? ≠ some name) : (calls.others step).Sound own where
  budget := Budget.sound_step calls.budget step sound.budget
  once := sound.once
  held := fun name owns =>
    ((calls.budget.mem_step_of_apart (apart name owns)).2).trans (sound.held name owns)
  owned := sound.owned

omit [DecidableEq Name] in
theorem size_cancelIf (cancels : Bool) :
    (calls.cancelIf cancels).budget.size = calls.budget.size := by
  unfold cancelIf
  split <;> rfl

/-- The number of slots never changes. -/
theorem size_of_ask {name : Name} {cancels : Bool} {answer : BudgetAnswer}
    (asks : calls.ask name cancels = (answer, after)) :
    after.budget.size = calls.budget.size := by
  have same := calls.budget.step_size (.acquire name)
  simp only [Budget.step] at same
  cases asked_of_ask asks with
  | granted budget signal acquired => simpa only [acquired] using same
  | refused budget signal acquired => simpa only [acquired] using same
  | waiting budget signal acquired => simpa only [acquired] using same

theorem size_of_finish {name : Name} (ends : calls.finish name = some after) :
    after.budget.size = calls.budget.size := by
  obtain ⟨cancels, member, rfl⟩ := finish_eq_some ends
  rw [size_cancelIf]
  exact calls.budget.step_size (.release name)

/-- Somebody who is told to wait again waits because every slot is taken. -/
theorem taken_of_waiting (sound : calls.Sound own) {name : Name} {cancels : Bool}
    (asks : calls.ask name cancels = (.waiting, after)) (wishes : name ∈ calls.budget.wishes) :
    calls.budget.assigned.length + calls.budget.held.length = calls.budget.size ∧
      name ∉ calls.budget.assigned := by
  cases asked_of_ask asks with
  | waiting budget signal acquired =>
    have notAssigned : name ∉ calls.budget.assigned := fun assigned => by
      have granted := calls.budget.acquire_of_assigned name signal assigned
      rw [acquired] at granted
      cases granted
    have waiting : name ∈ calls.budget.waiting :=
      (List.mem_append.mp wishes).resolve_right notAssigned
    have full := sound.budget.busy (List.ne_nil_of_mem waiting)
    have conserved := sound.budget.conserved
    exact ⟨by omega, notAssigned⟩

end Calls

end Holdout
