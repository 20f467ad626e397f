/-
This file says exactly when a metric has no value, and why. Every statistic looks for what stands
against a value in an order of its own, and the error is that of the first obstacle it meets.
Whether a list can be cut is always settled before it is cut, so that the cut itself never fails.
-/

import Holdout.Proofs.Metric.Measurable
import Holdout.Proofs.Scores

namespace Holdout

/-! ### Obstacles in order -/

/-- Something that may stand against a value, and the error that says so. -/
structure Obstacle where
  applies : Prop
  error : MetricError

namespace Obstacle

/-- The error is that of the first obstacle that applies. -/
def Stops (error : MetricError) : List Obstacle → Prop
  | [] => False
  | obstacle :: rest =>
    obstacle.applies ∧ error = obstacle.error ∨ ¬ obstacle.applies ∧ Stops error rest

theorem stops_append {error : MetricError} {first rest : List Obstacle} :
    Stops error (first ++ rest) ↔
      Stops error first ∨ (∀ obstacle ∈ first, ¬ obstacle.applies) ∧ Stops error rest := by
  induction first with
  | nil => simp [Stops]
  | cons obstacle others inductionHypothesis =>
    simp only [List.cons_append, Stops, inductionHypothesis, List.forall_mem_cons]
    tauto

/-- Something stops a metric exactly if some obstacle applies. -/
theorem exists_stops_iff {obstacles : List Obstacle} :
    (∃ error, Stops error obstacles) ↔ ∃ obstacle ∈ obstacles, obstacle.applies := by
  induction obstacles with
  | nil => simp [Stops]
  | cons obstacle rest inductionHypothesis =>
    simp only [Stops, exists_or, exists_and_left, exists_eq, and_true, inductionHypothesis,
      List.exists_mem_cons_iff]
    tauto

/-- The check fails for this obstacle and for nothing else. -/
structure RaisedBy (obstacle : Obstacle) (check : Except MetricError Unit) : Prop where
  refuses : obstacle.applies → check = .error obstacle.error
  passes : ¬ obstacle.applies → check = .ok ()

/-- A check in front of others puts its obstacle in front of theirs. -/
theorem RaisedBy.bind_eq_error_iff {obstacle : Obstacle} {check : Except MetricError Unit}
    (raised : obstacle.RaisedBy check) {Value : Type} {next : Unit → Except MetricError Value}
    {error : MetricError} {rest : List Obstacle}
    (later : ¬ obstacle.applies → (next () = .error error ↔ Stops error rest)) :
    (check >>= next) = .error error ↔ Stops error (obstacle :: rest) := by
  by_cases applies : obstacle.applies
  · rw [raised.refuses applies]
    show Except.error obstacle.error = Except.error error ↔ _
    simp [Stops, applies, eq_comm]
  · rw [raised.passes applies]
    show next () = .error error ↔ _
    simp [Stops, applies, later applies]

end Obstacle

/-! ### What metrics look for -/

namespace RankingMetric

open Obstacle

section

variable (metric : RankingMetric)

/-- The list is to be cut before its first item. -/
def zeroLength : Obstacle where
  applies := metric.length = some 0
  error := .invalidParameter (.zeroLength metric.label)

/-- The list is to be cut and is no ranking, however short it is. -/
def unorderedCut (recommended : ItemList) : Obstacle where
  applies := (∃ count, 1 ≤ count ∧ metric.length = some count) ∧ recommended.ordered = false
  error := .unordered metric.label

/-- The list is no ranking. -/
def unordered (recommended : ItemList) : Obstacle where
  applies := recommended.ordered = false
  error := .unordered metric.label

/-- Gains are to be read from scores that the reference does not have. -/
def ungraded (gain : Gain) (reference : ItemList) : Obstacle where
  applies := gain = .graded ∧ reference.scores = none
  error := .undefined metric.label .ungradedReference

/-- The patience is no number, or not strictly between zero and one. -/
def impatient (patience : Float) : Obstacle where
  applies := patience.isNaN = true ∨ patience ≤ 0 ∨ 1 ≤ patience
  error := .invalidParameter (.patience metric.label patience)

/-- There is nothing to take a mean of. -/
def nothing (recommended : ItemList) : Obstacle where
  applies := recommended.ids = []
  error := .undefined metric.label .noItems

/-- What stands against cutting a list. -/
def cutObstacles (recommended : ItemList) : List Obstacle :=
  [metric.zeroLength, metric.unorderedCut recommended]

/-- What stands against the value of a metric, in the order in which it is looked for. -/
def obstacles (recommended reference : ItemList) : List Obstacle :=
  match metric.statistic with
  | .hit | .precisionShare | .recallShare => metric.cutObstacles recommended
  | .reciprocalRank => [metric.unordered recommended, metric.zeroLength]
  | .cumulativeGain gain | .normalizedGain gain =>
    [metric.unordered recommended, metric.ungraded gain reference, metric.zeroLength]
  | .rankBiased patience _ =>
    [metric.impatient patience, metric.unordered recommended, metric.zeroLength]
  | .meanPopularity _ => metric.cutObstacles recommended ++ [metric.nothing recommended]

end

/-! ### Checks and their obstacles -/

section

variable {metric : RankingMetric} {recommended reference : ItemList} {error : MetricError}

theorem raisedBy_requireOrdered :
    (metric.unordered recommended).RaisedBy (Metric.requireOrdered metric.label recommended) where
  refuses := fun isUnordered => if_neg (Bool.eq_false_iff.mp isUnordered)
  passes := fun isOrdered => if_pos (Bool.not_eq_false _ ▸ isOrdered)

theorem raisedBy_requireGains {gain : Gain} :
    (metric.ungraded gain reference).RaisedBy (requireGains metric.label gain reference) where
  refuses := fun isUngraded => if_pos isUngraded
  passes := fun isGraded => if_neg isGraded

/-- A double is strictly between zero and one unless it is no number or on one of both sides. -/
theorem between_iff {patience : Float} :
    0 < patience ∧ patience < 1 ↔ ¬ (patience.isNaN = true ∨ patience ≤ 0 ∨ 1 ≤ patience) := by
  cases isNumber : patience.isNaN with
  | true =>
    simp only [true_or, not_true_eq_false, iff_false, not_and]
    exact fun positive => absurd positive (Score.not_lt_of_nan (Or.inr isNumber))
  | false =>
    have zero : (0 : Float).isNaN = false := rfl
    have one : (1 : Float).isNaN = false := rfl
    rw [Score.lt_iff_height zero isNumber, Score.lt_iff_height isNumber one,
      Score.le_iff_height isNumber zero, Score.le_iff_height one isNumber]
    simp

theorem raisedBy_requirePatience {patience : Float} :
    (metric.impatient patience).RaisedBy (requirePatience metric.label patience) where
  refuses := fun outside => if_neg fun within => between_iff.mp within outside
  passes := fun within => if_pos (between_iff.mpr within)

/-! ### Cutting -/

theorem shown_of_unordered (label : String) {count : Nat} (positive : 0 < count)
    (isUnordered : recommended.ordered = false) :
    Metric.shown label recommended (some count) = .error (.unordered label) := by
  match count, positive with
  | count + 1, _ => simp only [Metric.shown, isUnordered, Bool.not_false, if_true]

theorem shown_eq_error_iff :
    Metric.shown metric.label recommended metric.length = .error error ↔
      Stops error (metric.cutObstacles recommended) := by
  obtain ⟨statistic, length⟩ := metric
  simp only [cutObstacles, Stops, zeroLength, unorderedCut]
  generalize (⟨statistic, length⟩ : RankingMetric).label = label
  match length with
  | none => simp [Metric.shown]
  | some 0 => simp [Metric.shown, @eq_comm _ error]
  | some (count + 1) =>
    cases isOrdered : recommended.ordered with
    | false =>
      simp [shown_of_unordered label (Nat.succ_pos count) isOrdered, @eq_comm _ error]
    | true =>
      obtain ⟨list, shows, -⟩ :=
        Metric.exists_shown (Metric.some_ne_zero (Nat.succ_pos count)) (Or.inr isOrdered)
      simp [shows]

/-- Only a length of zero stands against cutting a ranking. -/
theorem shown_eq_error_iff_of_ordered (isOrdered : ¬ (metric.unordered recommended).applies) :
    Metric.shown metric.label recommended metric.length = .error error ↔
      Stops error [metric.zeroLength] := by
  rw [shown_eq_error_iff]
  have canCut : ¬ (metric.unorderedCut recommended).applies := fun refused => isOrdered refused.2
  simp [cutObstacles, Stops, canCut]

/-- Nothing stands against cutting a list of which something is seen. -/
theorem free_of_shown {list : ItemList}
    (shows : Metric.shown metric.label recommended metric.length = .ok list) :
    ∀ obstacle ∈ metric.cutObstacles recommended, ¬ obstacle.applies := by
  intro obstacle stands applies
  obtain ⟨error, stops⟩ := exists_stops_iff.mpr ⟨obstacle, stands, applies⟩
  rw [← shown_eq_error_iff, shows] at stops
  cases stops

/-- What is seen of a list is its first items. -/
theorem ids_of_shown {list : ItemList}
    (shows : Metric.shown metric.label recommended metric.length = .ok list) :
    metric.length ≠ some 0 ∧ list.ids = ItemList.cut metric.length recommended.ids := by
  have free := free_of_shown shows
  simp only [cutObstacles, List.forall_mem_cons] at free
  obtain ⟨lengthy, canCut, -⟩ := free
  have ordered : metric.length = none ∨ recommended.ordered = true := by
    rw [or_iff_not_imp_left, ← ne_eq, Option.ne_none_iff_exists', ← Bool.not_eq_false]
    rintro ⟨count, length⟩ isUnordered
    have positive : count ≠ 0 := fun zero => lengthy (length.trans (congrArg some zero))
    exact canCut ⟨⟨count, Nat.one_le_iff_ne_zero.mpr positive, length⟩, isUnordered⟩
  obtain ⟨other, showsOther, ids⟩ := Metric.exists_shown lengthy ordered
  obtain rfl : list = other := Except.ok.inj (shows.symm.trans (showsOther metric.label))
  exact ⟨lengthy, ids⟩

/-- What is seen of a list is empty exactly if the list is. -/
theorem isEmpty_of_shown {list : ItemList}
    (shows : Metric.shown metric.label recommended metric.length = .ok list) :
    list.isEmpty = true ↔ (metric.nothing recommended).applies := by
  obtain ⟨lengthy, ids⟩ := ids_of_shown shows
  rw [ItemList.isEmpty, ids, List.isEmpty_iff]
  refine ⟨fun none => ?_, fun none => ?_⟩
  · by_contra something
    exact Metric.cut_ne_nil lengthy something none
  · exact List.sublist_nil.mp (none ▸ ItemList.cut_sublist _ recommended.ids)

/-- A mean asks for an item besides. -/
theorem prepare_meanPopularity_eq_error_iff {ranks : Table Nat} {length : Option Nat}
    {metric : RankingMetric} (isMean : metric = ⟨.meanPopularity ranks, length⟩) :
    metric.prepare recommended reference = .error error ↔
      Stops error (metric.cutObstacles recommended ++ [metric.nothing recommended]) := by
  have prepares : metric.prepare recommended reference =
      Metric.shown metric.label recommended metric.length >>= fun list =>
        if list.isEmpty then .error (.undefined metric.label .noItems) else .ok list := by
    rw [isMean]
    rfl
  rw [prepares, stops_append, ← shown_eq_error_iff]
  cases shows : Metric.shown metric.label recommended metric.length with
  | error refusal =>
    obtain ⟨obstacle, stands, applies⟩ :=
      exists_stops_iff.mp ⟨refusal, shown_eq_error_iff.mp shows⟩
    exact (or_iff_left fun free => free.1 obstacle stands applies).symm
  | ok list =>
    rw [or_iff_right (by simp), and_iff_right (free_of_shown shows)]
    show (if list.isEmpty then _ else _) = _ ↔ _
    by_cases none : (metric.nothing recommended).applies
    · rw [if_pos ((isEmpty_of_shown shows).mpr none)]
      simp only [Stops, none, true_and, not_true_eq_false, false_and, or_false,
        Except.error.injEq, eq_comm]
      rfl
    · rw [if_neg (mt (isEmpty_of_shown shows).mp none)]
      simp [Stops, none]

/-- Measuring fails for the first obstacle and for nothing else, whatever the numbers are. -/
theorem measure_eq_error_iff {Number : Type} (arithmetic : Arithmetic Number) :
    metric.measure arithmetic recommended reference = .error error ↔
      Stops error (metric.obstacles recommended reference) := by
  have prepares : metric.measure arithmetic recommended reference = .error error ↔
      metric.prepare recommended reference = .error error := by
    rw [measure]
    cases metric.prepare recommended reference <;> simp [Except.map]
  rw [prepares]
  obtain ⟨statistic, length⟩ := metric
  cases statistic with
  | hit | precisionShare | recallShare => exact shown_eq_error_iff
  | reciprocalRank =>
    exact raisedBy_requireOrdered.bind_eq_error_iff shown_eq_error_iff_of_ordered
  | cumulativeGain gain | normalizedGain gain =>
    exact raisedBy_requireOrdered.bind_eq_error_iff fun isOrdered =>
      raisedBy_requireGains.bind_eq_error_iff fun _ => shown_eq_error_iff_of_ordered isOrdered
  | rankBiased patience normalized =>
    exact raisedBy_requirePatience.bind_eq_error_iff fun _ =>
      raisedBy_requireOrdered.bind_eq_error_iff shown_eq_error_iff_of_ordered
  | meanPopularity ranks => exact prepare_meanPopularity_eq_error_iff rfl

end

/-! ### When there is no value -/

/-- When a metric has no value for a list and its reference, and why. -/
structure FailsExactly (metric : RankingMetric) (recommended reference : ItemList) : Prop where
  /-- The error is that of the first obstacle, in the order of the statistic. -/
  stops : ∀ (Number : Type) (arithmetic : Arithmetic Number) (error : MetricError),
    metric.measure arithmetic recommended reference = .error error ↔
      Stops error (metric.obstacles recommended reference)
  /-- Without an obstacle there is a value. -/
  passes : ∀ (Number : Type) (arithmetic : Arithmetic Number),
    (∃ value, metric.measure arithmetic recommended reference = .ok value) ↔
      ∀ obstacle ∈ metric.obstacles recommended reference, ¬ obstacle.applies
  /-- A list that the checks let through to be cut can be cut. -/
  cuts : ∀ count, metric.length = some count → recommended.ordered = true →
    ∃ list, recommended.top count = .ok list

/-- Every metric fails exactly for what its statistic looks for, and nothing else can go wrong. -/
theorem measure_fails_exactly (metric : RankingMetric) (recommended reference : ItemList) :
    metric.FailsExactly recommended reference where
  stops := fun _ arithmetic _ => measure_eq_error_iff arithmetic
  passes := by
    intro Number arithmetic
    have stops : (∃ error, metric.measure arithmetic recommended reference = .error error) ↔
        ∃ obstacle ∈ metric.obstacles recommended reference, obstacle.applies := by
      simp only [measure_eq_error_iff, exists_stops_iff]
    cases measured : metric.measure arithmetic recommended reference with
    | error error =>
      obtain ⟨obstacle, stands, applies⟩ := stops.mp ⟨error, measured⟩
      exact iff_of_false (by simp) fun free => free obstacle stands applies
    | ok value =>
      refine iff_of_true ⟨value, rfl⟩ fun obstacle stands applies => ?_
      obtain ⟨error, refused⟩ := stops.mpr ⟨obstacle, stands, applies⟩
      rw [measured] at refused
      cases refused
  cuts := fun count _ isOrdered => ItemList.exists_top_of_ordered isOrdered count

/-- A patience that is no number is found before the length of zero and the missing order. -/
example : (⟨.rankBiased (0.0 / 0.0) false, some 0⟩ : RankingMetric).measure .double
      ⟨["a"], none, none, false⟩ (ItemList.empty false) =
    .error (.invalidParameter (.patience "RBP@0" (0.0 / 0.0))) := by rfl

end RankingMetric

end Holdout
