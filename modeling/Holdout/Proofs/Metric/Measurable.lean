/-
This file says which lists metrics measure, and that they see the first items of them. Without a
length every list can be cut, and with one, which may not be zero, every ranking. What is refused
after that is up to the statistic: gains that are to be read from scores that the reference does not
have, a patience out of range, and a mean of no items.
-/

import Holdout.Metric.Ranking
import Holdout.Proofs.ItemList.Valid

namespace Holdout

namespace Statistic

/-- The statistic compares a list with a reference, and its parameters are accepted. -/
def Compares : Statistic → Prop
  | .rankBiased patience _ => 0 < patience ∧ patience < 1
  | .meanPopularity _ => False
  | _ => True

/-- What an item gains is its score in the reference. -/
def IsGraded : Statistic → Prop
  | .cumulativeGain gain | .normalizedGain gain => gain = .graded
  | _ => False

/-- The statistic asks for a ranking, also where it sees all of the list. -/
def NeedsRanking : Statistic → Prop
  | .hit | .precisionShare | .recallShare | .meanPopularity _ => False
  | _ => True

end Statistic

namespace Metric

section

variable {recommended list : ItemList} {length : Option Nat} {count : Nat}

theorem shown_of_top (label : String) (positive : 0 < count)
    (ordered : recommended.ordered = true) (cuts : recommended.top count = .ok list) :
    shown label recommended (some count) = .ok list := by
  match count, positive with
  | count + 1, _ => simp only [shown, ordered, Bool.not_true, Bool.false_eq_true, if_false, cuts]

theorem some_ne_zero (positive : 0 < count) : some count ≠ some 0 :=
  Option.some_inj.not.mpr (Nat.pos_iff_ne_zero.mp positive)

/-- What is seen of a list does not depend on who looks at it. -/
theorem exists_shown (lengthy : length ≠ some 0)
    (ordered : length = none ∨ recommended.ordered = true) :
    ∃ list, (∀ label, shown label recommended length = .ok list) ∧
      list.ids = ItemList.cut length recommended.ids := by
  match length, lengthy, ordered with
  | none, _, _ => exact ⟨recommended, fun _ => rfl, rfl⟩
  | some (count + 1), _, Or.inr ordered =>
    obtain ⟨list, cuts⟩ := ItemList.exists_top_of_ordered ordered (count + 1)
    exact ⟨list, fun label => shown_of_top label (Nat.succ_pos count) ordered cuts,
      ItemList.ids_of_top cuts⟩

theorem cut_ne_nil {items : List ItemId} (lengthy : length ≠ some 0) (something : items ≠ []) :
    ItemList.cut length items ≠ [] := by
  match length, lengthy with
  | none, _ => exact something
  | some (count + 1), _ => simpa [ItemList.cut] using something

theorem requireOrdered_of_ordered (label : String) (ordered : recommended.ordered = true) :
    requireOrdered label recommended = .ok () :=
  if_pos ordered

end

end Metric

/-! ### What is refused of a list that can be cut -/

namespace RankingMetric

/-- Why a metric has no value for the part of a list that it sees, if it has none. -/
def refusal? (metric : RankingMetric) (list reference : ItemList) : Option MetricError :=
  match metric.statistic with
  | .cumulativeGain gain | .normalizedGain gain =>
    if gain = .graded ∧ reference.scores = none then
      some (.undefined metric.label .ungradedReference)
    else none
  | .rankBiased patience _ =>
    if 0 < patience ∧ patience < 1 then none
    else some (.invalidParameter (.patience metric.label patience))
  | .meanPopularity _ =>
    if list.isEmpty then some (.undefined metric.label .noItems) else none
  | _ => none

variable {metric : RankingMetric} {recommended list reference : ItemList}

/-- Once a list can be cut and is ordered if it has to be, nothing but the statistic decides whether
there is a value. -/
theorem prepare_of_shown
    (ordered : metric.statistic.NeedsRanking → recommended.ordered = true)
    (shows : Metric.shown metric.label recommended metric.length = .ok list) :
    metric.prepare recommended reference =
      (metric.refusal? list reference).elim (.ok list) .error := by
  have accepted (needs : metric.statistic.NeedsRanking) :=
    Metric.requireOrdered_of_ordered metric.label (ordered needs)
  obtain ⟨statistic, length⟩ := metric
  cases statistic with
  | hit | precisionShare | recallShare => exact shows
  | reciprocalRank =>
    simp only [prepare, accepted trivial]
    exact shows
  | cumulativeGain gain | normalizedGain gain =>
    simp only [prepare, accepted trivial, requireGains, refusal?]
    split
    · rfl
    · exact shows
  | rankBiased patience normalized =>
    simp only [prepare, accepted trivial, requirePatience, refusal?]
    split
    · exact shows
    · rfl
  | meanPopularity ranks =>
    simp only [prepare, shows, refusal?]
    show (if list.isEmpty then _ else _) = _
    split <;> rfl

theorem measure_of_shown {Number : Type} (arithmetic : Arithmetic Number)
    (ordered : metric.statistic.NeedsRanking → recommended.ordered = true)
    (shows : Metric.shown metric.label recommended metric.length = .ok list) :
    metric.measure arithmetic recommended reference =
      (metric.refusal? list reference).elim (.ok (metric.value arithmetic list reference))
        .error := by
  rw [measure, prepare_of_shown ordered shows]
  cases metric.refusal? list reference <;> rfl

/-- Of a list that can be cut it only matters for a refusal whether it has items. -/
theorem refusal?_congr {other : ItemList} (empty : list.isEmpty = other.isEmpty) :
    metric.refusal? list reference = metric.refusal? other reference := by
  unfold refusal?
  rw [empty]

/-- Scores and ranks of a recommendation list play no part. -/
theorem value_congr {Number : Type} (arithmetic : Arithmetic Number) {other : ItemList}
    (ids : list.ids = other.ids) :
    metric.value arithmetic list reference = metric.value arithmetic other reference := by
  obtain ⟨statistic, length⟩ := metric
  obtain ⟨_, _, _, _⟩ := list
  obtain ⟨_, _, _, _⟩ := other
  cases ids
  -- Whatever the statistic is, it reads the items and never what stands beside them.
  cases statistic <;> rfl

/-- A length of zero is refused whatever the items are. -/
theorem measure_zero_congr {Number : Type} (arithmetic : Arithmetic Number)
    {statistic : Statistic} {other : ItemList} (ordered : recommended.ordered = other.ordered) :
    (⟨statistic, some 0⟩ : RankingMetric).measure arithmetic recommended reference =
      (⟨statistic, some 0⟩ : RankingMetric).measure arithmetic other reference := by
  unfold measure
  cases statistic <;> simp only [prepare, Metric.shown, Metric.requireOrdered, ordered]

/-- Rankings of as many items are refused alike. -/
theorem measure_error_congr {Number : Type} (arithmetic : Arithmetic Number) {other : ItemList}
    (ordered : recommended.ordered = true) (orderedToo : other.ordered = true)
    (sameSize : recommended.size = other.size) (error : MetricError) :
    metric.measure arithmetic recommended reference = .error error ↔
      metric.measure arithmetic other reference = .error error := by
  by_cases lengthy : metric.length = some 0
  · obtain ⟨statistic, length⟩ := metric
    cases lengthy
    rw [measure_zero_congr arithmetic (ordered.trans orderedToo.symm)]
  · obtain ⟨list, shows, ids⟩ := Metric.exists_shown lengthy (Or.inr ordered)
    obtain ⟨another, showsToo, idsToo⟩ := Metric.exists_shown lengthy (Or.inr orderedToo)
    have empty : list.isEmpty = another.isEmpty := by
      rw [Bool.eq_iff_iff, ItemList.isEmpty_iff_size, ItemList.isEmpty_iff_size,
        ItemList.size_eq_of_cut ids, ItemList.size_eq_of_cut idsToo, sameSize]
    rw [measure_of_shown arithmetic (fun _ => ordered) (shows _),
      measure_of_shown arithmetic (fun _ => orderedToo) (showsToo _), refusal?_congr empty]
    cases metric.refusal? another reference <;> simp

theorem refusal?_of_compares (compares : metric.statistic.Compares)
    (graded : metric.statistic.IsGraded → reference.scores ≠ none) :
    metric.refusal? list reference = none := by
  obtain ⟨statistic, length⟩ := metric
  cases statistic with
  | cumulativeGain _ | normalizedGain _ =>
    exact if_neg fun ⟨isGraded, unscored⟩ => graded isGraded unscored
  | rankBiased _ _ => exact if_pos compares
  | meanPopularity _ => exact compares.elim
  | _ => rfl

end RankingMetric

namespace Metric

/-! ### Rankings beside a reference -/

section

variable {metric : RankingMetric} {recommended reference : ItemList}

/-- A ranking is accepted by every statistic that compares it with a reference, unless there is no
score to read. -/
theorem prepare_of_ordered (compares : metric.statistic.Compares)
    (lengthy : metric.length ≠ some 0) (ordered : recommended.ordered = true)
    (graded : metric.statistic.IsGraded → reference.scores ≠ none) :
    ∃ list, metric.prepare recommended reference = .ok list ∧
      list.ids = ItemList.cut metric.length recommended.ids := by
  obtain ⟨list, shows, ids⟩ := exists_shown lengthy (Or.inr ordered)
  refine ⟨list, ?_, ids⟩
  rw [RankingMetric.prepare_of_shown (fun _ => ordered) (shows metric.label),
    RankingMetric.refusal?_of_compares compares graded, Option.elim_none]

theorem exists_measure_of_ordered (metric : RankingMetric) {Number : Type}
    (arithmetic : Arithmetic Number) (compares : metric.statistic.Compares)
    (lengthy : metric.length ≠ some 0) (ordered : recommended.ordered = true)
    (graded : metric.statistic.IsGraded → reference.scores ≠ none) :
    ∃ list, list.ids = ItemList.cut metric.length recommended.ids ∧
      metric.measure arithmetic recommended reference =
        .ok (metric.value arithmetic list reference) := by
  obtain ⟨list, prepares, ids⟩ := prepare_of_ordered compares lengthy ordered graded
  refine ⟨list, ids, ?_⟩
  rw [RankingMetric.measure, prepares]
  rfl

/-- Gains that cannot be read are refused before the list is cut. -/
theorem prepare_of_unscored (isGraded : metric.statistic.IsGraded)
    (ordered : recommended.ordered = true) (unscored : reference.scores = none) :
    metric.prepare recommended reference = .error (.undefined metric.label .ungradedReference) := by
  have accepted := requireOrdered_of_ordered metric.label ordered
  obtain ⟨statistic, length⟩ := metric
  cases statistic with
  | cumulativeGain gain | normalizedGain gain =>
    have refused : gain = .graded ∧ reference.scores = none := ⟨isGraded, unscored⟩
    simp only [RankingMetric.prepare, accepted, RankingMetric.requireGains, if_pos refused]
    rfl
  | _ => exact isGraded.elim

end

/-! ### Lists by themselves -/

theorem prepare_meanPopularity {ranks : Table Nat} {length : Option Nat}
    {recommended : ItemList} (reference : ItemList) (lengthy : length ≠ some 0)
    (ordered : length = none ∨ recommended.ordered = true) (something : recommended.ids ≠ []) :
    ∃ list, (⟨.meanPopularity ranks, length⟩ : RankingMetric).prepare recommended reference =
        .ok list ∧ list.ids = ItemList.cut length recommended.ids := by
  obtain ⟨list, shows, ids⟩ := exists_shown lengthy ordered
  have some : list.isEmpty = false := by
    rw [ItemList.isEmpty, ids, List.isEmpty_eq_false_iff]
    exact cut_ne_nil lengthy something
  have accepted : (⟨.meanPopularity ranks, length⟩ : RankingMetric).refusal? list reference =
      none := if_neg (Bool.eq_false_iff.mp some)
  have ranking (needs : (Statistic.meanPopularity ranks).NeedsRanking) :
      recommended.ordered = true := needs.elim
  refine ⟨list, ?_, ids⟩
  rw [RankingMetric.prepare_of_shown ranking (shows _), accepted, Option.elim_none]

end Metric

end Holdout
