/-
This file shows how far down a ranking a metric looks. Cut to a length, it sees as many of the first
items and nothing else of the list, neither what comes later nor scores or ranks. So it is the same
metric without a length on the first items, and an error is the same but for the name of the metric.
Only for a share of the best possible the length also says what is possible.
-/

import Holdout.Metric.Coverage
import Holdout.Proofs.Metric.Measurable

namespace Holdout

/-! ### Errors under another name -/

/-- The fault as a metric of this name words it. -/
def ParameterFault.named (label : String) : ParameterFault → ParameterFault
  | .zeroLength _ => .zeroLength label
  | .patience _ value => .patience label value
  | .other text => .other text

/-- The error as a metric of this name reports it. -/
def MetricError.named (label : String) : MetricError → MetricError
  | .unordered _ => .unordered label
  | .undefined _ reason => .undefined label reason
  | .invalidParameter fault => .invalidParameter (fault.named label)

/-- The statistic is a share of the best that the reference and the length allow. -/
def Statistic.IsNormalized : Statistic → Prop
  | .normalizedGain _ => True
  | .rankBiased _ normalized => normalized = true
  | _ => False

/-- Two rankings that begin with the same items, as far as this length goes. -/
structure SameFirst (count : Nat) (first second : ItemList) : Prop where
  ordered : first.ordered = true ∧ second.ordered = true
  ids : first.ids.take count = second.ids.take count

namespace RankingMetric

/-! ### With a length and without it -/

/-- Without its length a metric refuses the same under another name. -/
theorem refusal?_at (statistic : Statistic) (count : Nat) (list reference : ItemList) :
    (⟨statistic, some count⟩ : RankingMetric).refusal? list reference =
      ((⟨statistic, none⟩ : RankingMetric).refusal? list reference).map
        (·.named (⟨statistic, some count⟩ : RankingMetric).label) := by
  cases statistic with
  | cumulativeGain _ | normalizedGain _ | rankBiased _ _ | meanPopularity _ =>
    simp only [refusal?]
    split <;> rfl
  | _ => rfl

theorem value_at {statistic : Statistic} (plain : ¬ statistic.IsNormalized) {Number : Type}
    (arithmetic : Arithmetic Number) (count : Nat) (list reference : ItemList) :
    (⟨statistic, some count⟩ : RankingMetric).value arithmetic list reference =
      (⟨statistic, none⟩ : RankingMetric).value arithmetic list reference := by
  cases statistic with
  | normalizedGain gain => exact absurd trivial plain
  | rankBiased patience normalized =>
    cases normalized with
    | true => exact absurd rfl plain
    | false => rfl
  | _ => rfl

end RankingMetric

/-! ### The first items -/

section

variable {count : Nat} {recommended first : ItemList}

/-- A ranking begins with its first items. -/
theorem ItemList.sameFirst_of_top (isOrdered : recommended.ordered = true)
    (cuts : recommended.top count = .ok first) : SameFirst count recommended first where
  ordered := ⟨isOrdered, (ordered_of_top cuts).trans isOrdered⟩
  ids := by rw [ids_of_top cuts, List.take_take, Nat.min_self]

theorem SameFirst.exists_shown {other : ItemList} (same : SameFirst count recommended other)
    (positive : 0 < count) (label : String) : ∃ list another,
      Metric.shown label recommended (some count) = .ok list ∧
        Metric.shown label other (some count) = .ok another ∧ list.ids = another.ids := by
  obtain ⟨list, cuts⟩ := ItemList.exists_top_of_ordered same.ordered.1 count
  obtain ⟨another, cutsOther⟩ := ItemList.exists_top_of_ordered same.ordered.2 count
  refine ⟨list, another, Metric.shown_of_top label positive same.ordered.1 cuts,
    Metric.shown_of_top label positive same.ordered.2 cutsOther, ?_⟩
  rw [ItemList.ids_of_top cuts, ItemList.ids_of_top cutsOther, same.ids]

namespace RankingMetric

variable {Number : Type} (arithmetic : Arithmetic Number) {statistic : Statistic}

/-- Rankings that begin alike are measured alike. -/
theorem measure_eq_of_sameFirst {other : ItemList} (same : SameFirst count recommended other)
    (positive : 0 < count) (reference : ItemList) :
    (⟨statistic, some count⟩ : RankingMetric).measure arithmetic recommended reference =
      (⟨statistic, some count⟩ : RankingMetric).measure arithmetic other reference := by
  obtain ⟨list, another, shows, showsOther, ids⟩ := same.exists_shown positive
    (⟨statistic, some count⟩ : RankingMetric).label
  rw [measure_of_shown arithmetic (fun _ => same.ordered.1) shows,
    measure_of_shown arithmetic (fun _ => same.ordered.2) showsOther,
    refusal?_congr (congrArg List.isEmpty ids), value_congr arithmetic ids]

theorem measure_at (plain : ¬ statistic.IsNormalized) (positive : 0 < count)
    (isOrdered : recommended.ordered = true) (cuts : recommended.top count = .ok first)
    (reference : ItemList) :
    (⟨statistic, some count⟩ : RankingMetric).measure arithmetic recommended reference =
      ((⟨statistic, none⟩ : RankingMetric).measure arithmetic first reference).mapError
        (·.named (⟨statistic, some count⟩ : RankingMetric).label) := by
  have isOrderedFirst : first.ordered = true := (ItemList.ordered_of_top cuts).trans isOrdered
  have whole : Metric.shown (⟨statistic, none⟩ : RankingMetric).label first none = .ok first := rfl
  rw [measure_of_shown arithmetic (fun _ => isOrdered)
      (Metric.shown_of_top _ positive isOrdered cuts),
    measure_of_shown arithmetic (fun _ => isOrderedFirst) whole, refusal?_at, value_at plain]
  cases (⟨statistic, none⟩ : RankingMetric).refusal? first reference <;> rfl

end RankingMetric

end

/-! ### Many lists -/

namespace Coverage

variable {count : Nat} {lists others : List ItemList}

theorem exists_mapM_shown (same : List.Forall₂ (SameFirst count) lists others)
    (positive : 0 < count) (label : String) : ∃ shownLists shownOthers,
      (lists.mapM fun list => Metric.shown label list (some count)) = .ok shownLists ∧
        (others.mapM fun list => Metric.shown label list (some count)) = .ok shownOthers ∧
        shownLists.map ItemList.ids = shownOthers.map ItemList.ids := by
  induction same with
  | nil => exact ⟨[], [], rfl, rfl, rfl⟩
  | cons begins _ inductionHypothesis =>
    obtain ⟨list, other, shows, showsOther, ids⟩ := begins.exists_shown positive label
    obtain ⟨rest, otherRest, showRest, showOtherRest, idsRest⟩ := inductionHypothesis
    refine ⟨list :: rest, other :: otherRest, ?_, ?_, ?_⟩
    · rw [List.mapM_cons, shows, showRest]
      rfl
    · rw [List.mapM_cons, showsOther, showOtherRest]
      rfl
    · rw [List.map_cons, List.map_cons, ids, idsRest]

/-- What is covered is decided by the items of the lists. -/
theorem covered_congr (coverage : Coverage)
    (ids : lists.map ItemList.ids = others.map ItemList.ids) :
    coverage.covered lists = coverage.covered others := by
  have shownBySome (lists : List ItemList) (item : ItemId) :
      (lists.any fun list => list.contains item) =
        (lists.map ItemList.ids).any (·.contains item) := List.any_map.symm
  simp only [covered, shownBySome, ids]

theorem measure_eq_of_sameFirst {Number : Type} (arithmetic : Arithmetic Number)
    (catalog : List ItemId) (same : List.Forall₂ (SameFirst count) lists others)
    (positive : 0 < count) :
    (⟨catalog, some count⟩ : Coverage).measure arithmetic lists =
      (⟨catalog, some count⟩ : Coverage).measure arithmetic others := by
  obtain ⟨shownLists, shownOthers, shows, showsOther, ids⟩ :=
    exists_mapM_shown same positive (⟨catalog, some count⟩ : Coverage).label
  simp only [measure, shows, showsOther]
  split
  · rfl
  · show Except.ok (arithmetic.ratio (covered _ shownLists).length _) = _
    rw [covered_congr _ ids]
    rfl

end Coverage

/-! ### What a length leaves to see -/

/-- What a statistic with a length makes of a ranking and of its first items. -/
structure SeesFirst (statistic : Statistic) (count : Nat) (recommended first : ItemList) :
    Prop where
  /-- A statistic that is no share of the best needs no length for the first items. An error is the
  same under the name that goes with the length. -/
  plain : ¬ statistic.IsNormalized →
    ∀ (Number : Type) (arithmetic : Arithmetic Number) (reference : ItemList),
      (⟨statistic, some count⟩ : RankingMetric).measure arithmetic recommended reference =
        ((⟨statistic, none⟩ : RankingMetric).measure arithmetic first reference).mapError
          (·.named (⟨statistic, some count⟩ : RankingMetric).label)
  /-- Every statistic has the same value for the first items, or the same error. -/
  again : ∀ (Number : Type) (arithmetic : Arithmetic Number) (reference : ItemList),
    (⟨statistic, some count⟩ : RankingMetric).measure arithmetic recommended reference =
      (⟨statistic, some count⟩ : RankingMetric).measure arithmetic first reference
  /-- And so it has for every ranking that begins with them. -/
  alike : ∀ other, SameFirst count recommended other →
    ∀ (Number : Type) (arithmetic : Arithmetic Number) (reference : ItemList),
      (⟨statistic, some count⟩ : RankingMetric).measure arithmetic recommended reference =
        (⟨statistic, some count⟩ : RankingMetric).measure arithmetic other reference

/-- A metric with a length sees the first items of a ranking, all of them if there are no more, and
nothing else. -/
theorem measure_sees_first {count : Nat} (positive : 0 < count) :
    (∀ (statistic : Statistic) (recommended : ItemList), recommended.ordered = true →
      ∃ first, recommended.top count = .ok first ∧
        SeesFirst statistic count recommended first) ∧
    ∀ (catalog : List ItemId) (lists others : List ItemList),
      List.Forall₂ (SameFirst count) lists others →
      ∀ (Number : Type) (arithmetic : Arithmetic Number),
        (⟨catalog, some count⟩ : Coverage).measure arithmetic lists =
          (⟨catalog, some count⟩ : Coverage).measure arithmetic others := by
  refine ⟨fun statistic recommended isOrdered => ?_, fun catalog lists others same Number
    arithmetic => Coverage.measure_eq_of_sameFirst arithmetic catalog same positive⟩
  obtain ⟨first, cuts⟩ := ItemList.exists_top_of_ordered isOrdered count
  exact ⟨first, cuts,
    fun plain _ arithmetic reference =>
      RankingMetric.measure_at arithmetic plain positive isOrdered cuts reference,
    fun _ arithmetic reference =>
      RankingMetric.measure_eq_of_sameFirst arithmetic
        (ItemList.sameFirst_of_top isOrdered cuts) positive reference,
    fun _ same _ arithmetic reference =>
      RankingMetric.measure_eq_of_sameFirst arithmetic same positive reference⟩

/-- A ranking that is cut, and lists of which one is shorter than the length. -/
theorem measure_sees_first_two :
    (∃ first, (⟨["a", "b", "c"], some [3.0, 2.0, 1.0], none, true⟩ : ItemList).top 2 = .ok first ∧
      SeesFirst (.normalizedGain .graded) 2
        ⟨["a", "b", "c"], some [3.0, 2.0, 1.0], none, true⟩ first) ∧
    (⟨["a", "b", "c", "d"], some 2⟩ : Coverage).measure .double
        [⟨["a", "b", "c"], none, none, true⟩, ⟨["b"], none, none, true⟩] =
      (⟨["a", "b", "c", "d"], some 2⟩ : Coverage).measure .double
        [⟨["a", "b", "d"], none, none, true⟩, ⟨["b"], none, some [1], true⟩] :=
  ⟨(measure_sees_first (by decide)).1 _ _ rfl,
    (measure_sees_first (by decide)).2 _ _ _
      (.cons ⟨⟨rfl, rfl⟩, rfl⟩ (.cons ⟨⟨rfl, rfl⟩, rfl⟩ .nil)) _ _⟩

end Holdout
