/-
This file says what share of a catalog some lists cover. It is the part of the catalog that lies in
the union of what is seen of the lists. A union knows neither order nor repetition, it grows when a
list is added or more is seen of every list, and what lies outside the catalog is no part of it.
-/

import Holdout.Metric.Coverage
import Holdout.Proofs.Double.Shares
import Holdout.Proofs.HeldOut
import Holdout.Proofs.Metric.Exact
import Holdout.Proofs.Metric.Measurable

namespace Holdout

/-! ### Shares in order -/

namespace Arithmetic

open Double

/-- The shares of a count are between zero and one, they are in the order of their parts, and only
the whole is a share of one. -/
structure OrdersShares {Number : Type} (arithmetic : Arithmetic Number) (whole : Nat) :
    Prop where
  notNegative : ∀ part ≤ whole,
    arithmetic.atMost (arithmetic.ofNat 0) (arithmetic.ratio part whole) = true
  inOrder : ∀ part other, part ≤ other → other ≤ whole →
    arithmetic.atMost (arithmetic.ratio part whole) (arithmetic.ratio other whole) = true
  all : arithmetic.ratio whole whole = arithmetic.ofNat 1
  notAll : ∀ part < whole, arithmetic.ratio part whole ≠ arithmetic.ofNat 1

theorem ordersShares_exact {K : Type} [Field K] [LinearOrder K] [IsStrictOrderedRing K]
    (value : Float → K) (discount : Nat → K) {whole : Nat} (something : 0 < whole) :
    (exact value discount).OrdersShares whole := by
  have positive : (0 : K) < whole := Nat.cast_pos.mpr something
  have atMost_iff {first second : K} :
      (exact value discount).atMost first second = true ↔ first ≤ second := decide_eq_true_iff
  have ratio (part : Nat) : (exact value discount).ratio part whole = (part : K) / whole := rfl
  have ofNat (count : Nat) : (exact value discount).ofNat count = (count : K) := rfl
  refine ⟨fun part _ => ?_, fun part other order _ => ?_, ?_, fun part less => ?_⟩
  · rw [atMost_iff, ratio, ofNat, Nat.cast_zero]
    positivity
  · rw [atMost_iff, ratio, ratio, div_le_div_iff_of_pos_right positive]
    exact_mod_cast order
  · rw [ratio, ofNat, div_self positive.ne', Nat.cast_one]
  · rw [ratio, ofNat, Nat.cast_one, ne_eq, div_eq_one_iff_eq positive.ne']
    exact_mod_cast less.ne

/-- Doubles tell the shares of a count apart that is not too great. -/
theorem ordersShares_double {whole : Nat} (something : 0 < whole) (atMost : whole ≤ 2 ^ 52) :
    double.OrdersShares whole where
  notNegative := by
    intro part within
    rcases Nat.eq_zero_or_pos part with rfl | positive
    · exact isZero_ofNat.atMost (isZero_ratio something)
    · obtain ⟨share, holds, -⟩ :=
        exists_holds_ratio positive (by omega) something (by omega)
      exact atMost_of_lt (isZero_ofNat.lt holds.pos)
  inOrder := by
    intro part other order within
    rcases order.eq_or_lt with rfl | less
    · have isNumber := isNaN_ratio (by omega : part < 2 ^ 53) something (by omega)
      exact (atMost_iff_height isNumber isNumber).mpr le_rfl
    · exact atMost_of_lt (ratio_lt_ratio less (by omega) something (by omega))
  all := ratio_self something (by omega)
  notAll := by
    intro part less same
    have below := ratio_lt_ratio less atMost something (by omega)
    rw [same, ratio_self something (by omega)] at below
    exact absurd below (by decide)

end Arithmetic

namespace ItemList

/-- A length that sees no less of any list; without a length all of it is seen. -/
def NoShorter : Option Nat → Option Nat → Prop
  | _, none => True
  | none, some _ => False
  | some count, some other => count ≤ other

theorem cut_subset_cut {length longer : Option Nat} (noShorter : NoShorter length longer)
    (items : List ItemId) : cut length items ⊆ cut longer items := by
  match length, longer, noShorter with
  | length, none, _ => exact (cut_sublist length items).subset
  | some count, some other, noShorter => exact (List.take_prefix_take_left noShorter).subset

end ItemList

namespace Coverage

/-! ### What is seen of the catalog -/

/-- All lists can be cut: there is no length, or it is not zero and every list is a ranking. -/
def CanCut (length : Option Nat) (lists : List ItemList) : Prop :=
  length = none ∨ length ≠ some 0 ∧ ∀ list ∈ lists, list.ordered = true

/-- The item is among the first items of some list. -/
def Seen (length : Option Nat) (lists : List ItemList) (item : ItemId) : Prop :=
  ∃ list ∈ lists, item ∈ ItemList.cut length list.ids

/-- The distinct items of a catalog that are in the union of what is seen of some lists. -/
def union (catalog : List ItemId) (length : Option Nat) (lists : List ItemList) : Finset ItemId :=
  catalog.toFinset ∩ (lists.flatMap fun list => ItemList.cut length list.ids).toFinset

section

variable {catalog : List ItemId} {length longer : Option Nat} {lists others : List ItemList}

@[simp] theorem mem_union {item : ItemId} :
    item ∈ union catalog length lists ↔ item ∈ catalog ∧ Seen length lists item := by
  simp [union, Seen]

theorem union_congr (alike : ∀ item ∈ catalog, Seen length lists item ↔ Seen length others item) :
    union catalog length lists = union catalog length others := by
  ext item
  rw [mem_union, mem_union]
  exact and_congr_right (alike item)

theorem union_subset_union
    (more : ∀ item ∈ catalog, Seen length lists item → Seen longer others item) :
    union catalog length lists ⊆ union catalog longer others := by
  intro item member
  rw [mem_union] at member ⊢
  exact ⟨member.1, more item member.1 member.2⟩

theorem union_subset_catalog : union catalog length lists ⊆ catalog.toFinset :=
  Finset.inter_subset_left

theorem union_eq_catalog_iff :
    union catalog length lists = catalog.toFinset ↔ ∀ item ∈ catalog, Seen length lists item := by
  rw [Finset.Subset.antisymm_iff, and_iff_right union_subset_catalog]
  simp only [Finset.subset_iff, List.mem_toFinset, mem_union]
  exact forall₂_congr fun item known => and_iff_right known

/-! ### Measuring -/

theorem mapM_shown_of_canCut (canCut : CanCut length lists) (label : String) :
    ∃ cuts, (lists.mapM fun list => Metric.shown label list length) = .ok cuts ∧
      cuts.map ItemList.ids = lists.map fun list => ItemList.cut length list.ids := by
  induction lists with
  | nil => exact ⟨[], rfl, rfl⟩
  | cons list rest inductionHypothesis =>
    have lengthy : length ≠ some 0 := by
      rcases canCut with rfl | ⟨lengthy, -⟩
      · exact nofun
      · exact lengthy
    have ordered : length = none ∨ list.ordered = true :=
      canCut.imp id fun rankings => rankings.2 list List.mem_cons_self
    have later : CanCut length rest := canCut.imp id fun rankings =>
      ⟨lengthy, fun other member => rankings.2 other (List.mem_cons_of_mem _ member)⟩
    obtain ⟨first, shows, ids⟩ := Metric.exists_shown lengthy ordered
    obtain ⟨cuts, showsRest, idsRest⟩ := inductionHypothesis later
    refine ⟨first :: cuts, ?_, ?_⟩
    · rw [List.mapM_cons, shows, showsRest]
      rfl
    · rw [List.map_cons, List.map_cons, ids, idsRest]

theorem length_items : (⟨catalog, length⟩ : Coverage).items.length = catalog.toFinset.card := by
  have distinct : catalog.eraseDups.toFinset = catalog.toFinset := by
    ext item
    simp
  rw [← distinct, List.toFinset_card_of_nodup (nodup_eraseDups _)]
  rfl

theorem length_covered {cuts : List ItemList}
    (ids : cuts.map ItemList.ids = lists.map fun list => ItemList.cut length list.ids) :
    ((⟨catalog, length⟩ : Coverage).covered cuts).length =
      (union catalog length lists).card := by
  have distinct : ((⟨catalog, length⟩ : Coverage).covered cuts).Nodup :=
    (nodup_eraseDups _).filter _
  have shown (item : ItemId) : (∃ list ∈ cuts, item ∈ list.ids) ↔ Seen length lists item := by
    have inSome : (∃ list ∈ cuts, item ∈ list.ids) ↔ ∃ items ∈ cuts.map ItemList.ids,
        item ∈ items := by simp
    rw [inSome, ids]
    simp [Seen]
  have same : ((⟨catalog, length⟩ : Coverage).covered cuts).toFinset =
      union catalog length lists := by
    ext item
    simp [covered, items, ItemList.contains, shown]
  rw [← same, List.toFinset_card_of_nodup distinct]

/-- The value is the part of the catalog that is in the union, as a share of the catalog. -/
theorem measure_eq_ratio (something : catalog ≠ []) (canCut : CanCut length lists) {Number : Type}
    (arithmetic : Arithmetic Number) :
    (⟨catalog, length⟩ : Coverage).measure arithmetic lists =
      .ok (arithmetic.ratio (union catalog length lists).card catalog.toFinset.card) := by
  obtain ⟨cuts, shows, ids⟩ := mapM_shown_of_canCut canCut (⟨catalog, length⟩ : Coverage).label
  have some : (⟨catalog, length⟩ : Coverage).items.isEmpty = false := by
    rw [List.isEmpty_eq_false_iff, ← List.length_pos_iff, length_items, Finset.card_pos,
      List.toFinset_nonempty_iff]
    exact something
  rw [measure, some, shows, ← length_covered ids, ← length_items]
  rfl

end

/-! ### Shares of a catalog -/

/-- What the coverage of a catalog by some lists is, and what it does not depend on. -/
structure GivenByUnion (catalog : List ItemId) (length : Option Nat) (lists : List ItemList) :
    Prop where
  /-- In any arithmetic it is the part of the catalog that is in the union, as a share of it. -/
  value : ∀ (Number : Type) (arithmetic : Arithmetic Number),
    (⟨catalog, length⟩ : Coverage).measure arithmetic lists =
      .ok (arithmetic.ratio (union catalog length lists).card catalog.toFinset.card)
  /-- The lists may come in another order, and as often as one likes. -/
  anyOrder : ∀ others : List ItemList, (∀ list, list ∈ others ↔ list ∈ lists) →
    ∀ (Number : Type) (arithmetic : Arithmetic Number),
      (⟨catalog, length⟩ : Coverage).measure arithmetic others =
        (⟨catalog, length⟩ : Coverage).measure arithmetic lists
  /-- What is seen of a list may be anything else outside the catalog. -/
  anyForeign : ∀ others : List ItemList, CanCut length others →
    List.Forall₂ (fun list other => ∀ item ∈ catalog,
      item ∈ ItemList.cut length list.ids ↔ item ∈ ItemList.cut length other.ids) lists others →
    ∀ (Number : Type) (arithmetic : Arithmetic Number),
      (⟨catalog, length⟩ : Coverage).measure arithmetic others =
        (⟨catalog, length⟩ : Coverage).measure arithmetic lists

/-- How great the coverage of a catalog by some lists is, beside that by other ones. -/
structure GrowsWithUnion {Number : Type} (arithmetic : Arithmetic Number)
    (catalog : List ItemId) (length : Option Nat) (lists : List ItemList) (share : Number) :
    Prop where
  measured : (⟨catalog, length⟩ : Coverage).measure arithmetic lists = .ok share
  bounded : arithmetic.atMost (arithmetic.ofNat 0) share = true ∧
    arithmetic.atMost share (arithmetic.ofNat 1) = true
  whole : share = arithmetic.ofNat 1 ↔ ∀ item ∈ catalog, Seen length lists item
  /-- With more lists the share is not lower. -/
  added : ∀ others : List ItemList, CanCut length others → lists ⊆ others →
    ∃ greater, (⟨catalog, length⟩ : Coverage).measure arithmetic others = .ok greater ∧
      arithmetic.atMost share greater = true
  /-- Nor is it where more is seen of every list. -/
  deeper : ∀ longer : Option Nat, CanCut longer lists → ItemList.NoShorter length longer →
    ∃ greater, (⟨catalog, longer⟩ : Coverage).measure arithmetic lists = .ok greater ∧
      arithmetic.atMost share greater = true

section

variable {catalog : List ItemId} {length longer : Option Nat} {lists others : List ItemList}

theorem CanCut.of_subset (canCut : CanCut length lists) (subset : others ⊆ lists) :
    CanCut length others :=
  canCut.imp id fun rankings =>
    ⟨rankings.1, fun list member => rankings.2 list (subset member)⟩

theorem Seen.of_forall₂
    (same : List.Forall₂ (fun list other => ∀ item ∈ catalog,
      item ∈ ItemList.cut length list.ids ↔ item ∈ ItemList.cut length other.ids) lists others) :
    ∀ item ∈ catalog, Seen length others item ↔ Seen length lists item := by
  intro item known
  induction same with
  | nil => exact Iff.rfl
  | cons here _ inductionHypothesis =>
    simp only [Seen, List.exists_mem_cons_iff] at inductionHypothesis ⊢
    rw [here item known, inductionHypothesis]

theorem givenByUnion (something : catalog ≠ []) (canCut : CanCut length lists) :
    GivenByUnion catalog length lists := by
  have alike (others : List ItemList) (canCutOthers : CanCut length others)
      (same : ∀ item ∈ catalog, Seen length others item ↔ Seen length lists item)
      (Number : Type) (arithmetic : Arithmetic Number) :
      (⟨catalog, length⟩ : Coverage).measure arithmetic others =
        (⟨catalog, length⟩ : Coverage).measure arithmetic lists := by
    rw [measure_eq_ratio something canCutOthers, measure_eq_ratio something canCut,
      union_congr same]
  refine ⟨fun _ => measure_eq_ratio something canCut, fun others same => ?_,
    fun others canCutOthers same => alike others canCutOthers (Seen.of_forall₂ same)⟩
  refine alike others (canCut.of_subset fun list => (same list).mp) fun item _ => ?_
  simp only [Seen, same]

variable {Number : Type} {arithmetic : Arithmetic Number}

/-- Whoever sees more of the catalog covers no less of it. -/
theorem exists_measure_ge (orders : arithmetic.OrdersShares catalog.toFinset.card)
    (something : catalog ≠ []) (canCut : CanCut longer others)
    (more : ∀ item ∈ catalog, Seen length lists item → Seen longer others item) :
    ∃ greater, (⟨catalog, longer⟩ : Coverage).measure arithmetic others = .ok greater ∧
      arithmetic.atMost
        (arithmetic.ratio (union catalog length lists).card catalog.toFinset.card) greater =
          true :=
  ⟨_, measure_eq_ratio something canCut arithmetic, orders.inOrder _ _
    (Finset.card_le_card (union_subset_union more)) (Finset.card_le_card union_subset_catalog)⟩

theorem growsWithUnion (orders : arithmetic.OrdersShares catalog.toFinset.card)
    (something : catalog ≠ []) (canCut : CanCut length lists) :
    GrowsWithUnion arithmetic catalog length lists
      (arithmetic.ratio (union catalog length lists).card catalog.toFinset.card) := by
  have within : (union catalog length lists).card ≤ catalog.toFinset.card :=
    Finset.card_le_card union_subset_catalog
  refine ⟨measure_eq_ratio something canCut arithmetic,
    ⟨orders.notNegative _ within, orders.all ▸ orders.inOrder _ _ within le_rfl⟩, ?_,
    fun others canCutOthers subset => ?_, fun longer canCutLonger noShorter => ?_⟩
  · rw [← union_eq_catalog_iff]
    constructor
    · intro all
      refine Finset.eq_of_subset_of_card_le union_subset_catalog (not_lt.mp fun less => ?_)
      exact orders.notAll _ less all
    · intro all
      rw [all, orders.all]
  · refine exists_measure_ge orders something canCutOthers fun item _ => ?_
    rintro ⟨list, member, shown⟩
    exact ⟨list, subset member, shown⟩
  · refine exists_measure_ge orders something canCutLonger fun item _ => ?_
    rintro ⟨list, member, shown⟩
    exact ⟨list, member, ItemList.cut_subset_cut noShorter _ shown⟩

end

/-- Whatever the lists are, as long as they can be cut, coverage is the share of the catalog that
their union has. Shares of one catalog are in order over exact numbers, and on doubles too if the
catalog is not too great. -/
theorem coverage_of_union {K : Type} [Field K] [LinearOrder K] [IsStrictOrderedRing K]
    (value : Float → K) (discount : Nat → K) {catalog : List ItemId} {length : Option Nat}
    {lists : List ItemList} (something : catalog ≠ []) (canCut : CanCut length lists) :
    GivenByUnion catalog length lists ∧
      (∃ share, GrowsWithUnion (.exact value discount) catalog length lists share) ∧
      (catalog.toFinset.card ≤ 2 ^ 52 →
        ∃ share, GrowsWithUnion .double catalog length lists share) := by
  have some : 0 < catalog.toFinset.card :=
    Finset.card_pos.mpr ((List.toFinset_nonempty_iff _).mpr something)
  have exact := Arithmetic.ordersShares_exact value discount some
  exact ⟨givenByUnion something canCut, ⟨_, growsWithUnion exact something canCut⟩,
    fun few => ⟨_, growsWithUnion (Arithmetic.ordersShares_double some few) something canCut⟩⟩

/-- Of two rankings the second begins outside the catalog, where an item is named twice. -/
theorem coverage_of_union_foreign :
    GivenByUnion ["a", "b", "a", "c"] (some 2)
        [⟨["a", "b", "c"], none, some [1, 2, 3], true⟩, ⟨["z", "a"], none, none, true⟩] ∧
      (∃ share, GrowsWithUnion (.exact (fun _ => (0 : ℚ)) fun _ => 1) ["a", "b", "a", "c"] (some 2)
        [⟨["a", "b", "c"], none, some [1, 2, 3], true⟩, ⟨["z", "a"], none, none, true⟩] share) ∧
      ∃ share, GrowsWithUnion .double ["a", "b", "a", "c"] (some 2)
        [⟨["a", "b", "c"], none, some [1, 2, 3], true⟩, ⟨["z", "a"], none, none, true⟩] share := by
  obtain ⟨given, grows, growsRounded⟩ := @coverage_of_union ℚ _ _ _ (fun _ => 0) (fun _ => 1)
    ["a", "b", "a", "c"] (some 2)
    [⟨["a", "b", "c"], none, some [1, 2, 3], true⟩, ⟨["z", "a"], none, none, true⟩]
    (by decide) (Or.inr ⟨by decide, by decide⟩)
  exact ⟨given, grows, growsRounded (by decide)⟩

end Coverage

end Holdout
