/-
This file says of which parts a list can be put together again. The parts are checked one after the
other, each by the builder that attaches it, and what all of them ask for together is what every
list keeps to. So a list is made of its parts as they are, and the parts of any list that ever came
about are accepted and give it back.
-/

import Holdout.Proofs.ItemList.History

namespace Holdout

namespace ItemList

/-! ### Parts that fit together -/

/-- Distinct items, as many scores and ranks if there are any, and ranks that count from one to the
last item in a ranking and are at least one otherwise. -/
structure PartsFit (ids : List ItemId) (scores : Option (List Float)) (ranks : Option (List Nat))
    (ordered : Bool) : Prop where
  distinct : ids.Nodup
  scored : ∀ values ∈ scores, values.length = ids.length
  ranked : ∀ values ∈ ranks, values.length = ids.length
  inSequence : ordered = true → ∀ values ∈ ranks, values = ranksTo ids.length
  positive : ordered = false → ∀ values ∈ ranks, ∀ rank ∈ values, 1 ≤ rank

section

variable {ids : List ItemId} {scores : Option (List Float)} {ranks : Option (List Nat)}
variable {ordered : Bool} {list : ItemList}

/-- Parts fit together exactly if the list that has them keeps to what a list keeps to. -/
theorem partsFit_iff_valid :
    PartsFit ids scores ranks ordered ↔ Valid ⟨ids, scores, ranks, ordered⟩ := by
  refine ⟨fun fit => ⟨fit.distinct, fit.scored, fit.ranked, fun values given => ?_, fit.inSequence⟩,
    fun valid => ⟨valid.distinct, valid.scored, valid.ranked, valid.inSequence,
      fun _ => valid.positive⟩⟩
  cases isOrdered : ordered with
  | true =>
    rw [fit.inSequence isOrdered values given]
    exact positive_ranksTo _
  | false => exact fit.positive isOrdered values given

/-- The checks let parts through exactly if these fit together. -/
theorem ofParts_eq_ok_iff : ofParts ids scores ranks ordered = .ok list ↔
    PartsFit ids scores ranks ordered ∧ list = ⟨ids, scores, ranks, ordered⟩ := by
  rw [partsFit_iff_valid]
  constructor
  · intro builds
    obtain ⟨valid, rfl⟩ := eq_of_ofParts builds
    exact ⟨valid, rfl⟩
  · rintro ⟨valid, rfl⟩
    exact valid_iff_ofParts.mp valid

end

/-! ### Parts and lists -/

/-- Parts make a list exactly if they fit together, and the list has them as they are. The parts of
a list that came about in any way, and went through any calls since, make this list again. -/
theorem parts_accepted_exactly :
    (∀ ids scores ranks ordered,
      ((∃ list, ofParts ids scores ranks ordered = .ok list) ↔ PartsFit ids scores ranks ordered) ∧
      ∀ list, ofParts ids scores ranks ordered = .ok list → list.ids = ids ∧
        list.scores = scores ∧ list.ranks = ranks ∧ list.ordered = ordered) ∧
    ∀ (origin : Origin) (list : ItemList), origin.build? = some list → ∀ changes : List Change,
      ofParts (list.after changes).ids (list.after changes).scores (list.after changes).ranks
        (list.after changes).ordered = .ok (list.after changes) := by
  refine ⟨fun ids scores ranks ordered => ⟨⟨?_, fun fit => ?_⟩, fun list builds => ?_⟩,
    fun origin list builds changes => ?_⟩
  · rintro ⟨list, builds⟩
    exact (ofParts_eq_ok_iff.mp builds).1
  · exact ⟨_, ofParts_eq_ok_iff.mpr ⟨fit, rfl⟩⟩
  · obtain ⟨-, rfl⟩ := eq_of_ofParts builds
    exact ⟨rfl, rfl, rfl, rfl⟩
  · exact valid_iff_ofParts.mp (valid_after changes (valid_build builds))

/-- One chain ends in a ranking by score, the other leaves of a scored ranking its second item,
which has to be numbered anew. Ranks that do not count from one make no ranking. -/
theorem parts_accepted_exactly_numbered :
    (∃ list : ItemList, (Origin.scored [("b", 0.5), ("a", 2.0)]).build? = some list ∧
      ∃ ranking, list.after [.withRanks [7, 7], .top 1, .rankTop (some 1)] = ranking ∧
        ofParts ranking.ids ranking.scores ranking.ranks ranking.ordered = .ok ranking) ∧
    (∃ list : ItemList, (Origin.ranked ["b", "a", "c"]).build? = some list ∧
      list.after [.withScores [0.5, 0.0 / 0.0, 2.0], .top 2, .without ⟨["b"], none, none, false⟩] =
        ⟨["a"], some [0.0 / 0.0], some [1], true⟩ ∧
      ofParts ["a"] (some [0.0 / 0.0]) (some [1]) true =
        .ok ⟨["a"], some [0.0 / 0.0], some [1], true⟩) ∧
    ¬ ∃ list, ofParts ["b", "a"] none (some [7, 7]) true = .ok list := by
  obtain ⟨accepted, made⟩ := parts_accepted_exactly
  refine ⟨⟨_, rfl, _, rfl, made (.scored [("b", 0.5), ("a", 2.0)]) _ rfl _⟩, ⟨_, rfl, rfl, ?_⟩,
    fun builds => ?_⟩
  · exact made (.ranked ["b", "a", "c"]) _ rfl
      [.withScores [0.5, 0.0 / 0.0, 2.0], .top 2, .without ⟨["b"], none, none, false⟩]
  · have fit := (accepted _ _ _ _).1.mp builds
    exact absurd (fit.inSequence rfl _ rfl) (by decide)

end ItemList

end Holdout
