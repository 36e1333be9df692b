import Cardroom.Proofs.Combination.Layout

/-!
# The order of the cards that are laid down

A player may name the cards of a combination in any order. Whether they form one, and of which
kind, depends on the cards alone: `ofCards?_of_perm` says so, and that a run lies in one order,
whatever order its cards were given in. So the cards of a combination, laid down again, lie as they
lay before.
-/

namespace Cardroom.Combination

section

variable {cards others : List Card}

theorem IsSet.of_perm {rank : Nat} (set : IsSet rank cards) (perm : others.Perm cards) :
    IsSet rank others where
  fewest := perm.length_eq ▸ set.fewest
  most := perm.length_eq ▸ set.most
  named := by
    obtain ⟨number, suit, member⟩ := set.named
    exact ⟨number, suit, perm.mem_iff.2 member⟩
  ranks member := set.ranks (perm.mem_iff.1 member)
  suits := (perm.filterMap Card.suit?).nodup_iff.2 set.suits

theorem setRank?_eq_some_iff {rank : Nat} : setRank? cards = some rank ↔ IsSet rank cards :=
  ⟨setRank?_isSet, IsSet.setRank?_eq⟩

theorem setRank?_of_perm (perm : others.Perm cards) : setRank? others = setRank? cards := by
  apply Option.ext
  intro rank
  rw [setRank?_eq_some_iff, setRank?_eq_some_iff]
  exact ⟨fun set => set.of_perm perm.symm, fun set => set.of_perm perm⟩

theorem sameSuit_of_perm (perm : others.Perm cards) : sameSuit others = sameSuit cards := by
  rw [Bool.eq_iff_iff, sameSuit_iff, sameSuit_iff]
  simp only [perm.mem_iff]

/-- Real cards at different places have one order. -/
theorem inOrder_of_perm {acesHigh : Bool} (perm : others.Perm cards)
    (distinct : ((placed acesHigh cards).map Prod.fst).Nodup) :
    inOrder acesHigh others = inOrder acesHigh cards := by
  have same : (placed acesHigh others).Perm (placed acesHigh cards) := perm.filterMap _
  have ordered : ((inOrder acesHigh cards).map Prod.fst).Nodup :=
    ((inOrder_perm acesHigh cards).map Prod.fst).nodup_iff.2 distinct
  have reordered : ((inOrder acesHigh others).map Prod.fst).Nodup :=
    (((inOrder_perm acesHigh others).trans same).map Prod.fst).nodup_iff.2 distinct
  refine List.Perm.eq_of_pairwise ?_ (inOrder_ascending reordered) (inOrder_ascending ordered) ?_
  · intro left right _ _ below above
    exact absurd below (Nat.lt_asymm above)
  · exact (inOrder_perm acesHigh others).trans (same.trans (inOrder_perm acesHigh cards).symm)

theorem layRun?_of_perm (acesHigh : Bool) (perm : others.Perm cards) :
    layRun? acesHigh others = layRun? acesHigh cards := by
  have same : ((placed acesHigh others).map Prod.fst).Perm ((placed acesHigh cards).map Prod.fst) :=
    (perm.filterMap _).map Prod.fst
  by_cases distinct : ((placed acesHigh cards).map Prod.fst).Nodup
  · unfold layRun?
    rw [inOrder_of_perm perm distinct, perm.length_eq]
  · rw [layRun?_eq_none_of_same_place distinct,
      layRun?_eq_none_of_same_place (mt same.nodup_iff.1 distinct)]

theorem eq_of_perm_of_jokers (perm : others.Perm cards) (wild : cards.all Card.isWild) :
    others = cards := by
  have jokers : cards = List.replicate cards.length .joker := by
    refine List.eq_replicate_of_mem fun card member => ?_
    cases card with
    | joker =>
        rfl
    | standard rank suit =>
        exact absurd wild (not_all_of_mem member)
  rw [jokers] at perm ⊢
  exact List.perm_replicate.1 perm

/-- A run lies in one order. -/
theorem run?_of_perm (perm : others.Perm cards) : run? others = run? cards := by
  have ranks : (others.filterMap Card.rank?).any Rank.isAce =
      (cards.filterMap Card.rank?).any Rank.isAce :=
    (perm.filterMap Card.rank?).any_eq
  unfold run?
  rw [perm.length_eq, perm.all_eq, sameSuit_of_perm perm, layRun?_of_perm false perm,
    layRun?_of_perm true perm, ranks]
  by_cases wild : cards.all Card.isWild
  · rw [eq_of_perm_of_jokers perm wild]
  · simp only [if_neg wild]

end

/-- In whatever order cards are given, they form a combination of one kind or none, and a run of one
order. The cards of a combination, given again, form that combination. -/
theorem ofCards?_of_perm (owner : Nat) {cards others : List Card} (perm : others.Perm cards) :
    (ofCards? owner others).map kind = (ofCards? owner cards).map kind ∧
      (∀ combination low, ofCards? owner cards = some combination →
        combination.kind = .run low → ofCards? owner others = some combination) ∧
      ∀ combination, ofCards? owner cards = some combination →
        ofCards? owner combination.cards = some combination := by
  unfold ofCards?
  rw [setRank?_of_perm perm, run?_of_perm perm]
  cases set : setRank? cards with
  | some rank =>
      refine ⟨rfl, ?_, ?_⟩
      · rintro combination low ⟨⟩ ⟨⟩
      · rintro combination ⟨⟩
        simp only [set]
  | none =>
      refine ⟨rfl, fun combination low formed _ => formed, ?_⟩
      intro combination formed
      obtain ⟨laid, accepted, rfl⟩ := Option.map_eq_some_iff.1 formed
      have again := run?_perm accepted
      simp only [setRank?_of_perm again, set, run?_of_perm again]
      exact formed

/-- A king, an ace and two jokers, named in two orders: the jokers lie below the king, since nothing
lies above the ace. -/
theorem ofCards?_of_perm_of_king_and_ace :
    let king : Card := .standard ⟨13, by decide, by decide⟩ .hearts
    let ace : Card := .standard ⟨1, by decide, by decide⟩ .hearts
    let formed : Combination := ⟨.run 11, [.joker, .joker, king, ace], 4⟩
    [king, .joker, ace, .joker].Perm [ace, king, .joker, .joker] ∧
      ofCards? 4 [ace, king, .joker, .joker] = some formed ∧
      (ofCards? 4 [king, .joker, ace, .joker]).map kind = some (.run 11) ∧
      ofCards? 4 [king, .joker, ace, .joker] = some formed ∧
      ofCards? 4 formed.cards = some formed := by
  intro king ace formed
  have perm : [king, Card.joker, ace, .joker].Perm [ace, king, .joker, .joker] := by decide
  have accepted : ofCards? 4 [ace, king, .joker, .joker] = some formed := by cbv
  obtain ⟨kinds, runs, again⟩ := ofCards?_of_perm 4 perm
  refine ⟨perm, accepted, ?_, runs formed 11 accepted rfl, again formed accepted⟩
  rw [kinds, accepted]
  rfl

end Cardroom.Combination
