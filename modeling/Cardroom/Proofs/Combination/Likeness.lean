import Cardroom.Proofs.Combination.Fit

/-!
# Combinations of the same cards

A set and a run can hold the same cards: an eight and three jokers are a set of eights, and they are
also the run that three jokers become when the eight is attached to them. `kind_eq_of_cards_eq` says
that this takes three jokers in each of the two, since a player who lays down one real card with two
jokers lays down a set. Combinations of the same kind that hold the same cards are the same set, or
the same run from the same place.
-/

namespace Cardroom

/-- Each card of a list is a joker or has a rank and a suit. -/
theorem Card.length_filterMap_add_count {α : Type} (part : Card → Option α)
    (real : ∀ card, part card = none ↔ card = .joker) (cards : List Card) :
    (cards.filterMap part).length + cards.count .joker = cards.length := by
  induction cards with
  | nil =>
      rfl
  | cons card cards inductionHypothesis =>
      cases found : part card with
      | none =>
          obtain rfl := (real card).1 found
          rw [List.filterMap_cons_none found, List.count_cons_self, List.length_cons]
          omega
      | some item =>
          have other : card ≠ .joker := by
            intro joker
            rw [(real card).2 joker] at found
            cases found
          rw [List.filterMap_cons_some found, List.count_cons_of_ne other, List.length_cons,
            List.length_cons]
          omega

theorem Card.rank?_eq_none_iff {card : Card} : card.rank? = none ↔ card = .joker := by
  cases card <;> simp [rank?]

theorem Card.suit?_eq_none_iff {card : Card} : card.suit? = none ↔ card = .joker := by
  cases card <;> simp [suit?]

namespace Combination

/-- A run with one real card at most has three jokers at least. -/
def IsPadded (combination : Combination) : Prop :=
  ∀ low, combination.kind = .run low →
    combination.cards.length ≤ combination.cards.count .joker + 1 →
      3 ≤ combination.cards.count .joker

/-- A real card and two jokers are a set. -/
theorem setRank?_isSome_of_two_jokers {cards : List Card} (three : cards.length = 3)
    (jokers : cards.count .joker = 2) :
    (setRank? cards).isSome := by
  have ranks := Card.length_filterMap_add_count Card.rank? (fun _ => Card.rank?_eq_none_iff) cards
  have suits := Card.length_filterMap_add_count Card.suit? (fun _ => Card.suit?_eq_none_iff) cards
  have oneRank : (cards.filterMap Card.rank?).length = 1 := by omega
  have oneSuit : (cards.filterMap Card.suit?).length = 1 := by omega
  obtain ⟨rank, named⟩ := List.length_eq_one_iff.1 oneRank
  obtain ⟨suit, suited⟩ := List.length_eq_one_iff.1 oneSuit
  have size : fewestCards ≤ cards.length ∧ cards.length ≤ mostSetCards := by
    rw [three]
    decide
  rw [setRank?, if_pos ⟨size.1, size.2, by simp [suited]⟩, named]
  rfl

theorem ofCards?_isPadded {owner : Nat} {cards : List Card} {combination : Combination}
    (formed : ofCards? owner cards = some combination) :
    combination.IsPadded := by
  intro low kind sparse
  have perm := ofCards?_perm formed
  have fewest := (ofCards?_wellFormed formed).three_le
  have jokers := perm.count_eq .joker
  have length := perm.length_eq
  have notSet : ¬ (setRank? cards).isSome := by
    intro set
    obtain ⟨rank, found⟩ := Option.isSome_iff_exists.1 set
    rw [ofCards?, found] at formed
    cases formed
    cases kind
  by_contra few
  exact notSet (setRank?_isSome_of_two_jokers (by omega) (by omega))

/-- Only a run grows to a run. -/
theorem exists_kind_of_attach? {card : Card} {combination extended : Combination} {low : Nat}
    (sound : combination.WellFormed) (accepted : attach? card combination = some extended)
    (run : extended.kind = .run low) :
    ∃ lowest, combination.kind = .run lowest := by
  cases kind : combination.kind with
  | run lowest =>
      exact ⟨lowest, rfl⟩
  | set rank =>
      simp only [WellFormed, kind] at sound
      simp only [attach?, kind, Option.ite_none_right_eq_some] at accepted
      have same := (attachToSet?_isSet sound accepted.2).1
      rw [run, kind] at same
      cases same

theorem attach?_isPadded {card : Card} {combination extended : Combination}
    (sound : combination.WellFormed) (padded : combination.IsPadded)
    (accepted : attach? card combination = some extended) :
    extended.IsPadded := by
  intro low kind sparse
  obtain ⟨lowest, run⟩ := exists_kind_of_attach? sound accepted kind
  have grown := attach?_perm accepted
  have fewest := sound.three_le
  rw [grown.length_eq, grown.count_eq, List.length_cons] at sparse
  rw [grown.count_eq]
  cases card with
  | standard rank suit =>
      -- All the other cards are jokers, and there are three of them at least.
      rw [List.count_cons_of_ne Card.noConfusion] at sparse ⊢
      omega
  | joker =>
      rw [List.count_cons_self] at sparse ⊢
      have jokers := padded lowest run (by omega)
      omega

section

variable {cards : List Card}

/-- Two sets of the same cards are sets of the same rank. -/
theorem IsSet.rank_eq {rank other : Nat} (set : IsSet rank cards) (second : IsSet other cards) :
    rank = other := by
  obtain ⟨number, suit, member⟩ := set.named
  exact (set.ranks member).symm.trans (second.ranks member)

/-- Two runs of the same cards start at the same place. An ace can stand at two places, but the two
are too far apart for it to be one card of both runs. -/
theorem IsRun.low_eq {low other : Nat} (run : IsRun low cards) (second : IsRun other cards) :
    low = other := by
  by_cases wild : cards.all Card.isWild
  · exact (run.anchored wild).trans (second.anchored wild).symm
  · obtain ⟨suit, -, ⟨rank, member⟩, -⟩ := run.exists_suit wild
    obtain ⟨index, found⟩ := List.mem_iff_getElem?.1 member
    obtain ⟨inside, -⟩ := List.getElem?_eq_some_iff.1 found
    have fewest := run.fewest
    have highest := run.highest
    have otherHighest := second.highest
    have highAceEqual : highAce = 14 := rfl
    rcases run.places found with here | ⟨ace, here⟩
    · rcases second.places found with there | ⟨ace, there⟩
      · omega
      · have one := isAce_iff_number.1 ace
        omega
    · rcases second.places found with there | ⟨-, there⟩
      · have one := isAce_iff_number.1 ace
        omega
      · omega

/-- A set has a real card of each suit at most, and a run real cards of one suit only. -/
theorem IsSet.length_le_of_isRun {rank low : Nat} (set : IsSet rank cards)
    (run : IsRun low cards) :
    cards.length ≤ cards.count .joker + 1 := by
  have suits := Card.length_filterMap_add_count Card.suit? (fun _ => Card.suit?_eq_none_iff) cards
  obtain ⟨suit, same⟩ := run.suit
  have one : (cards.filterMap Card.suit?).length ≤ 1 := by
    have inside : cards.filterMap Card.suit? ⊆ [suit] := by
      intro other member
      obtain ⟨number, present⟩ := mem_suits.1 member
      exact List.mem_singleton.2 (same present)
    exact (set.suits.subperm inside).length_le
  omega

end

/-- Fewer than three jokers do not leave open of what kind a combination is. -/
theorem kind_eq_of_cards_eq {combination other : Combination} (sound : combination.WellFormed)
    (otherSound : other.WellFormed) (padded : combination.IsPadded) (otherPadded : other.IsPadded)
    (same : combination.cards = other.cards) (few : combination.cards.count .joker < 3) :
    combination.kind = other.kind := by
  unfold WellFormed at sound otherSound
  rw [← same] at otherSound
  cases kind : combination.kind with
  | set rank =>
      cases otherKind : other.kind with
      | set otherRank =>
          simp only [kind, otherKind] at sound otherSound
          rw [sound.rank_eq otherSound]
      | run low =>
          simp only [kind, otherKind] at sound otherSound
          have sparse := sound.length_le_of_isRun otherSound
          have jokers := otherPadded low otherKind (same ▸ sparse)
          rw [← same] at jokers
          omega
  | run low =>
      cases otherKind : other.kind with
      | set rank =>
          simp only [kind, otherKind] at sound otherSound
          have jokers := padded low kind (otherSound.length_le_of_isRun sound)
          omega
      | run otherLow =>
          simp only [kind, otherKind] at sound otherSound
          rw [sound.low_eq otherSound]

/-- With three jokers each, a set and a run can hold the same cards in the same order. -/
example :
    let eight : Card := .standard ⟨8, by decide, by decide⟩ .spades
    let cards : List Card := [eight, .joker, .joker, .joker]
    ofCards? 4 cards = some ⟨.set 8, cards, 4⟩ ∧
      attach? eight ⟨.run 1, [.joker, .joker, .joker], 9⟩ = some ⟨.run 8, cards, 9⟩ := by
  cbv

/-- Who owns a combination makes no difference to the cards that it takes. -/
theorem attach?_withOwner (card : Card) (combination : Combination) (owner : Nat) :
    attach? card { combination with owner } =
      (attach? card combination).map fun extended => { extended with owner } := by
  obtain ⟨kind, cards, laidBy⟩ := combination
  unfold attach?
  dsimp only
  split
  · cases kind with
    | set rank =>
        simp only [attachToSet?]
        rw [apply_ite (Option.map _)]
        rfl
    | run low =>
        simp only [attachToRun?]
        split
        · rw [Option.map_map]
          rfl
        · split <;> rfl
  · rfl

end Combination

end Cardroom
