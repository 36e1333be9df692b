import Mathlib
import Cardroom.Proofs.Combination.WellFormed

/-!
# Laying down at once what has grown

A run grows at its ends, where each ace finds its place by itself, while a run that is laid down at
once has all its aces low or all of them high. `laidAtOnce_of_attachAll?` says where this makes a
difference: the cards of a combination that has grown can also be laid down at once, unless they are
the whole run from ace to ace.
-/

namespace Cardroom

/-- Whether a card is an ace. A joker that stands for one is not. -/
def Card.isAce (card : Card) : Bool :=
  card.rank?.any Rank.isAce

namespace Combination

theorem placed_ne_nil {acesHigh : Bool} {cards : List Card} (real : ¬ cards.all Card.isWild) :
    placed acesHigh cards ≠ [] := by
  intro empty
  apply real
  rw [List.all_eq_true]
  intro card member
  cases card with
  | joker =>
      rfl
  | standard rank suit =>
      have stands : (place acesHigh rank, Card.standard rank suit) ∈ placed acesHigh cards :=
        mem_placed.2 ⟨rank, suit, rfl, member, rfl⟩
      rw [empty] at stands
      cases stands

/-- Real cards at different places of some window can be laid out. The window need not lie between
the two aces: jokers that find no room above the cards go below them. -/
theorem layRun?_isSome {acesHigh : Bool} {cards : List Card} {low : Nat}
    (real : ¬ cards.all Card.isWild) (most : cards.length ≤ 14)
    (distinct : ((placed acesHigh cards).map Prod.fst).Nodup)
    (within : ∀ real ∈ placed acesHigh cards, low ≤ real.1 ∧ real.1 < low + cards.length) :
    (layRun? acesHigh cards).isSome := by
  have positions := (inOrder_perm acesHigh cards).map Prod.fst
  have ordered : ((inOrder acesHigh cards).map Prod.fst).Nodup :=
    positions.nodup_iff.2 distinct
  have inhabited : (inOrder acesHigh cards).map Prod.fst ≠ [] := by
    intro empty
    rw [empty, List.nil_perm, List.map_eq_nil_iff] at positions
    exact placed_ne_nil real positions
  have first := List.head?_eq_some_head inhabited
  have last := List.getLast?_eq_some_getLast inhabited
  generalize ((inOrder acesHigh cards).map Prod.fst).head inhabited = lowest at first
  generalize ((inOrder acesHigh cards).map Prod.fst).getLast inhabited = highest at last
  have spans : Spans acesHigh cards lowest highest := ⟨first, last⟩
  obtain ⟨one, order, top⟩ := spans.bounds
  have inside : ∀ position ∈ (inOrder acesHigh cards).map Prod.fst,
      low ≤ position ∧ position < low + cards.length := by
    intro position stands
    obtain ⟨real, member, rfl⟩ := List.mem_map.1 (positions.mem_iff.1 stands)
    exact within real member
  have bottom := inside lowest (List.mem_of_head? first)
  have upper := inside highest (List.mem_of_getLast? last)
  have highAceEqual : highAce = 14 := rfl
  have lowAceEqual : lowAce = 1 := rfl
  simp only [layRun?, first, last]
  rw [if_pos ⟨ordered, by omega⟩, if_pos (by omega)]
  rfl

theorem layRun?_eq_none_of_same_place {acesHigh : Bool} {cards : List Card}
    (same : ¬ ((placed acesHigh cards).map Prod.fst).Nodup) :
    layRun? acesHigh cards = none := by
  have repeated : ¬ ((inOrder acesHigh cards).map Prod.fst).Nodup := by
    rwa [((inOrder_perm acesHigh cards).map Prod.fst).nodup_iff]
  unfold layRun?
  dsimp only
  split
  · rw [if_neg fun both => repeated both.1]
  · rfl

/-- With all aces high, or all of them low, every real card stands at its place, counted from
`low`. -/
def StandsFrom (acesHigh : Bool) (low : Nat) (cards : List Card) : Prop :=
  ∀ {index rank suit}, cards[index]? = some (Card.standard rank suit) →
    place acesHigh rank = low + index

theorem StandsFrom.tail {acesHigh : Bool} {low : Nat} {card : Card} {cards : List Card}
    (stands : StandsFrom acesHigh low (card :: cards)) :
    StandsFrom acesHigh (low + 1) cards := by
  intro index rank suit found
  have later : (card :: cards)[index + 1]? = some (Card.standard rank suit) := found
  rw [stands later]
  omega

theorem StandsFrom.within {acesHigh : Bool} {low : Nat} {cards : List Card}
    (stands : StandsFrom acesHigh low cards) :
    ∀ real ∈ placed acesHigh cards, low ≤ real.1 ∧ real.1 < low + cards.length := by
  rintro ⟨position, card⟩ member
  obtain ⟨rank, suit, rfl, present, rfl⟩ := mem_placed.1 member
  obtain ⟨index, found⟩ := List.mem_iff_getElem?.1 present
  obtain ⟨bound, _⟩ := List.getElem?_eq_some_iff.1 found
  rw [stands found]
  omega

theorem StandsFrom.distinct {acesHigh : Bool} {low : Nat} {cards : List Card}
    (stands : StandsFrom acesHigh low cards) :
    ((placed acesHigh cards).map Prod.fst).Nodup := by
  induction cards generalizing low with
  | nil =>
      exact List.nodup_nil
  | cons card cards inductionHypothesis =>
      have rest := inductionHypothesis stands.tail
      cases card with
      | joker =>
          exact rest
      | standard rank suit =>
          have first : (Card.standard rank suit :: cards)[0]? = some (.standard rank suit) := rfl
          have here : place acesHigh rank = low := stands first
          refine List.nodup_cons.2 ⟨?_, rest⟩
          intro again
          obtain ⟨real, member, same⟩ := List.mem_map.1 again
          have later : low + 1 ≤ real.1 := (StandsFrom.within stands.tail real member).1
          exact Nat.ne_of_gt later (same.trans here)

theorem StandsFrom.layRun?_isSome {acesHigh : Bool} {low : Nat} {cards : List Card}
    (stands : StandsFrom acesHigh low cards) (real : ¬ cards.all Card.isWild)
    (most : cards.length ≤ 14) :
    (layRun? acesHigh cards).isSome :=
  Combination.layRun?_isSome real most stands.distinct stands.within

/-- All fourteen places are taken, the first and the last of them by real aces. -/
def FromAceToAce (cards : List Card) : Prop :=
  cards.length = highAce ∧ cards.head?.any Card.isAce ∧ cards.getLast?.any Card.isAce

instance (cards : List Card) : Decidable (FromAceToAce cards) :=
  inferInstanceAs (Decidable (_ ∧ _ ∧ _))

theorem isAce_iff_number {rank : Rank} : rank.isAce ↔ rank.number = 1 := by
  simp [Rank.isAce]

/-- Unless it is the whole run from ace to ace, a run has its aces on one side. -/
theorem IsRun.exists_standsFrom {low : Nat} {cards : List Card} (run : IsRun low cards)
    (notWhole : ¬ FromAceToAce cards) :
    ∃ acesHigh, (acesHigh = true → (cards.filterMap Card.rank?).any Rank.isAce) ∧
      StandsFrom acesHigh low cards := by
  have fewest := run.fewest
  have highest := run.highest
  by_cases high : ∃ index rank suit, cards[index]? = some (Card.standard rank suit) ∧
      rank.isAce ∧ low + index = highAce
  · obtain ⟨top, ace, suit, found, isAce, stands⟩ := high
    obtain ⟨bound, _⟩ := List.getElem?_eq_some_iff.1 found
    have highAceEqual : highAce = 14 := rfl
    refine ⟨true, ?_, ?_⟩
    · intro _
      rw [List.any_eq_true]
      exact ⟨ace, List.mem_filterMap.2 ⟨_, List.mem_of_getElem? found, rfl⟩, isAce⟩
    · intro index rank other there
      by_cases second : rank.isAce
      · -- A second ace would stand at the first place, and the run would go from ace to ace.
        rcases run.places there with below | ⟨_, above⟩
        · have number := isAce_iff_number.1 second
          have one := run.lowest
          have first : index = 0 := by omega
          have last : top = cards.length - 1 := by omega
          subst first last
          refine absurd ⟨by omega, ?_, ?_⟩ notWhole
          · rw [List.head?_eq_getElem?, there]
            exact second
          · rw [List.getLast?_eq_getElem?, found]
            exact isAce
        · rw [place, second, above]
          rfl
      · rcases run.places there with below | ⟨ace, _⟩
        · rw [place, below]
          simp [second]
        · exact absurd ace second
  · refine ⟨false, Bool.noConfusion, ?_⟩
    intro index rank suit found
    rcases run.places found with below | ⟨isAce, above⟩
    · simp [place, below]
    · exact absurd ⟨index, rank, suit, found, isAce, above⟩ high

theorem IsRun.run?_isSome {low : Nat} {cards : List Card} (run : IsRun low cards)
    (notWhole : ¬ FromAceToAce cards) :
    (run? cards).isSome := by
  have size : fewestCards ≤ cards.length ∧ cards.length ≤ highAce := ⟨run.fewest, run.most⟩
  unfold run?
  rw [if_pos size]
  by_cases wild : cards.all Card.isWild
  · rw [if_pos wild]
    rfl
  · rw [if_neg wild, if_pos (sameSuit_iff.2 run.suit)]
    obtain ⟨acesHigh, ace, stands⟩ := run.exists_standsFrom notWhole
    have laid := stands.layRun?_isSome wild run.most
    cases acesHigh with
    | false =>
        rw [Option.orElse_eq_orElse, Option.orElse_eq_or, Option.isSome_or, laid]
        rfl
    | true =>
        rw [Option.orElse_eq_orElse, Option.orElse_eq_or, Option.isSome_or, if_pos (ace rfl), laid,
          Bool.or_true]

theorem Card.exists_rank_of_isAce {card : Card} (ace : card.isAce) :
    ∃ rank suit, card = .standard rank suit ∧ rank.isAce := by
  cases card with
  | joker =>
      cases ace
  | standard rank suit =>
      exact ⟨rank, suit, rfl, ace⟩

/-- Both aces of the whole run are read the same way, and so they would stand at one place. -/
theorem FromAceToAce.layRun?_eq_none {cards : List Card} (whole : FromAceToAce cards)
    (acesHigh : Bool) :
    layRun? acesHigh cards = none := by
  obtain ⟨length, first, last⟩ := whole
  obtain ⟨bottom, atBottom, bottomAce⟩ := (Option.any_eq_true _ _).1 first
  obtain ⟨top, atTop, topAce⟩ := (Option.any_eq_true _ _).1 last
  obtain ⟨others, rfl⟩ := List.head?_eq_some_iff.1 atBottom
  have later : top ∈ others := by
    cases others with
    | nil =>
        cases length
    | cons second others =>
        rw [List.getLast?_cons_cons] at atTop
        exact List.mem_of_getLast? atTop
  obtain ⟨bottomRank, bottomSuit, rfl, low⟩ := Card.exists_rank_of_isAce bottomAce
  obtain ⟨topRank, topSuit, rfl, high⟩ := Card.exists_rank_of_isAce topAce
  have number : bottomRank.number = topRank.number :=
    (isAce_iff_number.1 low).trans (isAce_iff_number.1 high).symm
  have same : place acesHigh bottomRank = place acesHigh topRank := by
    rw [place, place, low, high, number]
  apply layRun?_eq_none_of_same_place
  intro distinct
  have apart : place acesHigh bottomRank ∉ (placed acesHigh others).map Prod.fst :=
    (List.nodup_cons.1 distinct).1
  apply apart
  rw [same]
  exact List.mem_map.2 ⟨_, mem_placed.2 ⟨topRank, topSuit, rfl, later, rfl⟩, rfl⟩

theorem FromAceToAce.run?_eq_none {cards : List Card} (whole : FromAceToAce cards) :
    run? cards = none := by
  have real : ¬ cards.all Card.isWild := by
    intro wild
    obtain ⟨bottom, atBottom, ace⟩ := (Option.any_eq_true _ _).1 whole.2.1
    obtain ⟨rank, suit, rfl, _⟩ := Card.exists_rank_of_isAce ace
    exact not_all_of_mem (List.mem_of_head? atBottom) wild
  unfold run?
  rw [whole.layRun?_eq_none false, whole.layRun?_eq_none true, ite_self, if_neg real]
  split
  · exact ite_self none
  · rfl

theorem IsSet.setRank?_eq {rank : Nat} {cards : List Card} (set : IsSet rank cards) :
    setRank? cards = some rank := by
  have size : fewestCards ≤ cards.length ∧ cards.length ≤ mostSetCards ∧
      (cards.filterMap Card.suit?).Nodup := ⟨set.fewest, set.most, set.suits⟩
  have ranks : ∀ number ∈ cards.filterMap Card.rank?, number.number = rank := by
    intro number member
    obtain ⟨card, present, real⟩ := List.mem_filterMap.1 member
    cases card with
    | joker =>
        cases real
    | standard other suit =>
        cases real
        exact set.ranks present
  obtain ⟨number, suit, present⟩ := set.named
  have inhabited : number ∈ cards.filterMap Card.rank? :=
    List.mem_filterMap.2 ⟨_, present, rfl⟩
  unfold setRank?
  rw [if_pos size]
  cases found : cards.filterMap Card.rank? with
  | nil =>
      rw [found] at inhabited
      cases inhabited
  | cons first others =>
      rw [found] at ranks
      have same : ∀ other ∈ others, other = first := by
        intro other member
        have equal := (ranks other (List.mem_cons_of_mem first member)).trans
          (ranks first List.mem_cons_self).symm
        cases other
        cases first
        cases equal
        rfl
      have all : others.all (· = first) = true :=
        List.all_eq_true.2 fun other member => decide_eq_true (same other member)
      exact (if_pos all).trans (congrArg some (ranks first List.mem_cons_self))

/-- A well-formed combination can be laid down at once, unless it is the whole run from ace to
ace. -/
theorem WellFormed.ofCards?_isSome_iff {combination : Combination}
    (sound : combination.WellFormed) (owner : Nat) :
    (ofCards? owner combination.cards).isSome ↔ ¬ FromAceToAce combination.cards := by
  unfold WellFormed at sound
  cases kind : combination.kind with
  | set rank =>
      simp only [kind] at sound
      refine iff_of_true ?_ ?_
      · rw [ofCards?, sound.setRank?_eq]
        rfl
      · intro whole
        have most := sound.most
        rw [whole.1] at most
        exact absurd most (by decide)
  | run low =>
      simp only [kind] at sound
      constructor
      · intro accepted whole
        have unset : setRank? combination.cards = none := by
          rw [setRank?, if_neg]
          rintro ⟨_, most, _⟩
          rw [whole.1] at most
          exact absurd most (by decide)
        rw [ofCards?, unset, whole.run?_eq_none] at accepted
        cases accepted
      · intro notWhole
        unfold ofCards?
        cases setRank? combination.cards with
        | some rank =>
            rfl
        | none =>
            rw [Option.isSome_map]
            exact sound.run?_isSome notWhole

def attachAll? (attached : List Card) (combination : Combination) : Option Combination :=
  attached.foldlM (fun combination card => attach? card combination) combination

theorem attachAll?_wellFormed {attached : List Card} {combination grown : Combination}
    (sound : combination.WellFormed) (grows : attachAll? attached combination = some grown) :
    grown.WellFormed := by
  induction attached generalizing combination with
  | nil =>
      cases grows
      exact sound
  | cons card attached inductionHypothesis =>
      obtain ⟨extended, accepted, rest⟩ := Option.bind_eq_some_iff.1 grows
      exact inductionHypothesis (attach?_wellFormed sound accepted) rest

/-- Whatever has been attached to a new combination, its cards can be laid down at once, unless they
are the whole run from ace to ace. -/
theorem laidAtOnce_of_attachAll? {owner : Nat} {cards attached : List Card}
    {combination grown : Combination} (formed : ofCards? owner cards = some combination)
    (grows : attachAll? attached combination = some grown) (other : Nat) :
    (ofCards? other grown.cards).isSome ↔ ¬ FromAceToAce grown.cards :=
  (attachAll?_wellFormed (ofCards?_wellFormed formed) grows).ofCards?_isSome_iff other

/-- A king is attached to three jokers, one of which stays above it, and then another joker. -/
theorem laidAtOnce_of_three_jokers :
    let king : Card := .standard ⟨13, by decide, by decide⟩ .spades
    let formed : Combination := ⟨.run 1, [.joker, .joker, .joker], 0⟩
    let grown : Combination := ⟨.run 10, [.joker, .joker, .joker, king, .joker], 0⟩
    ofCards? 0 [.joker, .joker, .joker] = some formed ∧
      attachAll? [king, .joker] formed = some grown ∧
      ((ofCards? 1 grown.cards).isSome ↔ ¬ FromAceToAce grown.cards) := by
  intro king formed grown
  have accepted : ofCards? 0 [.joker, .joker, .joker] = some formed := by cbv
  have grows : attachAll? [king, .joker] formed = some grown := by cbv
  exact ⟨accepted, grows, laidAtOnce_of_attachAll? accepted grows 1⟩

/-- The run from the two to the king takes an ace at each end, and then cannot be laid down at
once. -/
theorem not_laidAtOnce_of_two_aces :
    let hearts : List Card :=
      (List.range' 2 12).filterMap fun number => Card.ofNumber? number .hearts
    let ace : Card := .standard ⟨1, by decide, by decide⟩ .hearts
    ∃ formed grown, ofCards? 0 hearts = some formed ∧ attachAll? [ace, ace] formed = some grown ∧
      grown.cards = ace :: (hearts ++ [ace]) ∧ ofCards? 0 grown.cards = none := by
  intro hearts ace
  have accepted : ofCards? 0 hearts = some ⟨.run 2, hearts, 0⟩ := by cbv
  have grows : attachAll? [ace, ace] ⟨.run 2, hearts, 0⟩ =
      some ⟨.run 1, ace :: (hearts ++ [ace]), 0⟩ := by cbv
  have refused : ofCards? 0 (ace :: (hearts ++ [ace])) = none := by cbv
  exact ⟨_, _, accepted, grows, rfl, refused⟩

end Combination

end Cardroom
