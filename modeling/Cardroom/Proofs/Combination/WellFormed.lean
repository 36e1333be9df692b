import Cardroom.Proofs.Combination.Cards

/-!
# Well-formed combinations

A set holds cards of one rank in different suits, and a run cards of one suit, each at the place of
its rank. `ofCards?_wellFormed` says that every new combination is of one of these forms, and
`attach?_wellFormed` that attaching a card keeps the form.
-/

namespace Cardroom.Combination

/-- A rank belongs at the place of its number, and an ace also above the king. -/
def Belongs (position : Nat) (rank : Rank) : Prop :=
  position = rank.number ∨ rank.isAce ∧ position = highAce

structure IsSet (rank : Nat) (cards : List Card) : Prop where
  fewest : 3 ≤ cards.length
  most : cards.length ≤ 4
  /-- Not all of them are jokers. -/
  named : ∃ number suit, Card.standard number suit ∈ cards
  ranks : ∀ {number suit}, Card.standard number suit ∈ cards → number.number = rank
  suits : (cards.filterMap Card.suit?).Nodup

structure IsRun (low : Nat) (cards : List Card) : Prop where
  fewest : 3 ≤ cards.length
  most : cards.length ≤ 14
  /-- Jokers alone stand as low as they can. -/
  anchored : cards.all Card.isWild → low = 1
  lowest : 1 ≤ low
  highest : low + cards.length - 1 ≤ 14
  suit : ∃ suit, ∀ {rank other}, Card.standard rank other ∈ cards → other = suit
  places : ∀ {index rank suit}, cards[index]? = some (Card.standard rank suit) →
    Belongs (low + index) rank

def WellFormed (combination : Combination) : Prop :=
  match combination.kind with
  | .set rank => IsSet rank combination.cards
  | .run low => IsRun low combination.cards

theorem WellFormed.three_le {combination : Combination} (sound : combination.WellFormed) :
    3 ≤ combination.cards.length := by
  unfold WellFormed at sound
  split at sound
  · exact sound.fewest
  · exact sound.fewest

theorem not_all_of_mem {cards : List Card} {rank : Rank} {suit : Suit}
    (member : Card.standard rank suit ∈ cards) :
    ¬ cards.all Card.isWild := by
  intro wild
  have joker := List.all_eq_true.1 wild _ member
  cases joker

theorem mem_placed {acesHigh : Bool} {cards : List Card} {position : Nat} {card : Card} :
    (position, card) ∈ placed acesHigh cards ↔
      ∃ rank suit, card = .standard rank suit ∧ card ∈ cards ∧
        position = place acesHigh rank := by
  constructor
  · intro member
    obtain ⟨found, present, stands⟩ := List.mem_filterMap.1 member
    obtain ⟨rank, real, same⟩ := Option.map_eq_some_iff.1 stands
    cases found with
    | joker =>
        cases real
    | standard other suit =>
        cases real
        cases same
        exact ⟨_, suit, rfl, present, rfl⟩
  · rintro ⟨rank, suit, rfl, present, rfl⟩
    exact List.mem_filterMap.2 ⟨_, present, rfl⟩

theorem mem_inOrder {acesHigh : Bool} {cards : List Card} {position : Nat} {card : Card} :
    (position, card) ∈ inOrder acesHigh cards ↔
      ∃ rank suit, card = .standard rank suit ∧ card ∈ cards ∧
        position = place acesHigh rank := by
  rw [(inOrder_perm acesHigh cards).mem_iff, mem_placed]

theorem belongs_place (acesHigh : Bool) (rank : Rank) : Belongs (place acesHigh rank) rank := by
  unfold place
  split
  · next high =>
      rw [Bool.and_eq_true] at high
      exact .inr ⟨high.1, rfl⟩
  · exact .inl rfl

theorem Belongs.bounds {position : Nat} {rank : Rank} (belongs : Belongs position rank) :
    1 ≤ position ∧ position ≤ 14 := by
  have one := rank.one_le_number
  have king := rank.number_le_king
  rcases belongs with equal | ⟨_, equal⟩
  · omega
  · rw [equal]
    decide

/-- A real card among those that fill the places stands where it should. -/
theorem mem_of_fillPlaces {reals : List (Nat × Card)} {start count index : Nat} {rank : Rank}
    {suit : Suit} (found : (fillPlaces reals start count)[index]? = some (.standard rank suit)) :
    (start + index, Card.standard rank suit) ∈ reals := by
  fun_induction fillPlaces reals start count generalizing index with
  | case1 =>
      simp at found
  | case2 start count inductionHypothesis =>
      cases index with
      | zero =>
          simp at found
      | succ index =>
          exact absurd (inductionHypothesis (by simpa using found)) List.not_mem_nil
  | case3 real reals count inductionHypothesis =>
      cases index with
      | zero =>
          have first : real.2 = .standard rank suit := by simpa using found
          rw [Nat.add_zero, ← first]
          exact List.mem_cons_self
      | succ index =>
          have later := inductionHypothesis (by simpa using found)
          rw [Nat.add_right_comm] at later
          exact List.mem_cons_of_mem real later
  | case4 start count real reals apart inductionHypothesis =>
      cases index with
      | zero =>
          simp at found
      | succ index =>
          have later := inductionHypothesis (by simpa using found)
          rwa [Nat.add_right_comm] at later

/-! ## New runs -/

theorem mem_suits {cards : List Card} {suit : Suit} :
    suit ∈ cards.filterMap Card.suit? ↔ ∃ rank, Card.standard rank suit ∈ cards := by
  rw [List.mem_filterMap]
  constructor
  · rintro ⟨card, member, same⟩
    cases card with
    | joker =>
        cases same
    | standard rank other =>
        cases same
        exact ⟨rank, member⟩
  · rintro ⟨rank, member⟩
    exact ⟨_, member, rfl⟩

theorem sameSuit_iff {cards : List Card} :
    sameSuit cards ↔ ∃ suit, ∀ {rank other}, Card.standard rank other ∈ cards → other = suit := by
  unfold sameSuit
  cases suits : cards.filterMap Card.suit? with
  | nil =>
      refine ⟨fun _ => ⟨.hearts, ?_⟩, fun _ => rfl⟩
      intro rank other member
      have absent := mem_suits.2 ⟨rank, member⟩
      rw [suits] at absent
      cases absent
  | cons first others =>
      constructor
      · intro same
        refine ⟨first, ?_⟩
        intro rank other member
        have present := mem_suits.2 ⟨rank, member⟩
        rw [suits] at present
        rcases List.mem_cons.1 present with equal | later
        · exact equal
        · exact of_decide_eq_true (List.all_eq_true.1 same other later)
      · rintro ⟨suit, same⟩
        have equal : ∀ other ∈ first :: others, other = suit := by
          intro other member
          rw [← suits] at member
          obtain ⟨rank, present⟩ := mem_suits.1 member
          exact same present
        refine List.all_eq_true.2 fun other member => decide_eq_true ?_
        rw [equal other (List.mem_cons_of_mem first member), equal first List.mem_cons_self]

/-- The lowest and the highest place at which a card stands, of real cards in order. -/
structure Spans (acesHigh : Bool) (cards : List Card) (lowest highest : Nat) : Prop where
  first : ((inOrder acesHigh cards).map Prod.fst).head? = some lowest
  last : ((inOrder acesHigh cards).map Prod.fst).getLast? = some highest

namespace Spans

variable {acesHigh : Bool} {cards : List Card} {lowest highest : Nat}

theorem exists_at (position : Nat)
    (stands : position ∈ (inOrder acesHigh cards).map Prod.fst) :
    ∃ rank suit, Card.standard rank suit ∈ cards ∧ position = place acesHigh rank := by
  obtain ⟨⟨_, card⟩, member, rfl⟩ := List.mem_map.1 stands
  obtain ⟨rank, suit, rfl, present, equal⟩ := mem_inOrder.1 member
  exact ⟨rank, suit, present, equal⟩

theorem within (spans : Spans acesHigh cards lowest highest) :
    ∀ position ∈ (inOrder acesHigh cards).map Prod.fst,
      lowest ≤ position ∧ position ≤ highest := by
  intro position stands
  obtain ⟨real, member, rfl⟩ := List.mem_map.1 stands
  exact inOrder_within spans.first spans.last real member

theorem bounds (spans : Spans acesHigh cards lowest highest) :
    1 ≤ lowest ∧ lowest ≤ highest ∧ highest ≤ 14 := by
  have low := List.mem_of_head? spans.first
  have high := List.mem_of_getLast? spans.last
  obtain ⟨lowRank, _, _, lowEqual⟩ := exists_at lowest low
  obtain ⟨highRank, _, _, highEqual⟩ := exists_at highest high
  have one := (belongs_place acesHigh lowRank).bounds.1
  have most := (belongs_place acesHigh highRank).bounds.2
  have order := spans.within lowest low
  omega

end Spans

theorem layRun?_isRun {acesHigh : Bool} {cards laid : List Card} {low : Nat}
    (fewest : 3 ≤ cards.length) (same : sameSuit cards)
    (accepted : layRun? acesHigh cards = some (low, laid)) :
    IsRun low laid := by
  have perm := layRun?_perm accepted
  unfold layRun? at accepted
  simp only at accepted
  split at accepted
  · next lowest highest first last =>
      have spans : Spans acesHigh cards lowest highest := ⟨first, last⟩
      obtain ⟨one, order, most⟩ := spans.bounds
      simp only [Option.ite_none_right_eq_some, Option.some.injEq, Prod.mk.injEq] at accepted
      obtain ⟨⟨_, span⟩, room, lowEqual, laidEqual⟩ := accepted
      rw [lowEqual] at laidEqual
      have lowAceEqual : lowAce = 1 := rfl
      have highAceEqual : highAce = 14 := rfl
      have length : laid.length = cards.length := perm.length_eq
      refine ⟨by omega, by omega, ?_, by omega, by omega, ?_, ?_⟩
      · intro wild
        obtain ⟨rank, suit, member, _⟩ := Spans.exists_at lowest (List.mem_of_head? first)
        exact absurd wild (not_all_of_mem (perm.mem_iff.2 member))
      · obtain ⟨suit, equal⟩ := sameSuit_iff.1 same
        exact ⟨suit, fun member => equal (perm.mem_iff.1 member)⟩
      · intro index rank suit found
        rw [← laidEqual] at found
        obtain ⟨_, _, equal, _, stands⟩ := mem_inOrder.1 (mem_of_fillPlaces found)
        cases equal
        rw [stands]
        exact belongs_place acesHigh rank
  · cases accepted

theorem run?_isRun {cards laid : List Card} {low : Nat}
    (accepted : run? cards = some (low, laid)) :
    IsRun low laid := by
  unfold run? at accepted
  split at accepted
  · next size =>
      obtain ⟨fewest, most⟩ := size
      have highAceEqual : highAce = 14 := rfl
      split at accepted
      · next wild =>
          cases accepted
          have absent : ∀ {rank suit}, Card.standard rank suit ∉ cards :=
            fun member => not_all_of_mem member wild
          exact ⟨fewest, most, fun _ => rfl, Nat.le_refl 1, by rw [lowAce]; omega,
            ⟨.hearts, fun member => absurd member absent⟩,
            fun found => absurd (List.mem_of_getElem? found) absent⟩
      · split at accepted
        · next same =>
            rw [Option.orElse_eq_orElse, Option.orElse_eq_or, Option.or_eq_some_iff] at accepted
            rcases accepted with acesLow | ⟨_, acesHigh⟩
            · exact layRun?_isRun fewest same acesLow
            · split at acesHigh
              · exact layRun?_isRun fewest same acesHigh
              · cases acesHigh
        · cases accepted
  · cases accepted

theorem setRank?_isSet {cards : List Card} {rank : Nat} (accepted : setRank? cards = some rank) :
    IsSet rank cards := by
  unfold setRank? at accepted
  split at accepted
  · next size =>
      obtain ⟨fewest, most, suits⟩ := size
      have mem_ranks : ∀ {number suit}, Card.standard number suit ∈ cards →
          number ∈ cards.filterMap Card.rank? :=
        fun member => List.mem_filterMap.2 ⟨_, member, rfl⟩
      split at accepted
      · cases accepted
      · next first others ranks =>
          rw [Option.ite_none_right_eq_some, Option.some.injEq] at accepted
          obtain ⟨same, equal⟩ := accepted
          refine ⟨fewest, most, ?_, ?_, suits⟩
          · have present : first ∈ cards.filterMap Card.rank? := by
              rw [ranks]
              exact List.mem_cons_self
            obtain ⟨card, member, real⟩ := List.mem_filterMap.1 present
            cases card with
            | joker =>
                cases real
            | standard number suit =>
                exact ⟨number, suit, member⟩
          · intro number suit member
            have present := mem_ranks member
            rw [ranks] at present
            rcases List.mem_cons.1 present with rfl | later
            · exact equal
            · rw [of_decide_eq_true (List.all_eq_true.1 same number later)]
              exact equal
  · cases accepted

/-- A new combination is a set or a run. -/
theorem ofCards?_wellFormed {owner : Nat} {cards : List Card} {combination : Combination}
    (formed : ofCards? owner cards = some combination) :
    combination.WellFormed := by
  unfold ofCards? at formed
  split at formed
  · next rank accepted =>
      cases formed
      exact setRank?_isSet accepted
  · obtain ⟨laid, accepted, rfl⟩ := Option.map_eq_some_iff.1 formed
    exact run?_isRun accepted

/-! ## Attaching a card -/

theorem attachToSet?_isSet {rank : Nat} {card : Card} {combination extended : Combination}
    (set : IsSet rank combination.cards)
    (accepted : attachToSet? rank card combination = some extended) :
    extended.kind = combination.kind ∧ IsSet rank extended.cards := by
  unfold attachToSet? at accepted
  simp only [Option.ite_none_right_eq_some, Option.some.injEq] at accepted
  obtain ⟨⟨space, fits⟩, rfl⟩ := accepted
  have fewest := set.fewest
  have fourEqual : mostSetCards = 4 := rfl
  refine ⟨rfl, ?_, ?_, ?_, ?_, ?_⟩
  · rw [List.length_append]
    omega
  · rw [List.length_append, List.length_singleton]
    omega
  · obtain ⟨number, suit, member⟩ := set.named
    exact ⟨number, suit, List.mem_append_left _ member⟩
  · intro number suit member
    rcases List.mem_append.1 member with old | new
    · exact set.ranks old
    · cases List.mem_singleton.1 new
      rw [Bool.and_eq_true, beq_iff_eq] at fits
      exact fits.1
  · rw [List.filterMap_append, List.nodup_append]
    refine ⟨set.suits, ?_, ?_⟩
    · cases card with
      | joker =>
          exact List.nodup_nil
      | standard number added =>
          exact List.pairwise_singleton _ added
    · intro suit old other new
      cases card with
      | joker =>
          cases new
      | standard number added =>
          cases List.mem_singleton.1 new
          rintro rfl
          simp [old] at fits

section

variable {low : Nat} {cards : List Card} {card : Card}

/-- A run grows at its upper end by a joker, or by the card that belongs there. -/
theorem IsRun.concat (run : IsRun low cards) (real : ¬ cards.all Card.isWild)
    (room : low + cards.length ≤ 14)
    (fits : ∀ {rank suit}, card = .standard rank suit →
      Belongs (low + cards.length) rank ∧ ∃ number, Card.standard number suit ∈ cards) :
    IsRun low (cards ++ [card]) where
  fewest := by
    rw [List.length_append]
    exact Nat.le_add_right_of_le run.fewest
  most := by
    have lowest := run.lowest
    rw [List.length_append, List.length_singleton]
    omega
  anchored := by
    intro wild
    rw [List.all_append, Bool.and_eq_true] at wild
    exact absurd wild.1 real
  lowest := run.lowest
  highest := by
    rw [List.length_append, List.length_singleton]
    omega
  suit := by
    obtain ⟨suit, same⟩ := run.suit
    refine ⟨suit, ?_⟩
    intro rank other member
    rcases List.mem_append.1 member with old | new
    · exact same old
    · obtain ⟨_, number, present⟩ := fits (List.mem_singleton.1 new).symm
      exact same present
  places := by
    intro index rank suit found
    rcases Nat.lt_or_ge index cards.length with old | new
    · rw [List.getElem?_append_left old] at found
      exact run.places found
    · rw [List.getElem?_append_right new, List.getElem?_singleton] at found
      split at found
      · next last =>
          cases found
          have equal : index = cards.length := by omega
          rw [equal]
          exact (fits rfl).1
      · cases found

/-- A run grows at its lower end by a joker, or by the card that belongs there. -/
theorem IsRun.cons (run : IsRun low cards) (real : ¬ cards.all Card.isWild) (room : 1 < low)
    (fits : ∀ {rank suit}, card = .standard rank suit →
      Belongs (low - 1) rank ∧ ∃ number, Card.standard number suit ∈ cards) :
    IsRun (low - 1) (card :: cards) where
  fewest := by
    rw [List.length_cons]
    exact Nat.le_add_right_of_le run.fewest
  most := by
    have highest := run.highest
    rw [List.length_cons]
    omega
  anchored := by
    intro wild
    rw [List.all_cons, Bool.and_eq_true] at wild
    exact absurd wild.2 real
  lowest := by omega
  highest := by
    have highest := run.highest
    rw [List.length_cons]
    omega
  suit := by
    obtain ⟨suit, same⟩ := run.suit
    refine ⟨suit, ?_⟩
    intro rank other member
    rcases List.mem_cons.1 member with new | old
    · obtain ⟨_, number, present⟩ := fits new.symm
      exact same present
    · exact same old
  places := by
    intro index rank suit found
    cases index with
    | zero =>
        cases found
        exact (fits rfl).1
    | succ index =>
        have belongs := run.places (by simpa using found)
        have equal : low - 1 + (index + 1) = low + index := by omega
        rwa [equal]

/-- The suit that is found first in a run is that of a real card of it. -/
theorem mem_of_findSome? {suit : Suit} (found : cards.findSome? Card.suit? = some suit) :
    ∃ rank, Card.standard rank suit ∈ cards := by
  obtain ⟨card, member, same⟩ := List.exists_of_findSome?_eq_some found
  cases card with
  | joker =>
      cases same
  | standard rank other =>
      cases same
      exact ⟨rank, member⟩

/-- There is room at the given end of a run from place `low` to place `high`, and a real card belongs
there. -/
def Meets (low high : Nat) (card : Card) : End → Prop
  | .top => high < 14 ∧ ∀ {rank suit}, card = .standard rank suit → Belongs (high + 1) rank
  | .bottom => 1 < low ∧ ∀ {rank suit}, card = .standard rank suit → Belongs (low - 1) rank

theorem meets_of_fittingEnd? {high : Nat} {suit : Option Suit} {fitting : End}
    (fits : fittingEnd? low high suit card = some fitting) :
    Meets low high card fitting := by
  have highAceEqual : highAce = 14 := rfl
  have lowAceEqual : lowAce = 1 := rfl
  cases card with
  | joker =>
      simp only [fittingEnd?] at fits
      split at fits
      · next room =>
          cases fits
          exact ⟨room, Card.noConfusion⟩
      · split at fits
        · next room =>
            cases fits
            exact ⟨room.2, Card.noConfusion⟩
        · cases fits
  | standard rank cardSuit =>
      have one := rank.one_le_number
      have king := rank.number_le_king
      have ace : rank.isAce = true ↔ rank.number = 1 := by
        simp [Rank.isAce]
      simp only [fittingEnd?, Option.ite_none_left_eq_some] at fits
      obtain ⟨_, fits⟩ := fits
      split at fits
      · next isAce =>
          have number := ace.1 isAce
          split at fits
          · next below =>
              cases fits
              refine ⟨by omega, ?_⟩
              intro rank suit equal
              cases equal
              exact .inr ⟨isAce, below⟩
          · split at fits
            · next above =>
                cases fits
                refine ⟨by omega, ?_⟩
                intro rank suit equal
                cases equal
                exact .inl (by omega)
            · cases fits
      · split at fits
        · next above =>
            cases fits
            refine ⟨by omega, ?_⟩
            intro rank suit equal
            cases equal
            exact .inl (by omega)
        · split at fits
          · next below =>
              cases fits
              refine ⟨by omega, ?_⟩
              intro rank suit equal
              cases equal
              exact .inl below.symm
          · cases fits

theorem suit_of_fittingEnd? {high : Nat} {suit : Option Suit} {fitting : End} {rank : Rank}
    {cardSuit : Suit} (fits : fittingEnd? low high suit (.standard rank cardSuit) = some fitting) :
    suit = some cardSuit := by
  simp only [fittingEnd?, Option.ite_none_left_eq_some] at fits
  exact Decidable.not_not.1 fits.1

end

theorem attachToRun?_isRun {low : Nat} {card : Card} {combination extended : Combination}
    (run : IsRun low combination.cards) (kind : combination.kind = .run low)
    (accepted : attachToRun? low card combination = some extended) :
    ∃ low, extended.kind = .run low ∧ IsRun low extended.cards := by
  unfold attachToRun? at accepted
  simp only at accepted
  split at accepted
  · -- A run of jokers alone is laid out anew.
    obtain ⟨laid, layout, rfl⟩ := Option.map_eq_some_iff.1 accepted
    exact ⟨laid.1, rfl, run?_isRun layout⟩
  · next real =>
      have fewest := run.fewest
      split at accepted
      · next fits =>
          cases accepted
          obtain ⟨room, belongs⟩ := meets_of_fittingEnd? fits
          refine ⟨low - 1, rfl, run.cons real room ?_⟩
          rintro rank suit rfl
          exact ⟨belongs rfl, mem_of_findSome? (suit_of_fittingEnd? fits)⟩
      · next fits =>
          cases accepted
          obtain ⟨room, belongs⟩ := meets_of_fittingEnd? fits
          have next : low + combination.cards.length - 1 + 1 =
              low + combination.cards.length := by omega
          rw [next] at belongs
          refine ⟨low, kind, run.concat real (by omega) ?_⟩
          rintro rank suit rfl
          exact ⟨belongs rfl, mem_of_findSome? (suit_of_fittingEnd? fits)⟩
      · cases accepted

/-- A card that is attached leaves a set a set of the same rank, and a run a run. -/
theorem attach?_wellFormed {card : Card} {combination extended : Combination}
    (sound : combination.WellFormed) (accepted : attach? card combination = some extended) :
    extended.WellFormed := by
  unfold attach? at accepted
  split at accepted
  · cases kind : combination.kind with
    | set rank =>
        simp only [WellFormed, kind] at sound accepted
        obtain ⟨same, set⟩ := attachToSet?_isSet sound accepted
        rw [WellFormed, same, kind]
        exact set
    | run low =>
        simp only [WellFormed, kind] at sound accepted
        obtain ⟨lowest, now, run⟩ := attachToRun?_isRun sound kind accepted
        rw [WellFormed, now]
        exact run
  · cases accepted

end Cardroom.Combination
