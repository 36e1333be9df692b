import Cardroom.Proofs.Combination.Legal

/-!
# Cards that fit

A card fits a set that has no card of its suit yet, and a run at one of whose ends it can stand.
`attach?_of_grown` says that a combination takes exactly the cards that fit, however many it has
taken before, and where it takes them: a run of which a place is known grows at its ends only.
-/

namespace Cardroom.Combination

/-- What can stand at a place of a run: a joker, or the card of the run's suit that belongs
there. -/
def MayStand (suit : Suit) (position : Nat) : Card → Prop
  | .joker => True
  | .standard rank cardSuit => cardSuit = suit ∧ Belongs position rank

inductive Fits (card : Card) (combination : Combination) : Prop
  | set {rank : Nat} :
      combination.kind = .set rank → combination.cards.length < 4 →
      (∀ {number suit}, card = .standard number suit →
        number.number = rank ∧ ∀ other, Card.standard other suit ∉ combination.cards) →
      Fits card combination
  | bottom {low : Nat} {rank : Rank} {suit : Suit} :
      combination.kind = .run low → Card.standard rank suit ∈ combination.cards →
      1 ≤ low - 1 → MayStand suit (low - 1) card →
      Fits card combination
  | top {low : Nat} {rank : Rank} {suit : Suit} :
      combination.kind = .run low → Card.standard rank suit ∈ combination.cards →
      low + combination.cards.length ≤ 14 → MayStand suit (low + combination.cards.length) card →
      Fits card combination
  | jokers {low : Nat} :
      combination.kind = .run low → combination.cards.all Card.isWild →
      combination.cards.length ≤ 13 →
      Fits card combination

/-- Where a combination takes a card. A joker goes below a run only if there is no place above it;
a run of jokers alone finds its places with the card. -/
inductive Extends (card : Card) (combination : Combination) : Combination → Prop
  | front {low : Nat} :
      combination.kind = .run low → ¬ combination.cards.all Card.isWild →
      (card = .joker → low + combination.cards.length - 1 = 14) →
      Extends card combination
        { combination with kind := .run (low - 1), cards := card :: combination.cards }
  | back :
      ¬ combination.cards.all Card.isWild →
      Extends card combination { combination with cards := combination.cards ++ [card] }
  | anew {low : Nat} {laid : List Card} :
      combination.cards.all Card.isWild → laid.Perm (card :: combination.cards) → IsRun low laid →
      Extends card combination { combination with kind := .run low, cards := laid }

section

variable {card : Card} {combination : Combination}

theorem attachToSet?_isSome_iff {rank : Nat} :
    (attachToSet? rank card combination).isSome ↔
      combination.cards.length < 4 ∧ ∀ {number suit}, card = .standard number suit →
        number.number = rank ∧ ∀ other, Card.standard other suit ∉ combination.cards := by
  have fourEqual : mostSetCards = 4 := rfl
  unfold attachToSet?
  rw [Option.isSome_ite, fourEqual]
  refine and_congr_right fun _ => ?_
  cases card with
  | joker =>
      exact iff_of_true rfl Card.noConfusion
  | standard number suit =>
      simp only [Bool.and_eq_true, beq_iff_eq, Bool.not_eq_true', List.contains_eq_mem,
        decide_eq_false_iff_not, mem_suits, not_exists]
      constructor
      · rintro free _ _ ⟨⟩
        exact free
      · intro free
        exact free rfl

theorem attachToSet?_extends {rank : Nat} {extended : Combination}
    (set : IsSet rank combination.cards)
    (accepted : attachToSet? rank card combination = some extended) :
    Extends card combination extended := by
  obtain ⟨number, suit, member⟩ := set.named
  unfold attachToSet? at accepted
  simp only [Option.ite_none_right_eq_some, Option.some.injEq] at accepted
  obtain ⟨_, rfl⟩ := accepted
  exact .back (not_all_of_mem member)

theorem fittingEnd?_isSome_iff {low high : Nat} {suit : Suit} (lowest : 1 ≤ low)
    (order : low ≤ high) (highest : high ≤ 14) :
    (fittingEnd? low high (some suit) card).isSome ↔
      1 < low ∧ MayStand suit (low - 1) card ∨ high < 14 ∧ MayStand suit (high + 1) card := by
  have highAceEqual : highAce = 14 := rfl
  have lowAceEqual : lowAce = 1 := rfl
  cases card with
  | joker =>
      simp only [fittingEnd?, MayStand, and_true]
      split
      · next room =>
          exact iff_of_true rfl (.inr room)
      · rw [Option.isSome_ite]
        omega
  | standard rank cardSuit =>
      have one := rank.one_le_number
      have king := rank.number_le_king
      simp only [fittingEnd?, MayStand, Belongs, isAce_iff_number, ne_eq, Option.some.injEq]
      by_cases same : suit = cardSuit
      · rw [if_neg (not_not.2 same)]
        simp only [same, true_and]
        -- An ace can stand at the two outermost places, any other card beside a card of its rank.
        split
        · split
          · exact iff_of_true rfl (by omega)
          · split
            · exact iff_of_true rfl (by omega)
            · exact iff_of_false Bool.noConfusion (by omega)
        · split
          · exact iff_of_true rfl (by omega)
          · split
            · exact iff_of_true rfl (by omega)
            · exact iff_of_false Bool.noConfusion (by omega)
      · rw [if_pos same]
        refine iff_of_false Bool.noConfusion ?_
        rintro (⟨_, suits, _⟩ | ⟨_, suits, _⟩)
        · exact same suits.symm
        · exact same suits.symm

/-- A joker is taken below a run only if there is no place above it. -/
theorem high_of_fittingEnd? {low high : Nat} {suit : Option Suit}
    (fits : fittingEnd? low high suit .joker = some .bottom) :
    high = 14 := by
  simp only [fittingEnd?] at fits
  split at fits
  · cases fits
  · split at fits
    · next closed =>
        exact closed.1
    · cases fits

/-- A run that has a real card has a suit, which is that of each of its real cards. -/
theorem IsRun.exists_suit {low : Nat} {cards : List Card} (run : IsRun low cards)
    (real : ¬ cards.all Card.isWild) :
    ∃ suit, cards.findSome? Card.suit? = some suit ∧ (∃ rank, Card.standard rank suit ∈ cards) ∧
      ∀ {rank other}, Card.standard rank other ∈ cards → other = suit := by
  cases found : cards.findSome? Card.suit? with
  | none =>
      refine absurd (List.all_eq_true.2 fun card member => ?_) real
      have absent := List.findSome?_eq_none_iff.1 found card member
      cases card with
      | joker =>
          rfl
      | standard rank suit =>
          cases absent
  | some suit =>
      obtain ⟨rank, member⟩ := mem_of_findSome? found
      obtain ⟨shared, same⟩ := run.suit
      refine ⟨suit, rfl, ⟨rank, member⟩, ?_⟩
      intro _ _ other
      rw [same other, same member]

theorem attachToRun?_isSome_iff {low : Nat} (run : IsRun low combination.cards)
    (kind : combination.kind = .run low) (real : ¬ combination.cards.all Card.isWild) :
    (attachToRun? low card combination).isSome ↔ Fits card combination := by
  obtain ⟨suit, first, ⟨rank, member⟩, same⟩ := run.exists_suit real
  have fewest := run.fewest
  have lowest := run.lowest
  have next : low + combination.cards.length - 1 + 1 = low + combination.cards.length := by omega
  have taken : (attachToRun? low card combination).isSome ↔
      (fittingEnd? low (low + combination.cards.length - 1) (some suit) card).isSome := by
    simp only [attachToRun?, if_neg real, first]
    split
    · next fits => rw [fits]; exact iff_of_true rfl rfl
    · next fits => rw [fits]; exact iff_of_true rfl rfl
    · next fits => rw [fits]; exact Iff.rfl
  rw [taken, fittingEnd?_isSome_iff lowest (by omega) run.highest, next]
  constructor
  · rintro (⟨room, stands⟩ | ⟨room, stands⟩)
    · exact .bottom kind member (by omega) stands
    · exact .top kind member (by omega) stands
  · intro fits
    cases fits with
    | set isSet _ _ =>
        rw [kind] at isSet
        cases isSet
    | bottom isRun other room stands =>
        cases kind.symm.trans isRun
        rw [same other] at stands
        exact .inl ⟨by omega, stands⟩
    | top isRun other room stands =>
        cases kind.symm.trans isRun
        rw [same other] at stands
        exact .inr ⟨by omega, stands⟩
    | jokers _ wild _ =>
        exact absurd wild real

theorem attachToRun?_extends {low : Nat} {extended : Combination}
    (kind : combination.kind = .run low)
    (accepted : attachToRun? low card combination = some extended) :
    Extends card combination extended := by
  unfold attachToRun? at accepted
  simp only at accepted
  split at accepted
  · next wild =>
      obtain ⟨⟨lowest, laid⟩, layout, rfl⟩ := Option.map_eq_some_iff.1 accepted
      have perm := run?_perm layout
      exact .anew wild (perm.trans (List.perm_append_singleton card _)) (run?_isRun layout)
  · next real =>
      split at accepted
      · next fits =>
          cases accepted
          refine .front kind real ?_
          rintro rfl
          exact high_of_fittingEnd? fits
      · cases accepted
        exact .back real
      · cases accepted

theorem places_of_jokers {cards : List Card} (wild : cards.all Card.isWild) (acesHigh : Bool) :
    places acesHigh cards = [] := by
  rw [places, List.map_eq_nil_iff, List.filterMap_eq_nil_iff]
  intro card member
  cases card with
  | joker =>
      rfl
  | standard rank suit =>
      exact absurd wild (not_all_of_mem member)

/-- Some jokers and one more card are a run, as long as there are places for them. -/
theorem formsRun_concat {cards : List Card} (wild : cards.all Card.isWild)
    (fewest : 3 ≤ cards.length) (most : cards.length ≤ 13) (card : Card) :
    FormsRun (cards ++ [card]) := by
  have size : (cards ++ [card]).length = cards.length + 1 := List.length_append
  refine ⟨by omega, by omega, ?_⟩
  cases card with
  | joker =>
      exact .inl (by rw [List.all_append, wild]; rfl)
  | standard rank suit =>
      have one := rank.one_le_number
      have king := rank.number_le_king
      have stands : places false (cards ++ [.standard rank suit]) = [rank.number] := by
        have last : places false [Card.standard rank suit] = [rank.number] := by
          simp [places, place, Card.rank?]
        rw [places, List.filterMap_append, List.map_append, ← places, ← places,
          places_of_jokers wild, last, List.nil_append]
      refine .inr ⟨⟨suit, ?_⟩, false, max 1 (rank.number - cards.length), ?_⟩
      · intro _ other member
        rcases List.mem_append.1 member with joker | added
        · exact absurd wild (not_all_of_mem joker)
        · cases List.mem_singleton.1 added
          rfl
      · -- The window ends with the card, or starts at the lowest place if it must not go below.
        refine ⟨by omega, by omega, ?_, ?_⟩
        · rw [stands]
          exact List.nodup_singleton _
        · rw [stands]
          intro position listed
          obtain rfl := List.mem_singleton.1 listed
          omega

theorem attachToRun?_isSome_iff_of_jokers {low : Nat} (run : IsRun low combination.cards)
    (kind : combination.kind = .run low) (wild : combination.cards.all Card.isWild) :
    (attachToRun? low card combination).isSome ↔ Fits card combination := by
  simp only [attachToRun?, if_pos wild, Option.isSome_map]
  constructor
  · intro laid
    obtain ⟨⟨lowest, laid⟩, accepted⟩ := Option.isSome_iff_exists.1 laid
    have most := (FormsRun.of_run? accepted).most
    rw [List.length_append, List.length_singleton] at most
    exact .jokers kind wild (by omega)
  · intro fits
    cases fits with
    | set isSet _ _ =>
        rw [kind] at isSet
        cases isSet
    | bottom _ member _ _ =>
        exact absurd wild (not_all_of_mem member)
    | top _ member _ _ =>
        exact absurd wild (not_all_of_mem member)
    | jokers _ _ most =>
        exact (formsRun_concat wild run.fewest most card).run?_isSome

/-- A combination that is what its kind says takes exactly the cards that fit. -/
theorem WellFormed.attach?_isSome_iff (sound : combination.WellFormed) (card : Card) :
    (attach? card combination).isSome ↔ Fits card combination := by
  have fifteen : mostCards = 15 := rfl
  unfold WellFormed at sound
  cases kind : combination.kind with
  | set rank =>
      simp only [kind] at sound
      have most := sound.most
      simp only [attach?, kind]
      rw [if_pos (by omega), attachToSet?_isSome_iff]
      constructor
      · rintro ⟨space, suits⟩
        exact .set kind space suits
      · intro fits
        cases fits with
        | set isSet space suits =>
            cases kind.symm.trans isSet
            exact ⟨space, suits⟩
        | bottom isRun _ _ _ =>
            rw [kind] at isRun
            cases isRun
        | top isRun _ _ _ =>
            rw [kind] at isRun
            cases isRun
        | jokers isRun _ _ =>
            rw [kind] at isRun
            cases isRun
  | run low =>
      simp only [kind] at sound
      have most := sound.most
      simp only [attach?, kind]
      rw [if_pos (by omega)]
      by_cases wild : combination.cards.all Card.isWild
      · exact attachToRun?_isSome_iff_of_jokers sound kind wild
      · exact attachToRun?_isSome_iff sound kind wild

theorem WellFormed.attach?_extends {extended : Combination} (sound : combination.WellFormed)
    (accepted : attach? card combination = some extended) :
    Extends card combination extended := by
  unfold attach? at accepted
  split at accepted
  · cases kind : combination.kind with
    | set rank =>
        simp only [WellFormed, kind] at sound accepted
        exact attachToSet?_extends sound accepted
    | run low =>
        simp only [WellFormed, kind] at sound accepted
        exact attachToRun?_extends kind accepted
  · cases accepted

end

/-- Whatever has been attached to a new combination, it takes a card exactly if the card fits, and a
run of which a place is known takes it at one end. -/
theorem attach?_of_grown {owner : Nat} {cards attached : List Card}
    {combination grown : Combination} (formed : ofCards? owner cards = some combination)
    (grows : attachAll? attached combination = some grown) (card : Card) :
    ((attach? card grown).isSome ↔ Fits card grown) ∧
      ∀ extended ∈ attach? card grown, Extends card grown extended := by
  have sound := attachAll?_wellFormed (ofCards?_wellFormed formed) grows
  exact ⟨sound.attach?_isSome_iff card, fun _ accepted => sound.attach?_extends accepted⟩

/-- A joker stands above a queen and a king. The next one goes below them, and so does another; an
ace finds no place at either end. -/
theorem attach?_of_queen_and_king_below_joker :
    let queen : Card := .standard ⟨12, by decide, by decide⟩ .hearts
    let king : Card := .standard ⟨13, by decide, by decide⟩ .hearts
    let ace : Card := .standard ⟨1, by decide, by decide⟩ .hearts
    let formed : Combination := ⟨.run 12, [queen, king, .joker], 0⟩
    let grown : Combination := ⟨.run 11, [.joker, queen, king, .joker], 0⟩
    ofCards? 0 [king, .joker, queen] = some formed ∧ attachAll? [.joker] formed = some grown ∧
      ¬ Fits ace grown ∧ Fits .joker grown ∧
      Extends .joker grown ⟨.run 10, [.joker, .joker, queen, king, .joker], 0⟩ := by
  intro queen king ace formed grown
  have accepted : ofCards? 0 [king, .joker, queen] = some formed := by cbv
  have grows : attachAll? [.joker] formed = some grown := by cbv
  have refused : attach? ace grown = none := by cbv
  have taken : attach? .joker grown =
      some ⟨.run 10, [.joker, .joker, queen, king, .joker], 0⟩ := by cbv
  have aces := attach?_of_grown accepted grows ace
  have jokers := attach?_of_grown accepted grows .joker
  rw [refused] at aces
  rw [taken] at jokers
  exact ⟨accepted, grows, mt aces.1.2 Bool.noConfusion, jokers.1.1 rfl, jokers.2 _ rfl⟩

end Cardroom.Combination
