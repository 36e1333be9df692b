import Cardroom.Card

/-!
# The deck

The deck of a match, and what it means to shuffle cards.
-/

namespace Cardroom

namespace Card

/-- One pack of fifty-two cards: suit by suit, from the ace to the king. -/
def pack : List Card :=
  Suit.all.flatMap fun suit => Rank.all.map fun rank => .standard rank suit

/-- The cards of a match, in the order of a new deck: two packs and four jokers. -/
def deck : List Card :=
  pack ++ pack ++ List.replicate 4 .joker

theorem length_deck : deck.length = 108 := by
  decide

end Card

/-- A way of shuffling cards: it puts them into another order, and neither adds nor removes one. -/
structure Shuffle where
  order : List Card → List Card
  perm : ∀ cards, (order cards).Perm cards

namespace Shuffle

def still : Shuffle where
  order cards := cards
  perm _ := List.Perm.refl _

/-- Takes cards out one by one: each pick names, counted round, the place of the next card among
those that are left. The cards that no pick is left for follow in their old order. -/
def pickOut : List Nat → List Card → List Card
  | [], cards => cards
  | pick :: picks, cards =>
      match cards[pick % cards.length]? with
      | none => cards
      | some card => card :: pickOut picks (cards.erase card)

theorem pickOut_perm (picks : List Nat) (cards : List Card) :
    (pickOut picks cards).Perm cards := by
  induction picks generalizing cards with
  | nil => exact List.Perm.refl _
  | cons pick picks inductive_step =>
      unfold pickOut
      split
      · exact List.Perm.refl _
      · next card found =>
          exact ((inductive_step _).cons card).trans
            (List.perm_cons_erase (List.mem_of_getElem? found)).symm

/-- The shuffle that a list of picks describes. Every order of the cards has such a list. -/
def ofPicks (picks : List Nat) : Shuffle where
  order := pickOut picks
  perm := pickOut_perm picks

/-- Every order of some cards is that of a shuffle. -/
theorem exists_order_eq {cards deal : List Card} (perm : deal.Perm cards) :
    ∃ shuffle : Shuffle, shuffle.order cards = deal := by
  refine ⟨{ order := fun others => if others = cards then deal else others, perm := ?_ }, ?_⟩
  · intro others
    by_cases same : others = cards
    · simpa [same] using perm
    · simp [same]
  · simp

end Shuffle

end Cardroom
