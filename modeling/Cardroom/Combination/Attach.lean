import Cardroom.Combination

/-!
# Attaching a card

A combination on the table can be extended by one card at a time. A set takes a suit that it lacks,
or a joker; a run takes the card next to one of its ends. A joker goes to the upper end of a run if
there is room. A run of jokers alone has no fixed place yet: it is laid out anew with the card.
-/

namespace Cardroom.Combination

def attachToSet? (rank : Nat) (card : Card) (combination : Combination) : Option Combination :=
  let fits : Bool :=
    match card with
    | .joker => true
    | .standard cardRank suit =>
        cardRank.number == rank && !(combination.cards.filterMap Card.suit?).contains suit
  if combination.cards.length < mostSetCards ∧ fits then
    some { combination with cards := combination.cards ++ [card] }
  else
    none

inductive End where
  | bottom
  | top
deriving DecidableEq, Repr

/-- The end at which a card fits a run from place `low` to place `high`, if it fits. An ace that
fits at both ends goes to the top. -/
def fittingEnd? (low high : Nat) (suit : Option Suit) : Card → Option End
  | .joker =>
      if high < highAce then some .top
      else if high = highAce ∧ lowAce < low then some .bottom
      else none
  | .standard rank cardSuit =>
      if suit ≠ some cardSuit then none
      else if rank.isAce then
        if high + 1 = highAce then some .top
        else if low = lowAce + 1 then some .bottom
        else none
      else if rank.number + 1 = low then some .bottom
      else if rank.number = high + 1 then some .top
      else none

def attachToRun? (low : Nat) (card : Card) (combination : Combination) : Option Combination :=
  let cards := combination.cards
  if cards.all Card.isWild then
    (run? (cards ++ [card])).map fun laid =>
      { combination with kind := .run laid.1, cards := laid.2 }
  else
    let high := low + cards.length - 1
    match fittingEnd? low high (cards.findSome? Card.suit?) card with
    | some .bottom => some { combination with kind := .run (low - 1), cards := card :: cards }
    | some .top => some { combination with cards := cards ++ [card] }
    | none => none

def attach? (card : Card) (combination : Combination) : Option Combination :=
  if combination.cards.length < mostCards then
    match combination.kind with
    | .set rank => attachToSet? rank card combination
    | .run low => attachToRun? low card combination
  else
    none

end Cardroom.Combination
