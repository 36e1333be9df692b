import Cardroom.Card.Deck
import Cardroom.Match

/-!
# Dealing

A match begins with a new deck, from whose top the hands are dealt seat by seat. The next card is
turned over as the first of the discard pile.
-/

namespace Cardroom

namespace Seat

def handSize (seat : Seat) : Nat :=
  if seat.takesFifteen then 15 else 14

def dealt (hand : List Card) (seat : Seat) : Seat :=
  { seat with hand, phase := .awaitingDraw, turnsPlayed := 0, cardsPlayed := 0, score := 0 }

end Seat

namespace Match

/-- The pile from which a match is dealt: the top of a new deck is its last card. -/
def newPile (shuffle : Shuffle) (shuffled : Bool) : List Card :=
  if shuffled then (shuffle.order Card.deck).reverse else Card.deck.reverse

/-- Deals a hand to each seat in turn, and gives the seats and what is left of the pile. -/
def dealHands : List Card → List Seat → List Seat × List Card
  | pile, [] => ([], pile)
  | pile, seat :: seats =>
      let (others, rest) := dealHands (pile.drop seat.handSize) seats
      (seat.dealt (pile.take seat.handSize) :: others, rest)

/-- Deals the match and gives the turn to the seat that takes fifteen cards. -/
def start (shuffle : Shuffle) (game : Match) : Match :=
  let (seats, pile) := dealHands (newPile shuffle game.shuffled) game.seats
  { game with
    status := .playing
    seats
    current := (seats.findIdx? Seat.takesFifteen).getD 0
    drawPile := pile.drop 1
    discardPile := pile.take 1
    combinations := [] }

end Match

end Cardroom
