import Cardroom.Match
import Cardroom.Text.Fields

/-!
# What a player sees

A player is shown the own hand, the top of the discard pile, the combinations on the table, whose
turn it is and how many cards the others hold.
-/

namespace Cardroom.Match

def handCodes? (session : Nat) (game : Match) : Option String :=
  (game.player? session).map fun seat => Text.joined "|" (seat.hand.map Card.code)

/-- The word that tells the player of a seat whether to act. -/
def turnMarker (place : Nat) (game : Match) : String :=
  if place = game.current ∧ game.status = .playing then "TURN" else "WAIT"

def othersCardCount (place : Nat) (game : Match) : Nat :=
  ((game.seats.eraseIdx place).flatMap Seat.hand).length

/-- The table as a player sees it, with bars between its five parts. -/
def view? (session : Nat) (game : Match) : Option String :=
  match game.seatOf? session with
  | none => none
  | some place =>
      game.seats[place]?.map fun seat =>
        Text.joined "|"
          [Card.listCode seat.hand,
            (game.discardPile.head?.map Card.code).getD "",
            Text.joined "," (game.combinations.map Combination.codes),
            game.turnMarker place,
            toString (game.othersCardCount place)]

end Cardroom.Match
