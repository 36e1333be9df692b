import Cardroom.Match

/-!
# Turns and pauses

The turn goes round the table and passes over the players who are away. A match pauses when a player
leaves, and goes on when everyone is back.
-/

namespace Cardroom.Match

/-- The seat after the current one that is active, going round the table. The current seat comes
last. -/
def nextSeat? (game : Match) : Option Nat :=
  let count := game.seats.length
  ((List.range' 1 count).map fun step => (game.current + step) % count).find? fun place =>
    (game.seats[place]?.map Seat.active).getD false

/-- Gives the turn to the next active seat. With nobody left to play the match is finished. -/
def passTurn (game : Match) : Match :=
  match game.nextSeat? with
  | some place =>
      { game with current := place }.modifySeat place fun seat =>
        { seat with phase := .awaitingDraw }
  | none => { game with current := 0, status := .finished }

def setActive (session : Nat) (active : Bool) (game : Match) : Match :=
  match game.seatOf? session with
  | some place => game.modifySeat place fun seat => { seat with active }
  | none => game

def pause? (reason : String) (game : Match) : Option Match :=
  if game.status = .playing then
    some { game with status := .paused, pauseReason := some reason }
  else
    none

def resume? (game : Match) : Option Match :=
  if game.status = .paused then
    some { game with status := .playing, pauseReason := none }
  else
    none

def score (game : Match) : Match :=
  { game with
    seats := game.seats.map fun seat =>
      { seat with score := seat.points } }

end Cardroom.Match
