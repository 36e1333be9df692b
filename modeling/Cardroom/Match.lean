import Cardroom.Combination.Attach

/-!
# Matches

A match is played by the members of a room with the cards of one deck. Every card is in the draw
pile, on the discard pile, in a hand or in a combination on the table. The seat that takes fifteen
cards begins, and opens by discarding without drawing.

The time at which the turn began is left out. It is stamped when a match is dealt, when the turn
is passed on and when a paused match goes on, and only a line of the log reads it: no rule, no answer
and no view of the table depends on it.
-/

namespace Cardroom

inductive Phase where
  | awaitingDraw
  | awaitingDiscard
  | turnComplete
deriving DecidableEq, Repr

structure Seat where
  /-- The player, named by the slot of the session. -/
  session : Nat
  hand : List Card := []
  phase : Phase := .awaitingDraw
  /-- Whether the player is there. -/
  active : Bool := true
  /-- Whether this seat takes a card more than the others and opens the match. -/
  takesFifteen : Bool
  turnsPlayed : Nat := 0
  cardsPlayed : Nat := 0
  score : Nat := 0
deriving DecidableEq, Repr

namespace Seat

/-- Whether the seat has yet to make the opening discard, before which it may not draw. -/
def isOpening (seat : Seat) : Bool :=
  seat.takesFifteen && seat.turnsPlayed == 0

def points (seat : Seat) : Nat :=
  seat.hand.foldr (fun card rest => card.value + rest) 0

end Seat

inductive Match.Status where
  | lobby
  | starting
  | playing
  | paused
  | finished
deriving DecidableEq, Repr

/-- A match. The first card of a pile is its top. -/
structure Match where
  room : Nat
  status : Match.Status := .lobby
  seats : List Seat
  /-- The seat whose turn it is. -/
  current : Nat := 0
  drawPile : List Card := []
  discardPile : List Card := []
  combinations : List Combination := []
  /-- Why the match is paused. -/
  pauseReason : Option String := none
  /-- Whether the deck is shuffled before it is dealt. -/
  shuffled : Bool
deriving DecidableEq, Repr

namespace Match

/-- A match that has not been dealt yet. The members sit in order, and the first one begins. -/
def seat (room : Nat) (members : List Nat) (shuffled : Bool) : Match where
  room
  seats := members.zipIdx.map fun member =>
    { session := member.1, takesFifteen := member.2 == 0 }
  shuffled

def modifySeat (place : Nat) (change : Seat → Seat) (game : Match) : Match :=
  { game with seats := game.seats.modify place change }

def seatOf? (session : Nat) (game : Match) : Option Nat :=
  game.seats.findIdx? fun seat => seat.session == session

def player? (session : Nat) (game : Match) : Option Seat :=
  game.seats.find? fun seat => seat.session == session

def currentSession? (game : Match) : Option Nat :=
  game.seats[game.current]?.map Seat.session

def isTurnOf (session : Nat) (game : Match) : Bool :=
  game.currentSession? == some session

def allActive (game : Match) : Bool :=
  game.seats.all Seat.active

/-- The cards of the match, wherever they are. -/
def cards (game : Match) : List Card :=
  game.drawPile ++ game.discardPile ++ game.seats.flatMap Seat.hand ++
    game.combinations.flatMap Combination.cards

def cardCount (game : Match) : Nat :=
  game.cards.length

end Match

end Cardroom
