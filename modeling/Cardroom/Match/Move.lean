import Cardroom.Card.Deck
import Cardroom.Match.Turn
import Cardroom.Text.Fields
import Cardroom.Wire.MessageType

/-!
# Moves

On a turn a player draws a card from one of the piles, may lay down combinations and attach cards to
those on the table, and discards a card, which passes the turn on. The player who is left with one
card closes with it and ends the match. A move works on the match as it stands, and a refusal takes
nothing back: who finds the draw pile empty turns the discard pile over before being refused, and
draws again.
-/

namespace Cardroom

inductive MoveError where
  | notPlaying
  | unknownPlayer
  | notYourTurn
  | alreadyDrew
  | alreadyDiscarded
  | duplicateDiscard
  | starterCannotDraw
  | starterCannotTakeDiscard
  | deckRebuilt
  | nothingToDraw
  | discardPileEmpty
  | mustDrawFirst
  | mustClose
  | cardNotInHand (code : String)
  | badCards (error : CodeError)
  | malformedPayload
  | tooFewCards
  | wouldEmptyHand
  | invalidCombination
  | combinationNotFound
  | cannotAttach
  | cannotClose
  | unknownAction
deriving DecidableEq, Repr

namespace MoveError

def message : MoveError → String
  | notPlaying => "The game is not running"
  | unknownPlayer => "You are not seated in this game"
  | notYourTurn => "Not your turn"
  | alreadyDrew => "You already drew a card"
  | alreadyDiscarded => "You already discarded"
  | duplicateDiscard => "You already discarded this turn"
  | starterCannotDraw => "The first player does not draw in the first round"
  | starterCannotTakeDiscard =>
      "The first player does not take from the discard pile in the first round"
  | deckRebuilt => "Reshuffling the discard pile, try again"
  | nothingToDraw => "No cards left to draw, take from the discard pile"
  | discardPileEmpty => "The discard pile is empty"
  | mustDrawFirst => "You must draw first"
  | mustClose => "You cannot discard your last card, close instead"
  | cardNotInHand code => "Card " ++ code ++ " is not in your hand"
  | badCards error => "Malformed card list: " ++ error.message
  | malformedPayload => "Malformed payload"
  | tooFewCards => "A combination needs at least three cards"
  | wouldEmptyHand => "Not allowed, you would have nothing left to close with"
  | invalidCombination => "Invalid combination"
  | combinationNotFound => "No such combination on the table"
  | cannotAttach => "The card cannot be attached to this combination"
  | cannotClose => "Closing requires exactly one matching card in hand"
  | unknownAction => "Unknown action"

/-- The number by which players' programs know a refusal. -/
def number : MoveError → Int
  | alreadyDrew | mustDrawFirst => -2
  | alreadyDiscarded | starterCannotTakeDiscard | discardPileEmpty | nothingToDraw | mustClose => -3
  | starterCannotDraw => -4
  | deckRebuilt => -5
  | unknownAction => -7
  | wouldEmptyHand => -69
  | _ => -1

end MoveError

namespace Match

/-- The answer to a move, and the match as the move leaves it, whatever the answer. -/
abbrev Answer := Except MoveError Unit × Match

/-- The discard pile, all but its top card, turned over to be the draw pile, and shuffled if the
deck was. -/
def rebuildDrawPile (shuffle : Shuffle) (game : Match) : Match :=
  match game.discardPile with
  | [] => game
  | top :: rest =>
      let pile := rest.reverse
      { game with
        drawPile := if game.shuffled then shuffle.order pile else pile
        discardPile := [top] }

def receive (place : Nat) (card : Card) (game : Match) : Match :=
  game.modifySeat place fun seat =>
    { seat with hand := seat.hand ++ [card], phase := .awaitingDiscard }

/-- Draws the top card of the draw pile. An empty pile is rebuilt before the draw is refused. -/
def takeFromDeck (shuffle : Shuffle) (place : Nat) (seat : Seat) (game : Match) : Answer :=
  match seat.phase with
  | .awaitingDiscard => (.error .alreadyDrew, game)
  | .turnComplete => (.error .alreadyDiscarded, game)
  | .awaitingDraw =>
      if seat.isOpening then
        (.error .starterCannotDraw, game)
      else
        match game.drawPile with
        | card :: pile => (.ok (), { game with drawPile := pile }.receive place card)
        | [] =>
            let game := game.rebuildDrawPile shuffle
            if game.drawPile = [] then (.error .nothingToDraw, game)
            else (.error .deckRebuilt, game)

def takeFromDiscard (place : Nat) (seat : Seat) (game : Match) : Answer :=
  if seat.phase = .awaitingDiscard then
    (.error .alreadyDrew, game)
  else
    match game.discardPile with
    | [] => (.error .discardPileEmpty, game)
    | card :: pile =>
        if seat.isOpening then
          (.error .starterCannotTakeDiscard, game)
        else
          (.ok (), { game with discardPile := pile }.receive place card)

/-- The first place of the hand at which the card is, those that are taken left out. -/
def freePlace? (hand : List Card) (taken : List Nat) (card : Card) : Option Nat :=
  (hand.zipIdx.find? fun entry => entry.1 == card && !taken.contains entry.2).map Prod.snd

/-- The places of the hand that are taken when each card has taken one more. The first card that
finds no place is the error. -/
def takePlaces (hand : List Card) (taken : List Nat) : List Card → Except MoveError (List Nat)
  | [] => .ok taken
  | card :: cards =>
      match freePlace? hand taken card with
      | none => .error (.cardNotInHand card.code)
      | some place => takePlaces hand (place :: taken) cards

/-- The hand without the cards at the places. The highest place is emptied first, so that the
places below it still name the same cards. -/
def withoutPlaces (hand : List Card) (places : List Nat) : List Card :=
  (places.mergeSort fun left right => decide (right ≤ left)).foldl List.eraseIdx hand

def layDown (place : Nat) (seat : Seat) (payload : String) (game : Match) : Answer :=
  if payload.utf8ByteSize < 2 * Combination.fewestCards then
    (.error .tooFewCards, game)
  else
    match Card.ofListCode payload with
    | .error error => (.error (.badCards error), game)
    | .ok cards =>
        if seat.hand.length ≤ cards.length then
          (.error .wouldEmptyHand, game)
        else
          match takePlaces seat.hand [] cards with
          | .error error => (.error error, game)
          | .ok places =>
              match Combination.ofCards? seat.session cards with
              | none => (.error .invalidCombination, game)
              | some combination =>
                  let game := game.modifySeat place fun seat =>
                    { seat with
                      hand := withoutPlaces seat.hand places
                      cardsPlayed := seat.cardsPlayed + cards.length }
                  (.ok (), { game with combinations := game.combinations ++ [combination] })

/-- Attaches a card to the first combination on the table that has the given codes. -/
def attach (place : Nat) (seat : Seat) (payload : String) (game : Match) : Answer :=
  match Text.cut? payload with
  | none => (.error .malformedPayload, game)
  | some (target, code) =>
      match Card.ofCode code with
      | .error error => (.error (.badCards error), game)
      | .ok card =>
          if card ∉ seat.hand then
            (.error (.cardNotInHand card.code), game)
          else if seat.hand.length ≤ 1 then
            (.error .wouldEmptyHand, game)
          else
            match game.combinations.findIdx? fun combination => combination.codes == target with
            | none => (.error .combinationNotFound, game)
            | some index =>
                match game.combinations[index]?.bind (Combination.attach? card) with
                | none => (.error .cannotAttach, game)
                | some combination =>
                    let game :=
                      { game with combinations := game.combinations.set index combination }
                    (.ok (), game.modifySeat place fun seat =>
                      { seat with
                        hand := seat.hand.erase card
                        cardsPlayed := seat.cardsPlayed + 1 })

/-- Puts a card on the discard pile and passes the turn on. Whoever has no card left ends the
match. -/
def discard (place : Nat) (seat : Seat) (payload : String) (game : Match) : Answer :=
  if seat.phase = .turnComplete then
    (.error .duplicateDiscard, game)
  else if seat.phase = .awaitingDraw ∧ !seat.isOpening then
    (.error .mustDrawFirst, game)
  else if seat.hand.length = 1 then
    (.error .mustClose, game)
  else
    match Card.ofCode payload with
    | .error error => (.error (.badCards error), game)
    | .ok card =>
        if card ∉ seat.hand then
          (.error (.cardNotInHand card.code), game)
        else
          let game := game.modifySeat place fun seat =>
            { seat with
              hand := seat.hand.erase card
              phase := .turnComplete
              turnsPlayed := seat.turnsPlayed + 1 }
          let game := { game with discardPile := card :: game.discardPile }
          if seat.hand.erase card = [] then (.ok (), { game with status := .finished })
          else (.ok (), game.passTurn)

def close (place : Nat) (seat : Seat) (payload : String) (game : Match) : Answer :=
  match seat.hand with
  | [card] =>
      if card.code = payload then
        let game := game.modifySeat place fun seat =>
          { seat with hand := [], phase := .turnComplete }
        (.ok (),
          { game with discardPile := card :: game.discardPile, status := .finished })
      else
        (.error .cannotClose, game)
  | _ => (.error .cannotClose, game)

def play (shuffle : Shuffle) (session : Nat) (action : MessageType) (payload : String)
    (game : Match) : Answer :=
  if game.status ≠ .playing then
    (.error .notPlaying, game)
  else
    match game.seatOf? session with
    | none => (.error .unknownPlayer, game)
    | some place =>
        match game.seats[place]? with
        | none => (.error .unknownPlayer, game)
        | some seat =>
            if place ≠ game.current then
              (.error .notYourTurn, game)
            else
              match action with
              | .takeFromDeck => game.takeFromDeck shuffle place seat
              | .takeFromDiscard => game.takeFromDiscard place seat
              | .layDown => game.layDown place seat payload
              | .addCard => game.attach place seat payload
              | .discard => game.discard place seat payload
              | .close => game.close place seat payload
              | _ => (.error .unknownAction, game)

end Match

end Cardroom
