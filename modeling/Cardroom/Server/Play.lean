import Cardroom.Match.Deal
import Cardroom.Match.Move
import Cardroom.Server.Transition

/-!
# Playing

A match is started for the members of a room, each move is shown to everyone who sits at the table,
and the end of the match is reported to the room.
-/

namespace Cardroom.Transition

/-- The status of a player at the table, and the frame that announces it. -/
def turnNotice (onTurn : Bool) : Session.Status × MessageType × String :=
  if onTurn then (.onTurn, .turn, "Your turn") else (.onWait, .wait, "Wait for your opponent")

/-- Deals a match for the members of a room, tells each whether to begin, and shows each the
hand. -/
def startMatch (config : Config) (shuffle : Shuffle) (room : Nat) (state : Transition) :
    Transition :=
  match state.rooms.get? room with
  | none => state
  | some found =>
      let game := (Match.seat room found.memberIds config.shuffleDeck).start shuffle
      let state := state.modifyRoom room (Room.beginMatch game)
      let state := state.broadcast room .start "Game started" none
      game.seats.foldl
        (fun state seat =>
          let member := seat.session
          let (status, type, text) := turnNotice (game.isTurnOf member)
          ((state.settle member status).reply member type text).reply member .cards
            ((game.handCodes? member).getD ""))
        state

def nickOf (id : Nat) (sessions : SessionTable) : String :=
  ((sessions.get? id).map Session.name).getD ""

def seatReport (sessions : SessionTable) (seat : Seat) : String :=
  "|P:" ++ nickOf seat.session sessions ++ ":" ++ toString seat.score ++ ":" ++
    toString seat.cardsPlayed ++ ":" ++ toString seat.turnsPlayed

/-- The report on a match: the winner, and each seat with its points, the cards it has laid down and
the turns it has played. -/
def matchReport (winner : Nat) (sessions : SessionTable) (game : Match) : String :=
  "W:" ++ nickOf winner sessions ++ String.join (game.seats.map (seatReport sessions))

/-- Counts the points of a match that is over, reports them, and keeps the players in the room. -/
def finishMatch (room winner : Nat) (game : Match) (state : Transition) : Transition :=
  let members := ((state.rooms.get? room).map Room.memberIds).getD []
  let report := matchReport winner state.sessions game.score
  let state := (state.modifyRoom room Room.finishMatch).broadcast room .matchEnd report none
  members.foldl (fun state member => state.settle member .matchDone) state

def showTable (game : Match) (state : Transition) : Transition :=
  game.seats.foldl (fun state seat => state.showView game seat.session) state

def announceTurn (game : Match) (state : Transition) : Transition :=
  game.seats.foldl
    (fun state seat =>
      let member := seat.session
      let (status, type, text) := turnNotice (game.isTurnOf member)
      (state.setStatus member status).reply member type text)
    state

def playMove (shuffle : Shuffle) (id : Nat) (action : MessageType) (payload : String)
    (state : Transition) : Transition :=
  let state := state.findRoom id
  match state.matchOf? id with
  | none => state.reply id .error "No game in progress"
  | some (room, game) =>
      match game.play shuffle id action payload with
      | (.error error, game) => (state.setGame room game).reply id .error error.message
      | (.ok (), game) =>
          let state := state.setGame room game
          if game.status = .finished then
            state.finishMatch room id game
          else
            let state := state.showTable game
            match action with
            | .addCard => state.reply id .okay "Card attached"
            | .discard => state.announceTurn game
            | _ => state

def onTurn (shuffle : Shuffle) (id : Nat) (frame : Frame) (state : Transition) :
    Flow × Transition :=
  if frame.type.isMove then
    (.proceed, state.playMove shuffle id frame.type frame.payload)
  else
    (.disconnect, state)

def onWait (id : Nat) (frame : Frame) (state : Transition) : Flow × Transition :=
  match frame.type with
  | .quit => (.disconnect, state)
  | _ => (.proceed, state.reply id .error "Not your turn")

def onPaused (id : Nat) (frame : Frame) (state : Transition) : Flow × Transition :=
  match frame.type with
  | .quit => (.disconnect, state)
  | _ => (.proceed, state.reply id .notice "Game paused")

end Cardroom.Transition
