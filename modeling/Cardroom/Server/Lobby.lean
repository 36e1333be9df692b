import Cardroom.Server.Leave
import Cardroom.Server.Play
import Cardroom.Text.Blank
import Cardroom.Text.Decimal

/-!
# Lobby and rooms

What players who are not in a running match may ask for: in the lobby, in a room, and after a match.
-/

namespace Cardroom.Transition

/-- How many members of a room are ready, of how many that it takes. -/
def progress (count : Nat) : String :=
  "(" ++ toString count ++ "/" ++ toString Room.places ++ ")"

/-- Whether a payload means yes. -/
def isYes (payload : String) : Bool :=
  Text.trim payload == "1"

def createRoom (id : Nat) (name : String) (state : Transition) : Transition :=
  match state.rooms.create (Text.trim name) id with
  | .error error => state.reply id .createFailed error.message
  | .ok (room, rooms) =>
      let state := ({ state with rooms } : Transition).enterRoom id room
      ((state.reply id .roomCreated (toString room)).reply id .owner "1").sendRoomInfo room

def joinRoom (id : Nat) (payload : String) (state : Transition) : Transition :=
  match Text.number? (Text.trim payload) with
  | none => state.reply id .joinFailed "Invalid room id"
  | some room =>
      match state.rooms.join room id with
      | .error error => state.reply id .joinFailed error.message
      | .ok rooms =>
          let state := ({ state with rooms } : Transition).enterRoom id room
          (state.reply id .roomJoined (toString room)).sendRoomInfo room

def onLobby (now : Time) (id : Nat) (frame : Frame) (state : Transition) : Flow × Transition :=
  match frame.type with
  | .roomList =>
      match state.rooms.list? with
      | some list => (.proceed, state.reply id .roomList list)
      | none => (.proceed, state.reply id .noRooms "No rooms")
  | .createRoom => (.proceed, state.createRoom id frame.payload)
  | .joinRoom => (.proceed, state.joinRoom id frame.payload)
  | .quit => (.disconnect, state.release id now)
  | _ =>
      (.disconnect, state.modifySession id fun session =>
        { session with invalidMessages := session.invalidMessages + 1 })

def getReady (id room : Nat) (payload : String) (state : Transition) : Transition :=
  match state.rooms.setReady room id (isYes payload) with
  | .error error => state.reply id .error error.message
  | .ok (count, rooms) =>
      let state := { state with rooms }
      (state.broadcast room .playersReady (progress count) none).sendRoomInfo room

/-- Starts the match of a room for its owner, once everyone is ready. -/
def startForOwner (config : Config) (shuffle : Shuffle) (id room : Nat) (state : Transition) :
    Transition :=
  match state.rooms.get? room with
  | none => state.reply id .startFailed "Room not found"
  | some found =>
      if found.owner ≠ id then
        state.reply id .startFailed "Only the owner can start"
      else if !found.allReady then
        state.reply id .startFailed "Not all players are ready"
      else
        state.startMatch config shuffle room

def onRoom (config : Config) (moment : Moment) (id : Nat) (frame : Frame) (state : Transition) :
    Flow × Transition :=
  let state := state.findRoom id
  match state.roomOf? id with
  | none => (.proceed, (state.setStatus id .connected).reply id .error "Not in a room")
  | some room =>
      match frame.type with
      | .leaveRoom =>
          (.proceed,
            ((state.leaveRoom id).setStatus id .connected).reply id .roomLeft "Left the room")
      | .ready => (.proceed, state.getReady id room frame.payload)
      | .start => (.proceed, state.startForOwner config moment.shuffle id room)
      | .quit => (.disconnect, (state.leaveRoom id).release id moment.now)
      | _ => (.disconnect, state)

/-- Notes whether a player wants another match. It starts as soon as everyone does. -/
def playAgain (config : Config) (shuffle : Shuffle) (id room : Nat) (payload : String)
    (state : Transition) : Transition :=
  let wanted := isYes payload
  match state.rooms.setReady room id wanted with
  | .error error => state.reply id .startFailed error.message
  | .ok (count, rooms) =>
      let state := { state with rooms }
      if (state.rooms.get? room).any Room.allReady then
        state.startMatch config shuffle room
      else
        let state := state.broadcast room .playersReady (progress count) none
        if wanted then state.reply id .startFailed "Waiting for the opponent" else state

def onMatchDone (config : Config) (moment : Moment) (id : Nat) (frame : Frame)
    (state : Transition) : Flow × Transition :=
  let state := state.findRoom id
  match state.roomOf? id with
  | none => (.proceed, (state.setStatus id .connected).reply id .lobby "Back to lobby")
  | some room =>
      match frame.type with
      | .playAgain => (.proceed, state.playAgain config moment.shuffle id room frame.payload)
      | .lobby =>
          (.proceed, (state.broadcast room .lobby "Back to lobby" none).closeRoom room)
      | .leaveToLobby =>
          (.proceed,
            ((state.leaveRoom id).setStatus id .connected).reply id .lobby "Back to lobby")
      | .quit => (.disconnect, (state.leaveRoom id).release id moment.now)
      | _ => (.proceed, state.reply id .notice "Game over")

end Cardroom.Transition
