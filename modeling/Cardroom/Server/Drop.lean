import Cardroom.Server.Leave
import Cardroom.Match.Turn

/-!
# Dropped players

A player whose connection is lost keeps name and token for a while. A running match is paused and
waits for the player; a room without one does not.
-/

namespace Cardroom.Transition

def pauseText : String :=
  "Opponent disconnected, waiting for reconnect"

/-- Pauses the match of a player who was dropped. Those who are still there wait. -/
def pauseMatch (id room : Nat) (game : Match) (state : Transition) : Transition :=
  let absent := game.setActive id false
  let game := (absent.pause? pauseText).getD absent
  let others := (game.seats.map Seat.session).filter (· != id)
  let state := others.foldl (fun state other => state.modifySession other Session.suspend)
    (state.setGame room game)
  state.broadcast room .paused (game.pauseReason.getD "") (some id)

def afterDrop (id : Nat) (state : Transition) : Transition :=
  match state.roomOf? id with
  | none => state
  | some room =>
      match (state.gameIn? room).filter fun game =>
          game.status = .playing || game.status = .paused with
      | some game => state.pauseMatch id room game
      | none =>
          let state := (state.leaveRoom id).modifySession id fun session =>
            { session with lastStatus := .connected }
          state.broadcast room .notice "Player disconnected" (some id)

/-- Ends the connection of a slot, if it is the one that is bound to it. Whoever was not logged in
is forgotten. -/
def disconnect (id connection : Nat) (now : Time) (state : Transition) : Transition :=
  match state.sessions.get? id with
  | none => state
  | some session =>
      if session.connection ≠ some connection then
        state
      else if !session.isLoggedIn then
        state.release id now
      else
        let state := { state with sessions := state.sessions.detach id connection now }
        (state.modifySession id Session.drop).afterDrop id

end Cardroom.Transition
