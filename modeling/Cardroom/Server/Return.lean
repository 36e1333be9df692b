import Cardroom.Match.Turn
import Cardroom.Server.Transition
import Cardroom.Session.Login

/-!
# Logging in and coming back

A connection gives its name. A new name is noted in the slot of the connection; a player who was
dropped is found by name and token, and gets back the old slot, seat and status.
-/

namespace Cardroom.Transition

/-- Brings a player who has come back to where no match waits: to the room, or else to the lobby. -/
def resumeOutside (id : Nat) (state : Transition) : Transition :=
  match state.sessions.get? id with
  | none => state
  | some session =>
      (state.modifySession id Session.comeBack).reply id .okay
        session.comeBack.status.resumeMarker

/-- Brings a player who has come back to a match, which goes on once everyone is there. -/
def resumeMatch (id room : Nat) (game : Match) (state : Transition) : Transition :=
  let present := game.setActive id true
  let resumed := if present.allActive then present.resume? else none
  let game := resumed.getD present
  let state := state.setGame room game
  let state :=
    if resumed.isSome then
      game.seats.foldl (fun state seat => state.modifySession seat.session Session.endPause) state
    else if game.status = .paused then
      state.setStatus id .paused
    else
      state
  let marker :=
    ((state.sessions.get? id).map fun session => session.status.resumeMarker).getD "LOBBY"
  let state := (state.reply id .okay marker).showView game id
  if resumed.isSome then
    state.broadcast room .resumed "Player reconnected, game resumed" none
  else
    state

def resume (id : Nat) (state : Transition) : Transition :=
  match state.matchOf? id with
  | none => state.resumeOutside id
  | some (room, game) => state.resumeMatch id room game

def loginNew (moment : Moment) (slot : Nat) (nick : String) (state : Transition) : Outcome :=
  if (state.sessions.findByNick? nick).isSome then
    { flow := .disconnect, slot, state := state.reply slot .error "User already exists" }
  else
    let state := state.modifySession slot fun session =>
      { session with
        nick := some nick
        token := some moment.token.text
        status := .connected
        lastStatus := .connected
        invalidMessages := 0 }
    { flow := .proceed, slot, state := state.reply slot .okay ("Welcome!|" ++ moment.token.text) }

/-- A login with the name and the token of a player who was dropped. The slot that the connection
had until now is free again. -/
def loginAgain (now : Time) (slot connection : Nat) (nick token : String) (state : Transition) :
    Outcome :=
  match state.sessions.findByNick? nick with
  | none => { flow := .proceed, slot, state := state.reply slot .error "Session expired" }
  | some existing =>
      match state.sessions.get? existing with
      | none => { flow := .disconnect, slot, state }
      | some target =>
          if target.isConnected then
            { flow := .disconnect, slot, state := state.reply slot .error "User already exists" }
          else if target.token ≠ some token then
            { flow := .proceed, slot, state := state.reply slot .error "Invalid token" }
          else
            let state := if existing = slot then state else state.release slot now
            let state := state.modifySession existing (Session.rebind connection now)
            let state := state.reply existing .reconnected "Reconnected"
            { flow := .proceed, slot := existing, state := state.resume existing }

def onLogin (moment : Moment) (slot connection : Nat) (frame : Frame) (state : Transition) :
    Outcome :=
  match frame.type with
  | .login =>
      match LoginRequest.ofPayload frame.payload with
      | .error error => { flow := .proceed, slot, state := state.reply slot .error error.message }
      | .ok (.new nick) => state.loginNew moment slot nick
      | .ok (.reconnect nick token) => state.loginAgain moment.now slot connection nick token
  | .quit => { flow := .disconnect, slot, state := state.release slot moment.now }
  | _ => { flow := .disconnect, slot, state }

end Cardroom.Transition
