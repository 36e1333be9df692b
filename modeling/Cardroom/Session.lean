import Cardroom.Delivery.Outbox
import Cardroom.Time

/-!
# Sessions

The server has a fixed number of slots, and each holds at most one player. A slot is bound to the
connection of its player, and keeps the player's name and token for a while when that connection is
lost.
-/

namespace Cardroom

inductive Session.Status where
  /-- Not logged in yet, or dropped and expected back. -/
  | disconnected
  /-- Logged in and in no room. -/
  | connected
  | inRoom
  | onTurn
  | onWait
  /-- In a match that waits for a player who was dropped. -/
  | paused
  /-- In a room whose match has just ended. -/
  | matchDone
deriving DecidableEq, Repr

namespace Session.Status

/-- Whether the status belongs to a running match. -/
def inMatch : Session.Status → Bool
  | onTurn | onWait | paused => true
  | _ => false

/-- The word that tells a returned player where the game was left. -/
def resumeMarker : Session.Status → String
  | onTurn => "TURN"
  | onWait => "WAIT"
  | paused => "PAUSED"
  | _ => "LOBBY"

end Session.Status

structure Session where
  /-- The number of the slot. -/
  id : Nat
  /-- The connection that is bound to the slot. -/
  connection : Option Nat := none
  nick : Option String := none
  /-- The secret with which the player can come back. -/
  token : Option String := none
  status : Session.Status := .disconnected
  /-- The status that a returning player, or a match that goes on, is given back. -/
  lastStatus : Session.Status := .disconnected
  /-- When the player was last heard of. -/
  lastHeartbeat : Time
  /-- When the connection was lost. -/
  disconnectedAt : Option Time := none
  room : Option Nat := none
  /-- How many messages in the lobby made no sense there. -/
  invalidMessages : Nat := 0
deriving DecidableEq, Repr

namespace Session

def vacant (id : Nat) (now : Time) : Session :=
  { id, lastHeartbeat := now }

def isFree (session : Session) : Bool :=
  session.connection.isNone && session.nick.isNone

def isConnected (session : Session) : Bool :=
  session.connection.isSome

def isLoggedIn (session : Session) : Bool :=
  session.nick.isSome

def name (session : Session) : String :=
  session.nick.getD ""

def touch (now : Time) (session : Session) : Session :=
  { session with lastHeartbeat := now }

def isTimedOut (timeout now : Time) (session : Session) : Bool :=
  session.isConnected && timeout < Time.since session.lastHeartbeat now

def graceExpired (timeout now : Time) (session : Session) : Bool :=
  !session.isConnected && session.isLoggedIn &&
    match session.disconnectedAt with
    | some moment => timeout < Time.since moment now
    | none => false

/-- Keeps the status for later. A paused player's status of before the pause has been kept
already. -/
def rememberStatus (session : Session) : Session :=
  if session.status = .paused then session else { session with lastStatus := session.status }

/-- A status that is also the one to come back to. -/
def settle (status : Session.Status) (session : Session) : Session :=
  { session with status, lastStatus := status }

def enter (room : Nat) (session : Session) : Session :=
  { session with room := some room, status := .inRoom }

def stepOut (session : Session) : Session :=
  { session with room := none }

/-- A member who stays behind in a room gets the status of somebody in a room, if connected. -/
def reseat (session : Session) : Session :=
  if session.isConnected && session.status != .inRoom then session.settle .inRoom else session

/-- A player who is sent back to the lobby. One who is away will find it on coming back. -/
def toLobby (session : Session) : Session :=
  { session with
    room := none
    lastStatus := .connected
    status := if session.isConnected then .connected else session.status }

def unbind (now : Time) (session : Session) : Session :=
  { session with connection := none, disconnectedAt := some now }

def drop (session : Session) : Session :=
  { session.rememberStatus with status := .disconnected }

def suspend (session : Session) : Session :=
  if session.isConnected then { session.rememberStatus with status := .paused } else session

/-- A player whose match goes on is given back the status of before the pause. -/
def endPause (session : Session) : Session :=
  if session.status = .paused then { session with status := session.lastStatus } else session

def rebind (connection : Nat) (now : Time) (session : Session) : Session :=
  { session with
    connection := some connection
    disconnectedAt := none
    lastHeartbeat := now
    status := session.lastStatus }

/-- A player who has come back to where no match waits: to the room, or else to the lobby. -/
def comeBack (session : Session) : Session :=
  let session :=
    if session.status.inMatch || session.room.isNone then
      { session with room := none, status := .connected }
    else
      session
  { session with lastStatus := session.status }

/-- Sends a frame to the player, if connected. -/
def notify (type : MessageType) (payload : String) (session : Session) (outbox : Outbox) :
    Outbox :=
  match session.connection with
  | some connection => outbox.push connection type payload
  | none => outbox

end Session

end Cardroom
