import Cardroom.Card.Deck
import Cardroom.Match.View
import Cardroom.Room.Table
import Cardroom.Server.Config
import Cardroom.Session.Token

/-!
# Transitions

Whatever happens to the server changes its two tables in one step, during which nothing else
happens. What the step has to say is collected on the way and delivered when the step is over.
-/

namespace Cardroom

structure Tables where
  sessions : SessionTable
  rooms : RoomTable
deriving DecidableEq, Repr

namespace Tables

def vacant (config : Config) (now : Time) : Tables where
  sessions := SessionTable.vacant config.maxSessions now
  rooms := RoomTable.vacant config.maxRooms

end Tables

/-- What a transition takes from outside: the reading of the clock, a token for a player who logs
in, and the shuffle of cards that are shuffled. -/
structure Moment where
  now : Time
  token : Token
  shuffle : Shuffle

/-- What a connection's worker does after a frame. -/
inductive Flow where
  | proceed
  | disconnect
deriving DecidableEq, Repr

/-- A transition under way: the tables as they stand, and what there is to say so far. -/
structure Transition where
  sessions : SessionTable
  rooms : RoomTable
  outbox : Outbox := {}
deriving DecidableEq, Repr

namespace Transition

/-- How a transition that handles a frame ends: what the worker of the connection does, and to which
slot the connection is bound now. -/
structure Outcome where
  flow : Flow
  slot : Nat
  state : Transition
deriving DecidableEq, Repr

def start (tables : Tables) : Transition where
  sessions := tables.sessions
  rooms := tables.rooms

def tables (state : Transition) : Tables where
  sessions := state.sessions
  rooms := state.rooms

@[simp]
theorem tables_sessions (state : Transition) : state.tables.sessions = state.sessions :=
  rfl

@[simp]
theorem tables_rooms (state : Transition) : state.tables.rooms = state.rooms :=
  rfl

/-- Sends a frame to the player of a slot, if connected. -/
def reply (id : Nat) (type : MessageType) (payload : String) (state : Transition) : Transition :=
  { state with outbox := state.sessions.notify id type payload state.outbox }

def broadcast (room : Nat) (type : MessageType) (payload : String) (exception : Option Nat)
    (state : Transition) : Transition :=
  { state with
    outbox := state.rooms.broadcast room state.sessions type payload exception state.outbox }

def sendRoomInfo (room : Nat) (state : Transition) : Transition :=
  match state.rooms.get? room with
  | some found => state.broadcast room .roomInfo (found.info state.sessions) none
  | none => state

/-- Shows a player the table of a match, if the player sits at it. -/
def showView (game : Match) (id : Nat) (state : Transition) : Transition :=
  match game.view? id with
  | some view => state.reply id .state view
  | none => state

@[simp]
theorem reply_tables (id : Nat) (type : MessageType) (payload : String) (state : Transition) :
    (state.reply id type payload).tables = state.tables :=
  rfl

@[simp]
theorem broadcast_tables (room : Nat) (type : MessageType) (payload : String)
    (exception : Option Nat) (state : Transition) :
    (state.broadcast room type payload exception).tables = state.tables :=
  rfl

@[simp]
theorem sendRoomInfo_tables (room : Nat) (state : Transition) :
    (state.sendRoomInfo room).tables = state.tables := by
  unfold sendRoomInfo
  split <;> rfl

@[simp]
theorem showView_tables (game : Match) (id : Nat) (state : Transition) :
    (state.showView game id).tables = state.tables := by
  unfold showView
  split <;> rfl

def modifySession (id : Nat) (change : Session → Session) (state : Transition) : Transition :=
  { state with sessions := state.sessions.modify id change }

def setStatus (id : Nat) (status : Session.Status) (state : Transition) : Transition :=
  state.modifySession id fun session => { session with status }

/-- Gives a player a status that is also the one to come back to. -/
def settle (id : Nat) (status : Session.Status) (state : Transition) : Transition :=
  state.modifySession id (Session.settle status)

def enterRoom (id room : Nat) (state : Transition) : Transition :=
  state.modifySession id (Session.enter room)

def release (id : Nat) (now : Time) (state : Transition) : Transition :=
  { state with sessions := state.sessions.release id now }

theorem release_tables (id : Nat) (now : Time) (state : Transition) :
    (state.release id now).tables =
      { state.tables with sessions := state.tables.sessions.release id now } :=
  rfl

def modifyRoom (id : Nat) (change : Room → Room) (state : Transition) : Transition :=
  { state with rooms := state.rooms.modify id change }

def setGame (room : Nat) (game : Match) (state : Transition) : Transition :=
  state.modifyRoom room fun found => { found with game := some game }

/-- Steps that each change one session, whatever they say. -/
theorem foldl_tables {Item : Type} {step : Transition → Item → Transition} (slot : Item → Nat)
    (change : Nat → Session → Session)
    (one : ∀ state item,
      (step state item).tables = (state.modifySession (slot item) (change (slot item))).tables)
    (items : List Item) (state : Transition) :
    (items.foldl step state).tables =
      { state.tables with
        sessions := (items.map slot).foldl (fun table id => table.modify id (change id))
          state.tables.sessions } := by
  induction items generalizing state with
  | nil =>
      rfl
  | cons item items inductionHypothesis =>
      rw [List.foldl_cons, inductionHypothesis, one]
      rfl

def roomOf? (id : Nat) (state : Transition) : Option Nat :=
  (state.sessions.get? id).bind Session.room

def gameIn? (room : Nat) (state : Transition) : Option Match :=
  (state.rooms.get? room).bind Room.game

def matchOf? (id : Nat) (state : Transition) : Option (Nat × Match) :=
  (state.roomOf? id).bind fun room => (state.gameIn? room).map fun game => (room, game)

/-- Notes the room of a player who is a member of one although the session notes none. -/
def findRoom (id : Nat) (state : Transition) : Transition :=
  state.modifySession id fun session =>
    { session with room := session.room <|> state.rooms.findBySession? id }

end Transition

end Cardroom
