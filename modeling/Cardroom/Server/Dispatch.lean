import Cardroom.Server.Drop
import Cardroom.Server.Lobby
import Cardroom.Server.Return

/-!
# The server and its connections

The server is told of every connection, of every frame that arrives on one, and of its end. Which
frames make sense depends on the status of the player; each of these steps runs to its end before
the next one begins.
-/

namespace Cardroom

/-- The outcome of a step: the tables after it, and what is to be delivered. -/
structure Step where
  tables : Tables
  outbox : Outbox
deriving DecidableEq, Repr

namespace Transition

def finish (state : Transition) : Step where
  tables := state.tables
  outbox := state.outbox

end Transition

namespace Tables

/-- Gives a new connection a slot, or turns it away if there is none. -/
def accept (now : Time) (connection : Nat) (tables : Tables) : Option Nat × Step :=
  match tables.sessions.allocate? connection now with
  | some (slot, sessions) => (some slot, { tables := { tables with sessions }, outbox := {} })
  | none =>
      let outbox := ({} : Outbox).push connection .error "Cannot connect at the moment (FULL)"
      (none, { tables, outbox := outbox.close connection })

/-- The outcome of a frame: what the worker of the connection does, the slot to which the connection
is bound now, and the step. -/
structure Handled where
  flow : Flow
  slot : Nat
  step : Step
deriving DecidableEq, Repr

/-- What a frame does that comes from the connection bound to a slot, by the status of its
player. -/
def dispatch (config : Config) (moment : Moment) (slot connection : Nat) (frame : Frame)
    (status : Session.Status) (state : Transition) : Transition.Outcome :=
  let stay (outcome : Flow × Transition) : Transition.Outcome :=
    { flow := outcome.1, slot, state := outcome.2 }
  match status with
  | .disconnected => state.onLogin moment slot connection frame
  | .connected => stay (state.onLobby moment.now slot frame)
  | .inRoom => stay (state.onRoom config moment slot frame)
  | .onTurn => stay (state.onTurn moment.shuffle slot frame)
  | .onWait => stay (state.onWait slot frame)
  | .paused => stay (state.onPaused slot frame)
  | .matchDone => stay (state.onMatchDone config moment slot frame)

/-- Handles a frame. A connection that is not the one bound to its slot is stale, and nothing that
it sends changes anything. Any other frame is a sign of life, and a ping or a pong is nothing
else. -/
def handleFrame (config : Config) (moment : Moment) (slot connection : Nat) (frame : Frame)
    (tables : Tables) : Handled :=
  match tables.sessions.get? slot with
  | none => { flow := .disconnect, slot, step := { tables, outbox := {} } }
  | some session =>
      if session.connection ≠ some connection then
        { flow := .disconnect, slot, step := { tables, outbox := {} } }
      else
        let state := (Transition.start tables).modifySession slot (Session.touch moment.now)
        if frame.type = .ping ∨ frame.type = .pong then
          { flow := .proceed, slot, step := state.finish }
        else
          let outcome := dispatch config moment slot connection frame session.status state
          { flow := outcome.flow, slot := outcome.slot, step := outcome.state.finish }

def handleDisconnect (now : Time) (slot connection : Nat) (tables : Tables) : Step :=
  ((Transition.start tables).disconnect slot connection now).finish

end Tables

end Cardroom
