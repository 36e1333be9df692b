import Cardroom.Server.Dispatch

/-!
# Sweeping

From time to time the server asks every connected player for a sign of life, drops those who have
been silent for too long, and forgets those who have stayed away for too long. When a player is
forgotten, the room in which the seat was held is closed.
-/

namespace Cardroom

namespace Transition

def evict (id : Nat) (now : Time) (state : Transition) : Transition :=
  match (state.sessions.get? id).bind Session.connection with
  | none => state
  | some connection =>
      let outbox := state.outbox.push connection .lobby "Connection lost (heartbeat)"
      ({ state with outbox := outbox.close connection } : Transition).disconnect id connection now

/-- Closes the room of a player who has not come back, and sends the others to the lobby. -/
def abandonRoom (id room : Nat) (found : Room) (state : Transition) : Transition :=
  (found.others id).foldl
    (fun state other =>
      (state.modifySession other Session.toLobby).reply other .lobby
        "Opponent did not reconnect in time")
    { state with rooms := state.rooms.remove room }

def expire (id : Nat) (now : Time) (state : Transition) : Transition :=
  let state :=
    match (state.roomOf? id).bind fun room =>
        (state.rooms.get? room).map fun found => (room, found) with
    | none => state
    | some (room, found) => state.abandonRoom id room found
  state.release id now

def pingAll (state : Transition) : Transition :=
  { state with
    outbox := state.sessions.connections.foldl
      (fun outbox connection => outbox.push connection .ping "") state.outbox }

end Transition

namespace Tables

def sweep (config : Config) (now : Time) (tables : Tables) : Step :=
  let state := (Transition.start tables).pingAll
  let state := (state.sessions.timedOut config.heartbeatTimeout now).foldl
    (fun state id => state.evict id now) state
  let state := (state.sessions.expired config.reconnectTimeout now).foldl
    (fun state id => state.expire id now) state
  state.finish

end Tables

end Cardroom
