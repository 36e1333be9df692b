import Cardroom.Server.Transition

/-!
# Leaving rooms

A player leaves a room alone, or all its members are sent back to the lobby together.
-/

namespace Cardroom.Transition

/-- Takes a player out of the room, if there is one, and tells those who stay behind. -/
def leaveRoom (id : Nat) (state : Transition) : Transition :=
  match state.roomOf? id with
  | none => state
  | some room =>
      let state := state.modifySession id Session.stepOut
      match state.rooms.leave room id with
      | .error _ => state
      | .ok (owner, rooms) =>
          let state := { state with rooms }
          let state :=
            match owner with
            | some owner => state.reply owner .owner "1"
            | none => state
          let remaining := ((state.rooms.get? room).map Room.memberIds).getD []
          (remaining.foldl (fun state member => state.modifySession member Session.reseat)
            state).sendRoomInfo room

def closeRoom (room : Nat) (state : Transition) : Transition :=
  match state.rooms.get? room with
  | none => state
  | some found =>
      found.memberIds.foldl (fun state member => state.modifySession member Session.toLobby)
        { state with rooms := state.rooms.remove room }

end Cardroom.Transition
