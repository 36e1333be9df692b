import Cardroom.Proofs.Server.Change
import Cardroom.Server.Leave

/-!
# Leaving keeps the tables in agreement

A slot is given up, a player leaves a room in which no match is played, or a room is closed with
whatever it holds. What becomes of the player who leaves is not the same each time, and so it is a
parameter here.
-/

namespace Cardroom.Transition

variable {state : Transition} {id place : Nat} {room : Room}

/-- A slot of a player who is in no room is forgotten. -/
theorem release_coherent {session : Session} (coherent : state.tables.Coherent) (now : Time)
    (held : state.sessions.get? id = some session) (nowhere : session.room = none) :
    (state.release id now).tables.Coherent :=
  coherent.modify_outside held nowhere (coherent.numbered held).symm rfl
    (.inl ⟨rfl, rfl, rfl, rfl⟩)

theorem leaveRoom_tables {owner : Option Nat} {rooms : RoomTable}
    (noted : state.roomOf? id = some place)
    (granted : state.rooms.leave place id = .ok (owner, rooms)) :
    (state.leaveRoom id).tables =
      { sessions := (((rooms.get? place).map Room.memberIds).getD []).foldl
          (fun table member => table.modify member Session.reseat)
          (state.sessions.modify id Session.stepOut)
        rooms } := by
  simp only [leaveRoom, noted, modifySession, granted, sendRoomInfo_tables]
  cases owner with
  | none =>
      rw [foldl_tables (fun member => member) fun _ => Session.reseat, List.map_id']
      · rfl
      · intro state member
        rfl
  | some owner =>
      rw [foldl_tables (fun member => member) fun _ => Session.reseat, List.map_id']
      · rfl
      · intro state member
        rfl

section

variable {before : Tables} {first last : Session → Session} {session : Session}

/-- A member leaves a room, and those who stay behind are seated again. `first` has happened to the
session of the member by then, and `last` happens to it afterwards. -/
theorem leaveRoom_withdraws (last : Session → Session) (rooms : state.rooms = before.rooms)
    (sessions : state.sessions = before.sessions.modify id first)
    (still : ∀ session, (first session).room = session.room)
    (held : before.sessions.get? id = some session) (noted : session.room = some place)
    (found : before.rooms.get? place = some room) (distinct : room.memberIds.Nodup)
    (member : id ∈ room.memberIds) :
    ((state.leaveRoom id).modifySession id last).rooms =
        before.rooms.set place (room.left? id) ∧
      ∀ other, ((state.leaveRoom id).modifySession id last).sessions.get? other =
        if other = id then
          (before.sessions.get? other).map fun session => last (first session).stepOut
        else if other ∈ room.others id then (before.sessions.get? other).map Session.reseat
        else before.sessions.get? other := by
  have here : state.roomOf? id = some place := by
    rw [roomOf?, sessions, SessionTable.get?_modify, if_pos rfl, held]
    exact (still session).trans noted
  obtain ⟨owner, granted⟩ := RoomTable.leave_eq_set found member
  have remaining : (((before.rooms.set place (room.left? id)).get? place).map
      Room.memberIds).getD [] = room.others id := by
    cases stays : room.left? id with
    | none =>
        rw [RoomTable.get?_set_none, if_pos rfl, Room.left?_eq_none.1 stays]
        rfl
    | some left =>
        rw [RoomTable.get?_set_self (RoomTable.lt_length_of_get? found),
          ← (Room.left?_eq_some stays).2.1]
        rfl
  rw [← rooms] at granted
  have changed := leaveRoom_tables here granted
  rw [rooms, remaining, sessions] at changed
  refine ⟨congrArg Tables.rooms changed, fun other => ?_⟩
  have behind := SessionTable.get?_foldl_modify (distinct.filter (· != id)) other
    (fun _ => Session.reseat) ((before.sessions.modify id first).modify id Session.stepOut)
  refine (congrArg (fun tables => (tables.sessions.modify id last).get? other) changed).trans ?_
  simp only [SessionTable.get?_modify] at behind ⊢
  rw [Room.others, behind]
  by_cases leaves : other = id
  · subst leaves
    simp [Function.comp_def]
  · simp [leaves, Ne.symm leaves]

/-- The tables agree when a member has left a room in which no match is played. -/
theorem leaveRoom_coherent (coherent : before.Coherent) (rooms : state.rooms = before.rooms)
    (sessions : state.sessions = before.sessions.modify id first)
    (still : ∀ session, (first session).room = session.room)
    (held : before.sessions.get? id = some session) (noted : session.room = some place)
    (found : before.rooms.get? place = some room) (idle : room.game = none)
    (departs : ∀ {session}, session.id = id → room.Suits session →
      (last (first session).stepOut).id = session.id ∧
        (last (first session).stepOut).room = none ∧
        (last (first session).stepOut).IsOutside) :
    ((state.leaveRoom id).modifySession id last).tables.Coherent := by
  have member := (coherent.member found held noted).1
  obtain ⟨left, changed⟩ := leaveRoom_withdraws last rooms sessions still held noted found
    (coherent.sound found).distinct member
  obtain ⟨owner, after, granted, elsewhere, outcome⟩ := RoomTable.leave_of_member found member
  obtain ⟨owner', granted'⟩ := RoomTable.leave_eq_set found member
  obtain rfl : after = before.rooms.set place (room.left? id) :=
    congrArg Prod.snd (Except.ok.inj (granted.symm.trans granted'))
  rw [← left] at elsewhere outcome
  exact coherent.withdraw found idle member changed elsewhere outcome departs

end

/-- A room is closed, whatever is in it. -/
theorem closeRoom_coherent (coherent : state.tables.Coherent) (place : Nat) :
    (state.closeRoom place).tables.Coherent := by
  unfold closeRoom
  split
  · exact coherent
  · next room found =>
      rw [foldl_tables (fun member => member) fun _ => Session.toLobby, List.map_id']
      · refine coherent.dissolve found (fun _ => Session.toLobby) ?_
          (RoomTable.eqExcept_set_none place _) ?_ ?_
        · intro id
          exact SessionTable.get?_foldl_modify (coherent.sound found).distinct id _ _
        · exact (RoomTable.get?_set_none place place _).trans (if_pos rfl)
        · rintro _ session rfl member fits
          exact ⟨rfl, rfl, .inr
            (Session.inLobby_toLobby fits.known (coherent.status_of_away found member fits))⟩
      · intro state member
        rfl

end Cardroom.Transition
