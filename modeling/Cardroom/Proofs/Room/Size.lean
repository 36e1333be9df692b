import Cardroom.Proofs.Match.Size
import Cardroom.Proofs.Session.Login
import Cardroom.Room.Table

/-!
# How long the texts about rooms are

Names of rooms and players are short, and so is what is said of a room to its members and of all
rooms in the lobby, as long as there are few rooms.
-/

namespace Cardroom

def SessionTable.NamesShort (table : SessionTable) : Prop :=
  ∀ id session nick, table.get? id = some session → session.nick = some nick →
    nick.utf8ByteSize ≤ LoginRequest.longestNick

namespace SessionTable.NamesShort

variable {table : SessionTable}

theorem name (short : table.NamesShort) (id : Nat) :
    (((table.get? id).map Session.name).getD "").utf8ByteSize ≤ LoginRequest.longestNick := by
  cases held : table.get? id with
  | none =>
      exact Nat.zero_le _
  | some session =>
      cases named : session.nick with
      | none =>
          simp [Session.name, named]
      | some nick =>
          simpa [Session.name, named] using short id session nick held named

theorem modify (short : table.NamesShort) (id : Nat) {change : Session → Session}
    (changed : ∀ session nick, (change session).nick = some nick →
      session.nick = some nick ∨ nick.utf8ByteSize ≤ LoginRequest.longestNick) :
    (table.modify id change).NamesShort := by
  intro other session nick held named
  rw [get?_modify] at held
  split at held
  · obtain ⟨before, there, rfl⟩ := Option.map_eq_some_iff.1 held
    rcases changed before nick named with old | new
    · exact short other before nick there old
    · exact new
  · exact short other session nick held named

end SessionTable.NamesShort

/-- The most rooms with which the list of rooms is known to fit into a frame. -/
def RoomTable.mostRooms : Nat := 100

/-- What bounds the texts about a room. -/
structure Room.Bounded (room : Room) : Prop where
  id : room.id < RoomTable.mostRooms
  name : room.name.utf8ByteSize ≤ Room.longestName
  members : room.members.length ≤ Room.places
  game : ∀ game, room.game = some game → game.Bounded

structure RoomTable.Bounded (table : RoomTable) : Prop where
  slots : table.slots.length ≤ RoomTable.mostRooms
  rooms : ∀ id room, table.get? id = some room → room.Bounded

namespace Room

def longestLine : Nat := 28

def longestMember : Nat := 48

end Room

namespace Room.Bounded

variable {room : Room}

theorem refreshStatus (bounded : room.Bounded) : room.refreshStatus.Bounded := by
  unfold Room.refreshStatus
  split <;> exact ⟨bounded.id, bounded.name, bounded.members, bounded.game⟩

theorem resetReady (bounded : room.Bounded) : room.resetReady.Bounded := by
  refine refreshStatus ⟨bounded.id, bounded.name, ?_, bounded.game⟩
  rw [List.length_map]
  exact bounded.members

theorem setGame (bounded : room.Bounded) {game : Match} (sound : game.Bounded) :
    ({ room with game := some game } : Room).Bounded where
  id := bounded.id
  name := bounded.name
  members := bounded.members
  game := fun _ same => Option.some.inj same ▸ sound

theorem beginMatch (bounded : room.Bounded) {game : Match} (sound : game.Bounded) :
    (room.beginMatch game).Bounded := by
  have set := bounded.setGame sound
  exact resetReady ⟨set.id, set.name, set.members, set.game⟩

theorem finishMatch (bounded : room.Bounded) : room.finishMatch.Bounded :=
  resetReady ⟨bounded.id, bounded.name, bounded.members, nofun⟩

/-- The line of a room in the list of rooms. -/
theorem summary (bounded : room.Bounded) : room.summary.utf8ByteSize ≤ longestLine := by
  have number : (toString room.id).utf8ByteSize ≤ 2 :=
    Text.utf8ByteSize_toString_le (by decide) bounded.id
  have name := bounded.name
  have count : (toString room.members.length).utf8ByteSize ≤ 1 :=
    Text.utf8ByteSize_toString_le (by decide) (Nat.lt_of_le_of_lt bounded.members (by decide))
  have symbol : room.status.symbol.utf8Size = 1 := by
    cases room.status <;> rfl
  simp only [Room.summary, String.utf8ByteSize_append, String.utf8ByteSize_singleton, symbol,
    show "|".utf8ByteSize = 1 by decide, show "|(".utf8ByteSize = 2 by decide,
    show "/".utf8ByteSize = 1 by decide, show ")|".utf8ByteSize = 2 by decide,
    show ",\n".utf8ByteSize = 2 by decide, show (toString places).utf8ByteSize = 1 by decide,
    longestName, longestLine] at name ⊢
  omega

theorem memberInfo {sessions : SessionTable} (short : sessions.NamesShort) (room : Room)
    (member : Member) :
    (room.memberInfo sessions member).utf8ByteSize ≤ longestMember := by
  have name := short.name member.session
  have ready : (if member.ready then "READY" else "NOT READY").utf8ByteSize ≤ 9 := by
    split <;> decide
  have owner : (if member.session = room.owner then "OWNER" else "GUEST").utf8ByteSize = 5 := by
    split <;> decide
  simp only [Room.memberInfo, String.utf8ByteSize_append, owner,
    show "|".utf8ByteSize = 1 by decide, show ",".utf8ByteSize = 1 by decide,
    LoginRequest.longestNick, longestMember] at name ⊢
  omega

/-- What the members are told of each other. -/
theorem info (bounded : room.Bounded) {sessions : SessionTable} (short : sessions.NamesShort) :
    (room.info sessions).utf8ByteSize ≤ places * longestMember := by
  have each : ∀ text ∈ room.members.map (room.memberInfo sessions),
      text.utf8ByteSize ≤ longestMember := by
    intro text member
    obtain ⟨shown, _, rfl⟩ := List.mem_map.1 member
    exact memberInfo short room shown
  refine Nat.le_trans (Text.utf8ByteSize_join_le each) ?_
  rw [List.length_map]
  exact Nat.mul_le_mul_right _ bounded.members

end Room.Bounded

namespace RoomTable.Bounded

variable {table after : RoomTable}

theorem vacant {capacity : Nat} (few : capacity ≤ mostRooms) :
    (RoomTable.vacant capacity).Bounded where
  slots := by
    simpa [RoomTable.vacant] using few
  rooms := by
    intro id room found
    rw [get?_vacant] at found
    cases found

theorem lt_mostRooms (bounded : table.Bounded) {id : Nat} {room : Room}
    (found : table.get? id = some room) : id < mostRooms :=
  Nat.lt_of_lt_of_le (lt_length_of_get? found) bounded.slots

theorem set_none (bounded : table.Bounded) (id : Nat) : (table.set id none).Bounded where
  slots := by
    rw [set, List.length_set]
    exact bounded.slots
  rooms := by
    intro other room found
    rw [get?_set_none] at found
    split at found
    · cases found
    · exact bounded.rooms other room found

theorem set_some (bounded : table.Bounded) {id : Nat} (inside : id < table.slots.length)
    {room : Room} (sound : room.Bounded) : (table.set id (some room)).Bounded where
  slots := by
    rw [set, List.length_set]
    exact bounded.slots
  rooms := by
    intro other found there
    rw [get?_set_some inside] at there
    split at there
    · cases there
      exact sound
    · exact bounded.rooms other found there

theorem modify (bounded : table.Bounded) (id : Nat) {change : Room → Room}
    (changed : ∀ room : Room, room.Bounded → (change room).Bounded) :
    (table.modify id change).Bounded where
  slots := by
    rw [RoomTable.modify, List.length_modify]
    exact bounded.slots
  rooms := by
    intro other room found
    rw [get?_modify] at found
    split at found
    · obtain ⟨before, there, rfl⟩ := Option.map_eq_some_iff.1 found
      exact changed before (bounded.rooms other before there)
    · exact bounded.rooms other room found

theorem create {name : String} {creator id : Nat} (bounded : table.Bounded)
    (granted : table.create name creator = .ok (id, after)) :
    after.Bounded ∧ id < mostRooms := by
  unfold RoomTable.create at granted
  split at granted
  · cases granted
  · next acceptable =>
      split at granted
      · cases granted
      · next place first =>
          cases granted
          obtain ⟨inside, _, _⟩ := List.findIdx?_eq_some_iff_getElem.1 first
          have few := Nat.lt_of_lt_of_le inside bounded.slots
          refine ⟨bounded.set_some inside ⟨few, ?_, Nat.le_succ 1, nofun⟩, few⟩
          exact Nat.le_of_not_lt (not_or.1 acceptable).2

theorem join {id session : Nat} (bounded : table.Bounded)
    (granted : table.join id session = .ok after) :
    after.Bounded ∧ id < mostRooms := by
  unfold RoomTable.join at granted
  split at granted
  · cases granted
  · next room found =>
      split at granted
      · cases granted
      · split at granted
        · cases granted
        · split at granted
          · cases granted
          · next space =>
              cases granted
              have sound := bounded.rooms id room found
              refine ⟨bounded.set_some (lt_length_of_get? found) ?_, bounded.lt_mostRooms found⟩
              refine Room.Bounded.refreshStatus ⟨sound.id, sound.name, ?_, sound.game⟩
              simp only [List.length_append, List.length_singleton]
              omega

theorem leave {id session : Nat} {owner : Option Nat} (bounded : table.Bounded)
    (granted : table.leave id session = .ok (owner, after)) :
    after.Bounded := by
  unfold RoomTable.leave at granted
  split at granted
  · cases granted
  · next room found =>
      have sound := bounded.rooms id room found
      have fewer : (room.members.filter fun member => member.session != session).length ≤
          Room.places :=
        Nat.le_trans (List.length_filter_le _ _) sound.members
      have inside := lt_length_of_get? found
      simp only at granted
      split at granted
      · cases granted
      · split at granted
        · cases granted
          exact bounded.set_none id
        · split at granted <;> cases granted <;>
            exact bounded.set_some inside
              (Room.Bounded.refreshStatus ⟨sound.id, sound.name, fewer, nofun⟩)

theorem setReady {id session count : Nat} {ready : Bool} (bounded : table.Bounded)
    (granted : table.setReady id session ready = .ok (count, after)) :
    after.Bounded ∧ count ≤ Room.places := by
  unfold RoomTable.setReady at granted
  split at granted
  · cases granted
  · next room found =>
      split at granted
      · cases granted
      · next place first =>
          cases granted
          have sound := bounded.rooms id room found
          have same : (room.members.modify place fun member => { member with ready }).length ≤
              Room.places :=
            Nat.le_trans (Nat.le_of_eq (List.length_modify ..)) sound.members
          refine ⟨bounded.set_some (lt_length_of_get? found) ?_, ?_⟩
          · exact Room.Bounded.refreshStatus ⟨sound.id, sound.name, same, sound.game⟩
          · exact Nat.le_trans List.countP_le_length same

/-- The list of rooms. -/
theorem list {text : String} (bounded : table.Bounded) (listed : table.list? = some text) :
    text.utf8ByteSize ≤ mostRooms * Room.longestLine := by
  unfold list? at listed
  split at listed
  · cases listed
  · cases listed
    have each : ∀ line ∈ table.rooms.map Room.summary, line.utf8ByteSize ≤ Room.longestLine := by
      intro line member
      obtain ⟨room, listed, rfl⟩ := List.mem_map.1 member
      obtain ⟨id, found⟩ := mem_rooms.1 listed
      exact (bounded.rooms id room found).summary
    refine Nat.le_trans (Text.utf8ByteSize_join_le each) ?_
    rw [List.length_map]
    refine Nat.mul_le_mul_right _ (Nat.le_trans ?_ bounded.slots)
    exact List.length_filterMap_le _ _

end RoomTable.Bounded

end Cardroom
