import Cardroom.Room

/-!
# The room table

The rooms of the server, numbered from zero. A room is gone when its last member has left.
-/

namespace Cardroom

inductive RoomError where
  | notFound
  | alreadyStarted
  | full
  | alreadyMember
  | notMember
  | notEmpty
  | noFreeSlot
  | invalidName
deriving DecidableEq, Repr

namespace RoomError

def message : RoomError → String
  | notFound => "Room not found"
  | alreadyStarted => "Game already started"
  | full => "Room is full"
  | alreadyMember => "Already in this room"
  | notMember => "Not a member of this room"
  | notEmpty => "Room is not empty"
  | noFreeSlot => "No free room slot"
  | invalidName => "Room name must be 1 to 15 characters"

end RoomError

/-- All rooms. Each has a slot, and the other slots are free. -/
structure RoomTable where
  slots : List (Option Room)
deriving DecidableEq, Repr

namespace RoomTable

def vacant (capacity : Nat) : RoomTable where
  slots := List.replicate capacity none

def get? (id : Nat) (table : RoomTable) : Option Room :=
  table.slots[id]?.join

theorem get?_vacant (capacity id : Nat) : (vacant capacity).get? id = none := by
  rw [get?, vacant, List.getElem?_replicate]
  split <;> rfl

def rooms (table : RoomTable) : List Room :=
  table.slots.filterMap id

def set (id : Nat) (room : Option Room) (table : RoomTable) : RoomTable where
  slots := table.slots.set id room

/-- Changes one room. There may be no room of that number, and then nothing changes. -/
def modify (id : Nat) (change : Room → Room) (table : RoomTable) : RoomTable where
  slots := table.slots.modify id fun room => room.map change

theorem get?_set_none (id other : Nat) (table : RoomTable) :
    (table.set id none).get? other = if id = other then none else table.get? other := by
  simp only [get?, set, List.getElem?_set]
  split
  · split <;> rfl
  · rfl

theorem get?_set_some {id : Nat} {table : RoomTable} (bound : id < table.slots.length)
    (room : Room) (other : Nat) :
    (table.set id (some room)).get? other = if id = other then some room else table.get? other := by
  simp only [get?, set, List.getElem?_set, bound, if_true]
  split <;> rfl

theorem get?_set_self {id : Nat} {table : RoomTable} (bound : id < table.slots.length)
    (room : Room) :
    (table.set id (some room)).get? id = some room := by
  rw [get?_set_some bound, if_pos rfl]

theorem get?_modify (id other : Nat) (change : Room → Room) (table : RoomTable) :
    (table.modify id change).get? other =
      if id = other then (table.get? other).map change else table.get? other := by
  simp only [get?, modify, List.getElem?_modify]
  cases table.slots[other]? with
  | none =>
      simp
  | some room =>
      split <;> simp_all

theorem get?_modify_self {id : Nat} {table : RoomTable} {room : Room}
    (found : table.get? id = some room) (change : Room → Room) :
    (table.modify id change).get? id = some (change room) := by
  rw [get?_modify, if_pos rfl, found, Option.map_some]

theorem lt_length_of_get? {id : Nat} {table : RoomTable} {room : Room}
    (found : table.get? id = some room) :
    id < table.slots.length :=
  (List.getElem?_eq_some_iff.1 (Option.join_eq_some_iff.1 found)).1

theorem mem_rooms {room : Room} {table : RoomTable} :
    room ∈ table.rooms ↔ ∃ id, table.get? id = some room := by
  rw [rooms, List.mem_filterMap]
  simp only [id, exists_eq_right, get?, List.mem_iff_getElem?, Option.join_eq_some_iff]

/-- Opens a room in the first free slot, and gives its number. -/
def create (name : String) (creator : Nat) (table : RoomTable) :
    Except RoomError (Nat × RoomTable) :=
  if name = "" ∨ Room.longestName < name.utf8ByteSize then
    .error .invalidName
  else
    match table.slots.findIdx? Option.isNone with
    | none => .error .noFreeSlot
    | some id => .ok (id, table.set id (some (Room.opened id name creator)))

def join (id session : Nat) (table : RoomTable) : Except RoomError RoomTable :=
  match table.get? id with
  | none => .error .notFound
  | some room =>
      if room.isMember session then
        .error .alreadyMember
      else if room.status = .playing ∨ room.status = .finished then
        .error .alreadyStarted
      else if Room.places ≤ room.members.length then
        .error .full
      else
        let newcomer : Member := { session }
        let joined := { room with members := room.members ++ [newcomer] }
        .ok (table.set id (some joined.refreshStatus))

/-- Takes a member out of a room, and gives the new owner if the old one has left. A match that was
running is dropped. With its last member the room goes. -/
def leave (id session : Nat) (table : RoomTable) :
    Except RoomError (Option Nat × RoomTable) :=
  match table.get? id with
  | none => .error .notFound
  | some room =>
      if !room.isMember session then
        .error .notMember
      else
        let members := room.members.filter fun member => member.session != session
        match (members.map Member.session).min? with
        | none => .ok (none, table.set id none)
        | some lowest =>
            let left := { room with members, game := none, status := .waiting }
            if room.owner = session then
              .ok (some lowest, table.set id (some { left with owner := lowest }.refreshStatus))
            else
              .ok (none, table.set id (some left.refreshStatus))

def setReady (id session : Nat) (ready : Bool) (table : RoomTable) :
    Except RoomError (Nat × RoomTable) :=
  match table.get? id with
  | none => .error .notFound
  | some room =>
      match room.members.findIdx? fun member => member.session == session with
      | none => .error .notMember
      | some place =>
          let members := room.members.modify place fun member => { member with ready }
          let changed := { room with members }
          .ok (changed.readyCount, table.set id (some changed.refreshStatus))

def delete (id : Nat) (table : RoomTable) : Except RoomError RoomTable :=
  match table.get? id with
  | none => .error .notFound
  | some room => if room.members ≠ [] then .error .notEmpty else .ok (table.set id none)

/-- Frees the slot of a room, whoever is in it. -/
def remove (id : Nat) (table : RoomTable) : RoomTable :=
  table.set id none

def findBySession? (session : Nat) (table : RoomTable) : Option Nat :=
  (table.rooms.find? fun room => room.isMember session).map Room.id

def list? (table : RoomTable) : Option String :=
  match table.rooms with
  | [] => none
  | rooms => some (String.join (rooms.map Room.summary))

def broadcast (id : Nat) (sessions : SessionTable) (type : MessageType) (payload : String)
    (exception : Option Nat) (table : RoomTable) (outbox : Outbox) : Outbox :=
  match table.get? id with
  | none => outbox
  | some room =>
      (room.memberIds.filter fun member => some member != exception).foldl
        (fun outbox member => sessions.notify member type payload outbox) outbox

end RoomTable

end Cardroom
