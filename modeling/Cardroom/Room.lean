import Cardroom.Match
import Cardroom.Session.Table

/-!
# Rooms

Two players meet in a room, and play matches in it. The room holds the match while it runs. The
player who opened the room owns it, and only the owner starts the first match.
-/

namespace Cardroom

inductive Room.Status where
  /-- Somebody is missing or not ready. -/
  | waiting
  /-- Everyone is there and ready. -/
  | ready
  | playing
  /-- A match has ended and the players have not left. -/
  | finished
deriving DecidableEq, Repr

namespace Room.Status

/-- The letter that stands for a status in the list of rooms. -/
def symbol : Room.Status → Char
  | waiting => 'W'
  | ready => 'R'
  | playing => 'P'
  | finished => 'F'

end Room.Status

structure Member where
  /-- The player, named by the slot of the session. -/
  session : Nat
  ready : Bool := false
deriving DecidableEq, Repr

/-- A room. The members are in the order in which they came, and the first one takes the seat that
begins. -/
structure Room where
  id : Nat
  name : String
  status : Room.Status := .waiting
  owner : Nat
  members : List Member
  game : Option Match := none
deriving DecidableEq, Repr

namespace Room

/-- The number of players that a room is for. -/
def places : Nat := 2

def longestName : Nat := 15

def opened (id : Nat) (name : String) (creator : Nat) : Room where
  id
  name
  owner := creator
  members := [{ session := creator }]

def isMember (session : Nat) (room : Room) : Bool :=
  room.members.any fun member => member.session == session

def memberIds (room : Room) : List Nat :=
  room.members.map Member.session

def others (session : Nat) (room : Room) : List Nat :=
  room.memberIds.filter (· != session)

def readyCount (room : Room) : Nat :=
  room.members.countP Member.ready

/-- Whether the room is full and every member is ready. -/
def allReady (room : Room) : Bool :=
  room.members.length == places && room.readyCount == room.members.length

/-- Brings the status into line with the members, unless a match has begun. -/
def refreshStatus (room : Room) : Room :=
  match room.status with
  | .waiting | .ready =>
      { room with status := if room.allReady then .ready else .waiting }
  | .playing | .finished => room

@[simp]
theorem refreshStatus_id (room : Room) : room.refreshStatus.id = room.id := by
  unfold refreshStatus
  split <;> rfl

@[simp]
theorem refreshStatus_members (room : Room) : room.refreshStatus.members = room.members := by
  unfold refreshStatus
  split <;> rfl

@[simp]
theorem refreshStatus_game (room : Room) : room.refreshStatus.game = room.game := by
  unfold refreshStatus
  split <;> rfl

/-- Where a match has begun or ended, the members do not matter for the status. -/
theorem refreshStatus_status_eq_iff (room : Room) {status : Room.Status}
    (begun : status = .playing ∨ status = .finished) :
    room.refreshStatus.status = status ↔ room.status = status := by
  unfold refreshStatus
  rcases begun with rfl | rfl <;>
    cases stage : room.status <;> simp only [stage] <;> split <;> simp

def resetReady (room : Room) : Room :=
  refreshStatus
    { room with members := room.members.map fun member => { member with ready := false } }

@[simp]
theorem resetReady_id (room : Room) : room.resetReady.id = room.id := by
  simp [resetReady]

@[simp]
theorem resetReady_memberIds (room : Room) : room.resetReady.memberIds = room.memberIds := by
  simp [resetReady, memberIds]

@[simp]
theorem resetReady_game (room : Room) : room.resetReady.game = room.game := by
  simp [resetReady]

def beginMatch (game : Match) (room : Room) : Room :=
  resetReady { room with game := some game, status := .playing }

/-- The match is over. The members stay, and may play again. -/
def finishMatch (room : Room) : Room :=
  resetReady { room with game := none, status := .finished }

@[simp]
theorem beginMatch_id (game : Match) (room : Room) : (room.beginMatch game).id = room.id := by
  simp [beginMatch]

@[simp]
theorem beginMatch_memberIds (game : Match) (room : Room) :
    (room.beginMatch game).memberIds = room.memberIds := by
  rw [beginMatch, resetReady_memberIds]
  rfl

@[simp]
theorem beginMatch_game (game : Match) (room : Room) : (room.beginMatch game).game = some game := by
  simp [beginMatch]

@[simp]
theorem beginMatch_status (game : Match) (room : Room) :
    (room.beginMatch game).status = .playing :=
  rfl

@[simp]
theorem finishMatch_id (room : Room) : room.finishMatch.id = room.id := by
  simp [finishMatch]

@[simp]
theorem finishMatch_memberIds (room : Room) : room.finishMatch.memberIds = room.memberIds := by
  rw [finishMatch, resetReady_memberIds]
  rfl

@[simp]
theorem finishMatch_game (room : Room) : room.finishMatch.game = none := by
  simp [finishMatch]

@[simp]
theorem finishMatch_status (room : Room) : room.finishMatch.status = .finished :=
  rfl

/-- The room as a line of the list of rooms. -/
def summary (room : Room) : String :=
  toString room.id ++ "|" ++ room.name ++ "|(" ++ toString room.members.length ++ "/" ++
    toString places ++ ")|" ++ String.singleton room.status.symbol ++ ",\n"

def memberInfo (sessions : SessionTable) (room : Room) (member : Member) : String :=
  ((sessions.get? member.session).map Session.name).getD "" ++ "|" ++
    (if member.ready then "READY" else "NOT READY") ++ "|" ++
    (if member.session = room.owner then "OWNER" else "GUEST") ++ ","

def info (sessions : SessionTable) (room : Room) : String :=
  String.join (room.members.map (room.memberInfo sessions))

end Room

end Cardroom
