import Cardroom.Proofs.Server.Run

/-!
# What the two tables say of each other

At all times the room table and the session table say the same of who sits in which room, and the
status of a connected player tells what that room is doing. Where a match is played, the room, the
match and the two sessions say the same of who is there and whose turn it is.
-/

namespace Cardroom

def Session.roomIn? (rooms : RoomTable) (session : Session) : Option Room :=
  session.room.bind fun place => rooms.get? place

/-- The status of a connected player tells where the player is. -/
structure Session.StatusTells (rooms : RoomTable) (session : Session) : Prop where
  connected : session.status = .connected ↔ session.room = none
  inRoom : session.status = .inRoom ↔
    ∃ room, session.roomIn? rooms = some room ∧ (room.status = .waiting ∨ room.status = .ready)
  matchDone : session.status = .matchDone ↔
    ∃ room, session.roomIn? rooms = some room ∧ room.status = .finished
  inMatch : session.status = .onTurn ∨ session.status = .onWait ∨ session.status = .paused ↔
    ∃ room, session.roomIn? rooms = some room ∧ room.game.isSome

/-- What the two tables say of who is in which room. -/
structure Tables.RoomsAgree (tables : Tables) : Prop where
  /-- The members of a room are those whose sessions note it. -/
  members : ∀ slot place,
    (∃ room, tables.rooms.get? place = some room ∧ slot ∈ room.memberIds) ↔
      (∃ session, tables.sessions.get? slot = some session ∧ session.room = some place) ∧
        ∃ room, tables.rooms.get? place = some room
  /-- A room that a session notes is there. -/
  noted : ∀ slot session place, tables.sessions.get? slot = some session →
    session.room = some place → ∃ room, tables.rooms.get? place = some room
  /-- Nobody is in a room without having logged in, and nobody is away from one without a match. -/
  present : ∀ slot place room, tables.rooms.get? place = some room → slot ∈ room.memberIds →
    ∃ session, tables.sessions.get? slot = some session ∧ session.isLoggedIn ∧
      (room.game = none → session.isConnected)
  status : ∀ slot session, tables.sessions.get? slot = some session → session.isConnected →
    session.isLoggedIn → session.StatusTells tables.rooms

namespace Tables

variable {tables : Tables}

/-- Where a connected player stands is what the status tells. -/
theorem Standing.statusTells {session : Session} (coherent : tables.Coherent)
    (named : session.isLoggedIn) (standing : tables.Standing session) :
    session.StatusTells tables.rooms := by
  cases standing with
  | unknown nowhere unknown =>
      rw [Session.isLoggedIn, unknown.named] at named
      cases named
  | lobby nowhere lobby status =>
      have outside : session.roomIn? tables.rooms = none := by
        rw [Session.roomIn?, nowhere]
        rfl
      constructor <;> simp [status, nowhere, outside]
  | @resting place room noted found idle known status =>
      have inside : session.roomIn? tables.rooms = some room := by
        rw [Session.roomIn?, noted]
        exact found
      have unstarted := (coherent.sound found).idle idle
      cases stage : room.status with
      | playing =>
          exact absurd stage unstarted
      | waiting | ready | finished =>
          have status : session.status = _ := status.trans (by rw [Room.idleStatus, stage])
          constructor <;> simp [status, noted, inside, idle, stage]
  | @seated place room game noted found busy known playing =>
      have inside : session.roomIn? tables.rooms = some room := by
        rw [Session.roomIn?, noted]
        exact found
      have started := ((coherent.sound found).busy busy).1
      cases status : session.status with
      | onTurn | onWait | paused =>
          constructor <;> simp [status, noted, inside, busy, started]
      | disconnected | connected | inRoom | matchDone =>
          rw [status] at playing
          cases playing

theorem Coherent.roomsAgree (coherent : tables.Coherent) : tables.RoomsAgree where
  members := by
    intro slot place
    constructor
    · rintro ⟨room, found, member⟩
      exact ⟨coherent.seated found member, room, found⟩
    · rintro ⟨⟨session, held, noted⟩, room, found⟩
      exact ⟨room, found, (coherent.member found held noted).1⟩
  noted := by
    intro slot session place held noted
    exact coherent.noted held noted
  present := by
    intro slot place room found member
    obtain ⟨session, held, noted, fits⟩ := coherent.suits found member
    exact ⟨session, held, fits.known.named, fun idle => (fits.idle idle).1⟩
  status := by
    intro slot session held connected named
    exact (coherent.standing held connected).statusTells coherent named

/-- Whatever has happened to a server since it was started, its tables agree on who is in which
room, and the status of a connected player tells where the player is. -/
theorem run_roomsAgree (config : Config) (started : Time) (events : List Event) :
    (run config started events).RoomsAgree :=
  (run_coherent config started events).roomsAgree

end Tables

/-- The status of whoever sits at a place of the table while the match runs. -/
def Match.placeStatus (place : Nat) (game : Match) : Session.Status :=
  if place = game.current then .onTurn else .onWait

/-- What a room, the match that is played in it and the sessions of its members say of each
other. -/
structure Tables.MatchAgrees (tables : Tables) (room : Room) (game : Match) : Prop where
  started : room.status = .playing
  distinct : room.memberIds.Nodup
  full : room.memberIds.length = 2
  /-- The members sit in the order in which they came. -/
  seats : game.seats.map Seat.session = room.memberIds
  current : game.current < 2
  stage : game.status = .playing ∨ game.status = .paused
  reason : game.pauseReason.isSome ↔ game.status = .paused
  running : game.status = .playing ↔
    ∀ member ∈ room.memberIds, ∃ session, tables.sessions.get? member = some session ∧
      session.isConnected
  active : ∀ (place : Nat) (seat : Seat), game.seats[place]? = some seat →
    ∃ session, tables.sessions.get? seat.session = some session ∧
      seat.active = session.isConnected
  /-- While the match runs, the statuses say whose turn it is. -/
  turn : game.status = .playing → ∀ (place : Nat) (seat : Seat), game.seats[place]? = some seat →
    ∃ session, tables.sessions.get? seat.session = some session ∧
      session.status = game.placeStatus place
  /-- While the match is paused, the statuses that are kept say whose turn it is. -/
  pause : game.status = .paused → ∀ (place : Nat) (seat : Seat), game.seats[place]? = some seat →
    ∃ session, tables.sessions.get? seat.session = some session ∧
      session.status = (if session.isConnected then .paused else .disconnected) ∧
      session.lastStatus = game.placeStatus place

def Tables.MatchesAgree (tables : Tables) : Prop :=
  ∀ place room game, tables.rooms.get? place = some room → room.game = some game →
    tables.MatchAgrees room game

/-- Nobody sits at two places, and so a player is on turn exactly if the place is. -/
theorem Match.turnStatus_eq_placeStatus {game : Match} {place : Nat} {seat : Seat}
    (distinct : (game.seats.map Seat.session).Nodup) (current : game.current < game.seats.length)
    (sits : game.seats[place]? = some seat) :
    game.turnStatus seat.session = game.placeStatus place := by
  have turn : game.isTurnOf seat.session ↔ place = game.current := by
    rw [isTurnOf, beq_iff_eq, currentSession?]
    constructor
    · intro same
      refine ((List.getElem?_inj (by simpa using current) distinct).1 ?_).symm
      rw [List.getElem?_map, List.getElem?_map, sits, same]
      rfl
    · rintro rfl
      rw [sits]
      rfl
  simp only [turnStatus, placeStatus, turn]

namespace Tables

variable {tables : Tables}

theorem Coherent.matchAgrees (coherent : tables.Coherent) {place : Nat} {room : Room}
    {game : Match} (found : tables.rooms.get? place = some room) (busy : room.game = some game) :
    tables.MatchAgrees room game := by
  have sound := coherent.sound found
  obtain ⟨started, full, isOf⟩ := sound.busy busy
  have seats : game.seats.map Seat.session = room.memberIds := by
    rw [← Match.map_fst_players]
    exact isOf.players
  have current : game.current < game.seats.length := by
    rw [← List.length_map Seat.session, seats]
    exact isOf.current
  have turn : ∀ {place : Nat} {seat : Seat}, game.seats[place]? = some seat →
      game.turnStatus seat.session = game.placeStatus place :=
    Match.turnStatus_eq_placeStatus (seats ▸ sound.distinct) current
  have sits : ∀ {place : Nat} {seat : Seat}, game.seats[place]? = some seat →
      ∃ session, tables.sessions.get? seat.session = some session ∧ session.id = seat.session ∧
        game.Suits session := by
    intro place seat sits
    have member : seat.session ∈ room.memberIds := by
      rw [← seats]
      exact List.mem_map_of_mem (List.mem_of_getElem? sits)
    obtain ⟨session, held, _, fits⟩ := coherent.suits found member
    exact ⟨session, held, coherent.numbered held, fits.busy busy⟩
  constructor
  · exact started
  · exact sound.distinct
  · exact full
  · exact seats
  · exact Nat.lt_of_lt_of_eq isOf.current full
  · exact isOf.stage.imp And.left And.left
  · exact isOf.pauseReason_isSome_iff
  · constructor
    · intro running member present
      obtain ⟨session, held, _, fits⟩ := coherent.suits found present
      refine ⟨session, held, isOf.isConnected running (fits.busy busy).active ?_⟩
      rw [coherent.numbered held]
      exact present
    · intro connected
      refine isOf.playing_iff.2 (Match.allActive_iff.2 ?_)
      rintro ⟨member, active⟩ there
      have present : member ∈ room.memberIds := by
        rw [← isOf.players]
        exact List.mem_map_of_mem there
      obtain ⟨session, held, _, fits⟩ := coherent.suits found present
      obtain ⟨other, held', here⟩ := connected member present
      obtain rfl : session = other := Option.some.inj (held.symm.trans held')
      have same : active = session.isConnected := by
        apply (fits.busy busy).active
        rw [coherent.numbered held]
        exact there
      exact same.trans here
  · intro place seat there
    obtain ⟨session, held, same, suits⟩ := sits there
    refine ⟨session, held, suits.active ?_⟩
    rw [same]
    exact List.mem_map_of_mem (List.mem_of_getElem? there)
  · intro running place seat there
    obtain ⟨session, held, same, suits⟩ := sits there
    refine ⟨session, held, ?_⟩
    rw [suits.running running, same, turn there]
  · intro paused place seat there
    obtain ⟨session, held, same, suits⟩ := sits there
    obtain ⟨status, last⟩ := suits.paused paused
    refine ⟨session, held, status, ?_⟩
    rw [last, same, turn there]

/-- Whatever has happened to a server since it was started, every match that is played agrees with
its room and with the sessions of its players. -/
theorem run_matchesAgree (config : Config) (started : Time) (events : List Event) :
    (run config started events).MatchesAgree :=
  fun _ _ _ found busy => (run_coherent config started events).matchAgrees found busy

/-- Two players meet in a room and start a match, from which the second one is dropped. -/
example :
    let send (slot : Nat) (type : MessageType) (payload : String) : Event :=
      .frame { now := 1, token := .nth slot, shuffle := .still } slot slot { type, payload }
    let tables := run {} 0
      [.accept 0 0, .accept 0 1, send 0 .login "ann", send 1 .login "ben",
        send 0 .createRoom "den", send 1 .joinRoom "0", send 0 .ready "1", send 1 .ready "1",
        send 0 .start "", .disconnect 5 1 1]
    ((tables.rooms.get? 0).bind Room.game).map Match.status = some .paused ∧
      (tables.sessions.get? 0).map (fun session => (session.status, session.lastStatus)) =
        some (.paused, .onTurn) ∧
      (tables.sessions.get? 1).map (fun session => (session.status, session.lastStatus)) =
        some (.disconnected, .onWait) := by
  decide +kernel

end Tables

end Cardroom
