import Cardroom.Proofs.Match.Seats
import Cardroom.Proofs.Room.Table
import Cardroom.Server.Transition

/-!
# Tables that agree

The room table says who sits in which room and who is on turn, and so do the sessions. `Coherent`
says that the two tables agree, and in which shape each session and each room is. `Standing` lists
where a connected player can be, so that the status tells it.
-/

namespace Cardroom

namespace Session

structure IsUnknown (session : Session) : Prop where
  named : session.nick = none
  tokened : session.token = none
  dated : session.disconnectedAt = none
  status : session.status = .disconnected

/-- A known player who is in no room: in the lobby, or away and expected there. -/
structure InLobby (session : Session) : Prop where
  known : session.IsKnown
  here : session.isConnected → session.status = .connected
  away : session.isConnected = false →
    session.status = .disconnected ∧ session.lastStatus = .connected

def IsOutside (session : Session) : Prop :=
  session.IsUnknown ∨ session.InLobby

/-- Whoever is sent to the lobby is there, or is expected there. -/
theorem inLobby_toLobby {session : Session} (known : session.IsKnown)
    (away : session.isConnected = false → session.status = .disconnected) :
    session.toLobby.InLobby where
  known := ⟨known.named, known.tokened, known.dated⟩
  here := by
    intro connected
    exact if_pos connected
  away := by
    intro gone
    have status : session.toLobby.status = session.status :=
      if_neg (Bool.not_eq_true _ ▸ gone)
    exact ⟨status.trans (away gone), rfl⟩

end Session

namespace Room

/-- The status of a member while no match is played. -/
def idleStatus (room : Room) : Session.Status :=
  if room.status = .finished then .matchDone else .inRoom

structure IsSound (id : Nat) (room : Room) : Prop where
  numbered : room.id = id
  distinct : room.memberIds.Nodup
  space : room.memberIds.length ≤ places
  idle : room.game = none → room.status ≠ .playing
  busy : ∀ {game}, room.game = some game →
    room.status = .playing ∧ room.memberIds.length = places ∧ game.IsOf room.memberIds

/-- A session agrees with the room of which its player is a member. Nobody is away from a room
without a match. -/
structure Suits (room : Room) (session : Session) : Prop where
  known : session.IsKnown
  idle : room.game = none → session.isConnected ∧ session.status = room.idleStatus
  busy : ∀ {game}, room.game = some game → game.Suits session

theorem mem_others {session member : Nat} {room : Room} :
    member ∈ room.others session ↔ member ∈ room.memberIds ∧ member ≠ session := by
  simp [others]

section

variable {id : Nat} {room : Room} {game : Match} {session : Session}

theorem IsSound.of_idle (numbered : room.id = id) (distinct : room.memberIds.Nodup)
    (space : room.memberIds.length ≤ places) (idle : room.game = none)
    (status : room.status ≠ .playing) :
    room.IsSound id where
  numbered := numbered
  distinct := distinct
  space := space
  idle _ := status
  busy := by
    intro game busy
    rw [idle] at busy
    cases busy

theorem IsSound.of_busy (numbered : room.id = id) (distinct : room.memberIds.Nodup)
    (full : room.memberIds.length = places) (busy : room.game = some game)
    (status : room.status = .playing) (isOf : game.IsOf room.memberIds) :
    room.IsSound id where
  numbered := numbered
  distinct := distinct
  space := Nat.le_of_eq full
  idle := by
    intro idle
    rw [busy] at idle
    cases idle
  busy := by
    intro other there
    rw [busy] at there
    cases there
    exact ⟨status, full, isOf⟩

/-- The members of a room are the players of its match. -/
theorem IsSound.sessions (sound : room.IsSound id) (busy : room.game = some game) :
    game.seats.map Seat.session = room.memberIds := by
  obtain ⟨-, -, isOf⟩ := sound.busy busy
  rw [← Match.map_fst_players, isOf.players]

theorem IsSound.nodup_seats (sound : room.IsSound id) (busy : room.game = some game) :
    (game.seats.map Seat.session).Nodup :=
  sound.sessions busy ▸ sound.distinct

theorem Suits.of_idle (known : session.IsKnown) (idle : room.game = none)
    (connected : session.isConnected) (status : session.status = room.idleStatus) :
    room.Suits session where
  known := known
  idle _ := ⟨connected, status⟩
  busy := by
    intro game busy
    rw [idle] at busy
    cases busy

theorem Suits.of_busy (known : session.IsKnown) (busy : room.game = some game)
    (suits : game.Suits session) :
    room.Suits session where
  known := known
  idle := by
    intro idle
    rw [busy] at idle
    cases idle
  busy := by
    intro other there
    rw [busy] at there
    cases there
    exact suits

end

end Room

inductive Session.Sits (rooms : RoomTable) (session : Session) : Prop
  | outside : session.room = none → session.IsOutside → Sits rooms session
  | inside {id : Nat} {room : Room} :
      session.room = some id →
      rooms.get? id = some room →
      session.id ∈ room.memberIds →
      room.Suits session →
      Sits rooms session

/-- The room that a session notes exists, and the session agrees with it. -/
theorem Session.Sits.suits {rooms : RoomTable} {session : Session} {id : Nat} {room : Room}
    (sits : session.Sits rooms) (noted : session.room = some id)
    (found : rooms.get? id = some room) :
    session.id ∈ room.memberIds ∧ room.Suits session := by
  cases sits with
  | outside nowhere outside =>
      rw [nowhere] at noted
      cases noted
  | inside other there member suits =>
      rw [noted] at other
      cases other
      rw [found] at there
      cases there
      exact ⟨member, suits⟩

/-- A change of another room makes no difference to a session. -/
theorem Session.Sits.of_eqExcept {before after : RoomTable} {session : Session} {place : Nat}
    (sits : session.Sits before) (elsewhere : before.EqExcept place after)
    (apart : session.room ≠ some place) :
    session.Sits after := by
  cases sits with
  | outside nowhere outside =>
      exact .outside nowhere outside
  | @inside id room noted found member suits =>
      have different : id ≠ place := by
        rintro rfl
        exact apart noted
      exact .inside noted ((elsewhere id different).trans found) member suits

namespace Tables

/-- The two tables agree. -/
structure Coherent (tables : Tables) : Prop where
  numbered : ∀ {id session}, tables.sessions.get? id = some session → session.id = id
  sits : ∀ {id session}, tables.sessions.get? id = some session → session.Sits tables.rooms
  sound : ∀ {id room}, tables.rooms.get? id = some room → room.IsSound id
  seated : ∀ {id room member}, tables.rooms.get? id = some room → member ∈ room.memberIds →
    ∃ session, tables.sessions.get? member = some session ∧ session.room = some id

namespace Coherent

variable {before after : Tables} {place : Nat}

/-- A room that a session notes is there. -/
theorem noted (coherent : before.Coherent) {id : Nat} {session : Session}
    (held : before.sessions.get? id = some session) (noted : session.room = some place) :
    ∃ room, before.rooms.get? place = some room := by
  cases coherent.sits held with
  | outside nowhere _ =>
      rw [nowhere] at noted
      cases noted
  | inside other found =>
      rw [noted] at other
      cases other
      exact ⟨_, found⟩

/-- The session of a member. -/
theorem suits (coherent : before.Coherent) {room : Room} {member : Nat}
    (found : before.rooms.get? place = some room) (here : member ∈ room.memberIds) :
    ∃ session, before.sessions.get? member = some session ∧ session.room = some place ∧
      room.Suits session := by
  obtain ⟨session, held, noted⟩ := coherent.seated found here
  exact ⟨session, held, noted, ((coherent.sits held).suits noted found).2⟩

/-- A session whose room is of the given number is the session of a member. -/
theorem member (coherent : before.Coherent) {room : Room} {id : Nat} {session : Session}
    (found : before.rooms.get? place = some room)
    (held : before.sessions.get? id = some session) (noted : session.room = some place) :
    id ∈ room.memberIds ∧ room.Suits session := by
  have placed := (coherent.sits held).suits noted found
  rwa [coherent.numbered held] at placed

/-- Nobody sits in a room without having logged in. -/
theorem room_of_unnamed (coherent : before.Coherent) {id : Nat} {session : Session}
    (held : before.sessions.get? id = some session) (unnamed : session.nick = none) :
    session.room = none := by
  cases coherent.sits held with
  | outside nowhere _ =>
      exact nowhere
  | inside _ _ _ fits =>
      have named := fits.known.named
      rw [unnamed] at named
      cases named

end Coherent

inductive Standing (tables : Tables) (session : Session) : Prop
  | unknown : session.room = none → session.IsUnknown → Standing tables session
  | lobby :
      session.room = none → session.InLobby → session.status = .connected →
      Standing tables session
  | resting {place : Nat} {room : Room} :
      session.room = some place → tables.rooms.get? place = some room → room.game = none →
      session.IsKnown → session.status = room.idleStatus →
      Standing tables session
  | seated {place : Nat} {room : Room} {game : Match} :
      session.room = some place → tables.rooms.get? place = some room → room.game = some game →
      session.IsKnown → session.status.inMatch →
      Standing tables session

theorem Coherent.standing {tables : Tables} {id : Nat} {session : Session}
    (coherent : tables.Coherent) (held : tables.sessions.get? id = some session)
    (connected : session.isConnected) :
    tables.Standing session := by
  cases coherent.sits held with
  | outside nowhere outside =>
      rcases outside with unknown | lobby
      · exact .unknown nowhere unknown
      · exact .lobby nowhere lobby (lobby.here connected)
  | @inside place room noted found member fits =>
      cases played : room.game with
      | none =>
          exact .resting noted found played fits.known (fits.idle played).2
      | some game =>
          refine .seated noted found played fits.known ?_
          have suits := fits.busy played
          obtain ⟨_, _, isOf⟩ := (coherent.sound found).busy played
          by_cases running : game.status = .playing
          · rw [suits.running running, Match.turnStatus]
            split <;> rfl
          · rw [(suits.paused (isOf.paused_of_not_playing running)).1, if_pos connected]
            rfl

/-- A member who is away sits in a match that is paused. -/
theorem Coherent.status_of_away {tables : Tables} {place : Nat} {room : Room} {session : Session}
    (coherent : tables.Coherent) (found : tables.rooms.get? place = some room)
    (member : session.id ∈ room.memberIds) (fits : room.Suits session)
    (away : session.isConnected = false) :
    session.status = .disconnected := by
  cases played : room.game with
  | none =>
      rw [(fits.idle played).1] at away
      cases away
  | some game =>
      have suits := fits.busy played
      obtain ⟨_, _, isOf⟩ := (coherent.sound found).busy played
      by_cases running : game.status = .playing
      · rw [isOf.isConnected running suits.active member] at away
        cases away
      · rw [(suits.paused (isOf.paused_of_not_playing running)).1, away]
        rfl

end Tables

namespace Transition

variable {state : Transition}

/-- A player for whom no room is noted is a member of none. -/
theorem findRoom_eq_self (coherent : state.tables.Coherent) (id : Nat) :
    state.findRoom id = state := by
  have sessions : (state.findRoom id).sessions = state.sessions := by
    apply SessionTable.modify_eq_self
    intro session held
    have same : (session.room <|> state.rooms.findBySession? id) = session.room := by
      cases noted : session.room with
      | some room =>
          rfl
      | none =>
          show state.rooms.findBySession? id = none
          rw [RoomTable.findBySession?, Option.map_eq_none_iff, List.find?_eq_none]
          intro room listed member
          obtain ⟨place, found⟩ := RoomTable.mem_rooms.1 listed
          obtain ⟨other, there, elsewhere⟩ :=
            coherent.seated found (Room.isMember_iff.1 member)
          obtain rfl : session = other := Option.some.inj (held.symm.trans there)
          rw [noted] at elsewhere
          cases elsewhere
    rw [same]
  cases state
  exact congrArg (Transition.mk · _ _) sessions

theorem matchOf?_eq_some {id place : Nat} {game : Match}
    (located : state.matchOf? id = some (place, game)) :
    ∃ session room,
      state.sessions.get? id = some session ∧ session.room = some place ∧
        state.rooms.get? place = some room ∧ room.game = some game := by
  obtain ⟨other, noted, there⟩ := Option.bind_eq_some_iff.1 located
  obtain ⟨played, busy, same⟩ := Option.map_eq_some_iff.1 there
  cases same
  obtain ⟨session, held, noted⟩ := Option.bind_eq_some_iff.1 noted
  obtain ⟨room, found, busy⟩ := Option.bind_eq_some_iff.1 busy
  exact ⟨session, room, held, noted, found, busy⟩

end Transition

end Cardroom
