import Cardroom.Proofs.Server.Drop
import Cardroom.Proofs.Server.Isolation
import Cardroom.Proofs.Server.Run

/-!
# Simultaneous drops

When the connections of two players are lost at the same time, nobody can tell which loss the
server hears of first. `handleDisconnect_tables` says what one loss comes to, session by session and
room by room, and `run_drops_comm` that two of them come to the same in either order.
-/

namespace Cardroom

namespace Session

/-- What is left of a session when its player is dropped. A player who was dropped from a match is
expected there, and any other one in the lobby. Whoever had not logged in is forgotten. -/
def depart (now : Time) (session : Session) : Session :=
  if !session.isLoggedIn then vacant session.id now
  else if session.status.inMatch then session.lost now
  else (session.lost now).toLobby

def deserted (session : Session) : Session :=
  if session.status.inMatch then session.suspend else session.reseat

variable (now : Time) (session : Session)

theorem sameButStatus_deserted : session.SameButStatus session.deserted := by
  unfold deserted
  split
  · exact session.sameButStatus_suspend
  · exact session.sameButStatus_reseat

/-- Whoever is away already notices nothing. -/
theorem deserted_of_away {session : Session} (away : session.isConnected = false) :
    session.deserted = session := by
  simp [deserted, suspend, reseat, away]

theorem depart_of_inMatch {session : Session} (named : session.isLoggedIn)
    (playing : session.status.inMatch) :
    session.depart now = session.lost now := by
  simp [depart, named, playing]

theorem depart_of_idle {session : Session} (named : session.isLoggedIn)
    (outside : session.status.inMatch = false) :
    session.depart now = (session.lost now).toLobby := by
  simp [depart, named, outside]

theorem depart_id : (session.depart now).id = session.id := by
  unfold depart
  split
  · rfl
  · split
    · exact lost_id now
    · exact lost_id now

theorem depart_isConnected : (session.depart now).isConnected = false := by
  unfold depart
  split
  · rfl
  · split
    · exact lost_isConnected now
    · exact lost_isConnected now

theorem toLobby_lost :
    (session.lost now).toLobby =
      { session with
        connection := none
        disconnectedAt := some now
        room := none
        status := .disconnected
        lastStatus := .connected } := by
  by_cases paused : session.status = .paused <;>
    simp [toLobby, lost, unbind, drop, rememberStatus, isConnected, paused]

/-- A player who was dropped from the lobby is expected there anyway. -/
theorem depart_of_lobby {session : Session} (named : session.isLoggedIn)
    (nowhere : session.room = none) (status : session.status = .connected) :
    session.depart now = session.lost now := by
  rw [depart_of_idle now named (by rw [status]; rfl), toLobby_lost]
  simp [lost, unbind, drop, rememberStatus, status, nowhere]

theorem lost_suspend : session.suspend.lost now = session.lost now := by
  by_cases connected : session.isConnected <;> by_cases paused : session.status = .paused <;>
    simp [suspend, lost, unbind, drop, rememberStatus, connected, paused]

/-- It does not matter for a player who is dropped whether somebody else was dropped before. -/
theorem depart_deserted : session.deserted.depart now = session.depart now := by
  have same := session.sameButStatus_deserted
  unfold depart
  rw [isLoggedIn, same.nick_eq, same.id_eq, ← isLoggedIn]
  split
  · rfl
  · unfold deserted
    by_cases playing : session.status.inMatch
    · have still : session.suspend.status.inMatch := by
        unfold suspend
        split
        · rfl
        · exact playing
      rw [if_pos playing, if_pos playing, if_pos still, lost_suspend]
    · have still : ¬session.reseat.status.inMatch := by
        unfold reseat
        split
        · exact Bool.false_ne_true
        · exact playing
      rw [if_neg playing, if_neg playing, if_neg still, toLobby_lost, toLobby_lost,
        session.sameButStatus_reseat.eq]

def sitsIn (place : Option Nat) (session : Session) : Bool :=
  session.room.isSome && session.room == place

theorem sitsIn_none : session.sitsIn none = false := by
  cases noted : session.room <;> simp [sitsIn, noted]

theorem sitsIn_some {session : Session} {place : Nat} :
    session.sitsIn (some place) ↔ session.room = some place := by
  cases noted : session.room <;> simp [sitsIn, noted]

/-- What becomes of a session when the player of a slot is dropped, who sat in the given room. -/
def afterDrop (now : Time) (id : Nat) (place : Option Nat) (session : Session) : Session :=
  if session.id = id then session.depart now
  else if session.sitsIn place then session.deserted
  else session

variable {now session} {id first second : Nat} {place place' : Option Nat}

theorem afterDrop_self (own : session.id = id) :
    session.afterDrop now id place = session.depart now :=
  if_pos own

theorem sameButStatus_afterDrop (other : session.id ≠ id) :
    session.SameButStatus (session.afterDrop now id place) := by
  rw [afterDrop, if_neg other]
  split
  · exact session.sameButStatus_deserted
  · exact ⟨rfl⟩

theorem afterDrop_id : (session.afterDrop now id place).id = session.id := by
  by_cases own : session.id = id
  · rw [afterDrop_self own, depart_id]
  · exact (sameButStatus_afterDrop own).id_eq

/-- A player who is dropped is left as if nobody else had been dropped. -/
theorem afterDrop_afterDrop_self (now : Time) (place place' : Option Nat)
    (own : session.id = first) (different : first ≠ second) :
    (session.afterDrop now first place).afterDrop now second place' = session.depart now ∧
      (session.afterDrop now second place').afterDrop now first place = session.depart now := by
  have other : session.id ≠ second := fun same => different (own.symm.trans same)
  constructor
  · rw [afterDrop_self own, afterDrop, depart_id, if_neg other,
      deserted_of_away (session.depart_isConnected now), ite_self]
  · rw [afterDrop_self (afterDrop_id.trans own), afterDrop, if_neg other]
    split
    · exact session.depart_deserted now
    · rfl

theorem afterDrop_comm (different : first ≠ second) :
    (session.afterDrop now first place).afterDrop now second place' =
      (session.afterDrop now second place').afterDrop now first place := by
  by_cases own : session.id = first
  · obtain ⟨before, after⟩ := afterDrop_afterDrop_self now place place' own different
    exact before.trans after.symm
  · by_cases own' : session.id = second
    · obtain ⟨before, after⟩ := afterDrop_afterDrop_self now place' place own' different.symm
      exact after.trans before.symm
    · -- Somebody else is left behind by the one, by the other, by both, or by nobody.
      have same := session.sameButStatus_deserted
      have still (place : Option Nat) : session.deserted.sitsIn place = session.sitsIn place := by
        rw [sitsIn, same.room_eq, sitsIn]
      cases left : session.sitsIn place <;> cases left' : session.sitsIn place' <;>
        simp [afterDrop, own, own', left, left', same.id_eq, still]

end Session

/-! ## Rooms -/

namespace Match

variable {game : Match} {first second : Nat}

theorem seatOf?_modifySeat {session place : Nat} {change : Seat → Seat}
    (same : ∀ seat, (change seat).session = seat.session) :
    (game.modifySeat place change).seatOf? session = game.seatOf? session := by
  have sessions : (game.modifySeat place change).seats.map Seat.session =
      game.seats.map Seat.session :=
    map_seats_modifySeat game place same
  have found := congrArg (List.findIdx? (· == session)) sessions
  rwa [List.findIdx?_map, List.findIdx?_map] at found

theorem setActive_comm (active : Bool) :
    (game.setActive first active).setActive second active =
      (game.setActive second active).setActive first active := by
  have seats (session place : Nat) :
      (game.modifySeat place fun seat => { seat with active }).seatOf? session =
        game.seatOf? session :=
    seatOf?_modifySeat fun _ => rfl
  cases here : game.seatOf? first with
  | none =>
      cases there : game.seatOf? second <;> simp [setActive, here, there, seats]
  | some place =>
      cases there : game.seatOf? second with
      | none =>
          simp [setActive, here, there, seats]
      | some place' =>
          simp only [setActive, here, there, seats]
          simp only [modifySeat]
          congr 1
          refine List.ext_getElem? fun index => ?_
          simp only [List.getElem?_modify]
          cases game.seats[index]? <;> by_cases place = index <;> by_cases place' = index <;>
            simp [*]

theorem deserted_eq (session : Nat) (game : Match) :
    game.deserted session =
      if game.status = .playing then
        { game.setActive session false with
          status := .paused, pauseReason := some Transition.pauseText }
      else game.setActive session false := by
  rw [deserted, pause?, (setActive_stage session false game).1]
  split <;> rfl

/-- Two players desert a match in either order. -/
theorem deserted_comm :
    (game.deserted first).deserted second = (game.deserted second).deserted first := by
  have stages (session : Nat) (active : Bool) (game : Match) :
      (game.setActive session active).status = game.status :=
    (setActive_stage session active game).1
  have paused (session : Nat) (game : Match) :
      ({ game with status := .paused, pauseReason := some Transition.pauseText } :
          Match).setActive session false =
        { game.setActive session false with
          status := .paused, pauseReason := some Transition.pauseText } := by
    unfold setActive seatOf?
    dsimp only
    split <;> rfl
  by_cases playing : game.status = .playing
  · simp only [deserted_eq, playing, if_true, paused, reduceCtorEq, if_false]
    rw [setActive_comm]
  · simp only [deserted_eq, playing, stages, if_false]
    exact setActive_comm false

end Match

namespace Room

/-- What is left of a room when a member is dropped. A match waits for the player, and a room
without one does not. -/
def deserted (session : Nat) (room : Room) : Option Room :=
  match room.game with
  | some game => some { room with game := some (game.deserted session) }
  | none => room.left? session

section

variable {room : Room} {id first second : Nat}

/-- Two members have a room to themselves. -/
theorem IsSound.eq_or_eq (sound : room.IsSound id) (different : first ≠ second)
    (member : first ∈ room.memberIds) (member' : second ∈ room.memberIds) {other : Nat}
    (listed : other ∈ room.memberIds) :
    other = first ∨ other = second := by
  by_contra third
  obtain ⟨apart, apart'⟩ := not_or.1 third
  have three : [first, second, other].Subperm room.memberIds := by
    refine List.Nodup.subperm ?_ ?_
    · simp [different, Ne.symm apart, Ne.symm apart']
    · simp [member, member', listed]
  exact absurd (Nat.le_trans three.length_le sound.space) (by decide : ¬3 ≤ places)

/-- A room in which no match is played is gone when both members have been dropped. -/
theorem deserted_twice_of_idle (sound : room.IsSound id) (idle : room.game = none)
    (different : first ≠ second) (member : first ∈ room.memberIds)
    (member' : second ∈ room.memberIds) :
    (room.deserted first).bind (deserted second) = none := by
  rw [deserted, idle]
  dsimp only
  cases stays : room.left? first with
  | none =>
      rfl
  | some left =>
      obtain ⟨-, members, still, -⟩ := left?_eq_some stays
      rw [Option.bind_some, deserted, still]
      dsimp only
      rw [left?_eq_none, others, members, List.filter_eq_nil_iff]
      intro other listed
      obtain ⟨here, away⟩ := mem_others.1 listed
      simpa using (sound.eq_or_eq different member member' here).resolve_left away

/-- Two members desert a room in either order. -/
theorem deserted_comm (sound : room.IsSound id) (different : first ≠ second)
    (member : first ∈ room.memberIds) (member' : second ∈ room.memberIds) :
    (room.deserted first).bind (deserted second) =
      (room.deserted second).bind (deserted first) := by
  cases busy : room.game with
  | some game =>
      simp [deserted, busy, Match.deserted_comm]
  | none =>
      rw [deserted_twice_of_idle sound busy different member member',
        deserted_twice_of_idle sound busy different.symm member' member]

end

end Room

namespace RoomTable

variable {table : RoomTable}

def desert (session : Nat) (place : Option Nat) (table : RoomTable) : RoomTable :=
  match place with
  | none => table
  | some place => table.set place ((table.get? place).bind (Room.deserted session))

theorem desert_comm {first second : Nat} {place place' : Option Nat}
    (shared : ∀ id room, place = some id → place' = some id → table.get? id = some room →
      (room.deserted first).bind (Room.deserted second) =
        (room.deserted second).bind (Room.deserted first)) :
    (table.desert first place).desert second place' =
      (table.desert second place').desert first place := by
  cases place with
  | none =>
      rfl
  | some id =>
      cases place' with
      | none =>
          rfl
      | some other =>
          unfold desert
          dsimp only
          by_cases same : id = other
          · subst same
            rw [get?_set_of_bind rfl, get?_set_of_bind rfl, set_set, set_set]
            cases found : table.get? id with
            | none =>
                rfl
            | some room =>
                exact congrArg (table.set id) (shared id room rfl rfl found)
          · rw [get?_set_of_ne same, get?_set_of_ne (Ne.symm same), set_comm same]

end RoomTable

/-! ## The tables -/

namespace Tables

def dropped (now : Time) (id : Nat) (tables : Tables) : Tables where
  sessions :=
    { slots := tables.sessions.slots.map
        (Session.afterDrop now id ((Transition.start tables).roomOf? id)) }
  rooms := tables.rooms.desert id ((Transition.start tables).roomOf? id)

variable {before after : Tables} {id place : Nat} {session : Session} {room : Room} {now : Time}

theorem get?_dropped (now : Time) (id other : Nat) (tables : Tables) :
    (tables.dropped now id).sessions.get? other = (tables.sessions.get? other).map
      (Session.afterDrop now id ((Transition.start tables).roomOf? id)) :=
  List.getElem?_map

theorem roomOf?_start (held : before.sessions.get? id = some session) :
    (Transition.start before).roomOf? id = session.room :=
  congrArg (Option.bind · Session.room) held

/-- A player has been dropped if the own session, the others and the rooms say so. -/
theorem eq_dropped (coherent : before.Coherent) (held : before.sessions.get? id = some session)
    (own : after.sessions.get? id = some (session.depart now))
    (others : ∀ other companion, other ≠ id → before.sessions.get? other = some companion →
      after.sessions.get? other =
        some (if companion.sitsIn session.room then companion.deserted else companion))
    (nobody : ∀ other, before.sessions.get? other = none → after.sessions.get? other = none)
    (rooms : after.rooms = (before.dropped now id).rooms) :
    after = before.dropped now id := by
  obtain ⟨⟨slots⟩, rooms'⟩ := after
  obtain rfl := rooms
  have same : slots = (before.dropped now id).sessions.slots := by
    refine List.ext_getElem? fun other => Eq.trans ?_ (get?_dropped now id other before).symm
    cases there : before.sessions.get? other with
    | none =>
        exact nobody other there
    | some companion =>
        have numbered := coherent.numbered there
        rw [roomOf?_start held, Option.map_some, Session.afterDrop, numbered]
        by_cases dropped : other = id
        · subst dropped
          obtain rfl : session = companion := Option.some.inj (held.symm.trans there)
          rw [if_pos rfl]
          exact own
        · rw [if_neg dropped]
          exact others other companion dropped there
  rw [same]

theorem Coherent.mem_iff (coherent : before.Coherent) (found : before.rooms.get? place = some room)
    (held : before.sessions.get? id = some session) :
    id ∈ room.memberIds ↔ session.room = some place := by
  refine ⟨fun listed => ?_, fun noted => (coherent.member found held noted).1⟩
  obtain ⟨other, there, noted⟩ := coherent.seated found listed
  obtain rfl : session = other := Option.some.inj (held.symm.trans there)
  exact noted

/-- A connected member is in a match if the room has one. -/
theorem Coherent.inMatch_eq (coherent : before.Coherent)
    (found : before.rooms.get? place = some room) (held : before.sessions.get? id = some session)
    (noted : session.room = some place) (connected : session.isConnected) :
    session.status.inMatch = room.game.isSome := by
  cases coherent.standing held connected with
  | unknown nowhere | lobby nowhere =>
      rw [noted] at nowhere
      cases nowhere
  | resting inside there idle _ status =>
      obtain rfl := Option.some.inj (noted.symm.trans inside)
      obtain rfl := Option.some.inj (found.symm.trans there)
      rw [idle, status, Room.idleStatus]
      split <;> rfl
  | seated inside there busy _ playing =>
      obtain rfl := Option.some.inj (noted.symm.trans inside)
      obtain rfl := Option.some.inj (found.symm.trans there)
      rw [busy, playing]
      rfl

end Tables

namespace Transition

variable {state : Transition} {before : Tables} {id place : Nat} {session : Session} {room : Room}
  {game : Match} (now : Time)

/-- A player is dropped from a room in which no match is played. -/
theorem leaveRoom_dropped (coherent : before.Coherent) (rooms : state.rooms = before.rooms)
    (sessions : state.sessions = before.sessions.modify id (Session.lost now))
    (held : before.sessions.get? id = some session) (named : session.isLoggedIn)
    (connected : session.isConnected) (inside : session.room = some place)
    (found : before.rooms.get? place = some room) (idle : room.game = none) :
    ((state.leaveRoom id).modifySession id fun session =>
      { session with lastStatus := .connected }).tables = before.dropped now id := by
  obtain ⟨changed, people⟩ := leaveRoom_withdraws _ rooms sessions (fun _ => Session.lost_room now)
    held inside found (coherent.sound found).distinct (coherent.member found held inside).1
  refine Tables.eq_dropped coherent held ?_ ?_ ?_ ?_
  · refine (people id).trans ?_
    have outside : session.status.inMatch = false := by
      rw [coherent.inMatch_eq found held inside connected, idle, Option.isSome_none]
    rw [if_pos rfl, held, Option.map_some, Session.depart_of_idle now named outside,
      Session.toLobby, Session.lost_isConnected]
    rfl
  · intro other companion different there
    refine (people other).trans ?_
    rw [if_neg different, there, inside]
    have listed := coherent.mem_iff found there
    by_cases beside : companion.room = some place
    · have fits := (coherent.member found there beside).2.idle idle
      have outside : companion.status.inMatch = false := by
        rw [coherent.inMatch_eq found there beside fits.1, idle, Option.isSome_none]
      rw [if_pos (Room.mem_others.2 ⟨listed.2 beside, different⟩),
        if_pos (Session.sitsIn_some.2 beside), Session.deserted, outside]
      rfl
    · rw [if_neg fun stays => beside (listed.1 (Room.mem_others.1 stays).1),
        if_neg (mt Session.sitsIn_some.1 beside)]
  · intro other vacant
    refine (people other).trans ?_
    rw [vacant, Option.map_none, Option.map_none, ite_self, ite_self]
  · refine changed.trans ?_
    rw [Tables.dropped, Tables.roomOf?_start held, inside, RoomTable.desert]
    dsimp only
    rw [found, Option.bind_some, Room.deserted, idle]

/-- A player is dropped from a match. -/
theorem pauseMatch_dropped (coherent : before.Coherent) (rooms : state.rooms = before.rooms)
    (sessions : state.sessions = before.sessions.modify id (Session.lost now))
    (held : before.sessions.get? id = some session) (named : session.isLoggedIn)
    (playing : session.status.inMatch) (inside : session.room = some place)
    (found : before.rooms.get? place = some room) (busy : room.game = some game) :
    (state.pauseMatch id place game).tables = before.dropped now id := by
  have sound := coherent.sound found
  have member := (coherent.member found held inside).1
  obtain ⟨changed, people⟩ :=
    pauseMatch_pauses now rooms sessions sound.distinct member (sound.sessions busy)
  refine Tables.eq_dropped coherent held ?_ ?_ ?_ ?_
  · refine (people id).trans ?_
    rw [if_pos member, held, Option.map_some, if_pos rfl,
      Session.depart_of_inMatch now named playing]
  · intro other companion different there
    refine (people other).trans ?_
    rw [there, Option.map_some, if_neg different, inside]
    have listed := coherent.mem_iff found there
    by_cases beside : companion.room = some place
    · rw [if_pos (listed.2 beside), if_pos (Session.sitsIn_some.2 beside)]
      by_cases present : companion.isConnected
      · rw [Session.deserted, coherent.inMatch_eq found there beside present, busy]
        rfl
      · rw [Session.deserted_of_away (Bool.eq_false_iff.2 present), Session.suspend,
          if_neg present]
    · rw [if_neg (mt listed.1 beside), if_neg (mt Session.sitsIn_some.1 beside)]
  · intro other vacant
    refine (people other).trans ?_
    rw [vacant, Option.map_none, ite_self]
  · refine changed.trans ?_
    rw [Tables.dropped, Tables.roomOf?_start held, inside, RoomTable.desert]
    dsimp only
    rw [RoomTable.modify_eq_set found, found, Option.bind_some, Room.deserted, busy]

/-- A known player is dropped, wherever the player is. -/
theorem afterDrop_tables (coherent : before.Coherent) (rooms : state.rooms = before.rooms)
    (sessions : state.sessions = before.sessions.modify id (Session.lost now))
    (held : before.sessions.get? id = some session) (named : session.isLoggedIn)
    (connected : session.isConnected) :
    (state.afterDrop id).tables = before.dropped now id := by
  have here := roomOf?_lost now sessions held
  cases coherent.standing held connected with
  | unknown nowhere unknown =>
      rw [Session.isLoggedIn, unknown.named] at named
      cases named
  | lobby nowhere lobby status =>
      rw [afterDrop_of_nowhere (here.trans nowhere), tables, rooms, sessions]
      refine Tables.eq_dropped coherent held ?_ ?_ ?_ ?_
      · rw [SessionTable.get?_modify, if_pos rfl, held, Option.map_some,
          Session.depart_of_lobby now named nowhere status]
      · intro other companion different there
        rw [SessionTable.get?_modify, if_neg different.symm, there, nowhere, Session.sitsIn_none]
        rfl
      · intro other vacant
        rw [SessionTable.get?_modify, vacant]
        split <;> rfl
      · rw [Tables.dropped, Tables.roomOf?_start held, nowhere]
        rfl
  | @resting place _ inside found idle known status =>
      have none : state.gameIn? place = none := by
        rw [gameIn?, rooms, found]
        exact idle
      rw [afterDrop_of_idle (here.trans inside) none]
      exact leaveRoom_dropped now coherent rooms sessions held named connected inside found idle
  | @seated place _ game inside found busy known playing =>
      obtain ⟨_, _, isOf⟩ := (coherent.sound found).busy busy
      have some : state.gameIn? place = some game := by
        rw [gameIn?, rooms, found]
        exact busy
      rw [afterDrop_of_busy (here.trans inside) some isOf]
      exact pauseMatch_dropped now coherent rooms sessions held named playing inside found busy

end Transition

namespace Tables

variable {tables : Tables} {slot connection first second : Nat} {session : Session} {now : Time}

/-- All that comes of the loss of a connection. -/
theorem handleDisconnect_tables (coherent : tables.Coherent)
    (isBound : tables.sessions.isBound slot connection) (now : Time) :
    (tables.handleDisconnect now slot connection).tables = tables.dropped now slot := by
  obtain ⟨session, held, bound⟩ := exists_of_isBound isBound
  have first : (Transition.start tables).sessions.get? slot = some session := held
  by_cases named : session.isLoggedIn
  · have connected : session.isConnected := by
      rw [Session.isConnected, bound]
      rfl
    have left : (tables.handleDisconnect now slot connection).tables =
        (({ Transition.start tables with
            sessions := tables.sessions.modify slot (Session.lost now) } :
          Transition).afterDrop slot).tables := by
      simp only [handleDisconnect, Transition.disconnect, first, bound, named, ne_eq,
        not_true_eq_false, if_false, Bool.not_true, Bool.false_eq_true, Transition.modifySession]
      rw [show (Transition.start tables).sessions = tables.sessions from rfl,
        SessionTable.detach_of_isBound isBound, SessionTable.modify_modify]
      rfl
    rw [left]
    exact Transition.afterDrop_tables now coherent rfl rfl held named connected
  · have unnamed : session.nick = none := by
      simpa [Session.isLoggedIn] using named
    have nowhere := coherent.room_of_unnamed held unnamed
    have left : (tables.handleDisconnect now slot connection).tables =
        { tables with sessions := tables.sessions.release slot now } := by
      simp only [handleDisconnect, Transition.disconnect, first, bound, named, ne_eq,
        not_true_eq_false, if_false, Bool.not_false, if_true]
      rfl
    rw [left]
    refine eq_dropped coherent held ?_ ?_ ?_ ?_
    · rw [SessionTable.release, SessionTable.get?_modify, if_pos rfl, held, Option.map_some,
        Session.depart, if_pos (by simpa using named), coherent.numbered held]
    · intro other companion different there
      rw [SessionTable.release, SessionTable.get?_modify, if_neg different.symm, there, nowhere,
        Session.sitsIn_none]
      rfl
    · intro other vacant
      rw [SessionTable.release, SessionTable.get?_modify, vacant]
      split <;> rfl
    · rw [dropped, roomOf?_start held, nowhere]
      rfl

/-- The others still note the rooms in which they sat. -/
theorem roomOf?_dropped (coherent : tables.Coherent) (different : first ≠ second) (now : Time) :
    (Transition.start (tables.dropped now first)).roomOf? second =
      (Transition.start tables).roomOf? second := by
  show ((tables.dropped now first).sessions.get? second).bind Session.room =
    (tables.sessions.get? second).bind Session.room
  rw [get?_dropped]
  cases held : tables.sessions.get? second with
  | none =>
      rfl
  | some session =>
      have other : session.id ≠ first := (coherent.numbered held).symm ▸ different.symm
      exact (Session.sameButStatus_afterDrop other).room_eq

theorem dropped_dropped (coherent : tables.Coherent) (different : first ≠ second) (now : Time) :
    (tables.dropped now first).dropped now second =
      { sessions :=
          { slots := tables.sessions.slots.map fun session =>
              (session.afterDrop now first ((Transition.start tables).roomOf? first)).afterDrop now
                second ((Transition.start tables).roomOf? second) }
        rooms := (tables.rooms.desert first ((Transition.start tables).roomOf? first)).desert second
          ((Transition.start tables).roomOf? second) } := by
  have noted := roomOf?_dropped coherent different now
  rw [dropped, noted]
  simp only [dropped, List.map_map, Function.comp_def]

/-- Two players are dropped in either order. -/
theorem dropped_comm (coherent : tables.Coherent) (different : first ≠ second) (now : Time) :
    (tables.dropped now first).dropped now second =
      (tables.dropped now second).dropped now first := by
  have shared (place : Nat) (room : Room)
      (noted : (Transition.start tables).roomOf? first = some place)
      (noted' : (Transition.start tables).roomOf? second = some place)
      (found : tables.rooms.get? place = some room) :
      (room.deserted first).bind (Room.deserted second) =
        (room.deserted second).bind (Room.deserted first) := by
    obtain ⟨session, held, inside⟩ := Option.bind_eq_some_iff.1 noted
    obtain ⟨session', held', inside'⟩ := Option.bind_eq_some_iff.1 noted'
    exact Room.deserted_comm (coherent.sound found) different
      (coherent.member found held inside).1 (coherent.member found held' inside').1
  rw [dropped_dropped coherent different, dropped_dropped coherent different.symm,
    RoomTable.desert_comm shared]
  simp only [Session.afterDrop_comm different]

/-! ## Lost connections -/

/-- Whoever is bound to another slot stays so. -/
theorem isBound_dropped (coherent : tables.Coherent) (different : first ≠ second) (now : Time)
    (connection : Nat) :
    (tables.dropped now first).sessions.isBound second connection =
      tables.sessions.isBound second connection := by
  rw [SessionTable.isBound, SessionTable.isBound, get?_dropped]
  cases held : tables.sessions.get? second with
  | none =>
      rfl
  | some session =>
      have other : session.id ≠ first := (coherent.numbered held).symm ▸ different.symm
      rw [Option.map_some, Option.any_some, Option.any_some,
        (Session.sameButStatus_afterDrop other).connection_eq]

/-- What comes of the loss of a connection, if it is not stale. -/
theorem handleDisconnect_eq (coherent : tables.Coherent) (now : Time) (slot connection : Nat) :
    (tables.handleDisconnect now slot connection).tables =
      if tables.sessions.isBound slot connection then tables.dropped now slot else tables := by
  split
  · next bound =>
      exact handleDisconnect_tables coherent bound now
  · next stale =>
      rw [handleDisconnect_of_not_isBound (Bool.eq_false_iff.2 stale)]

/-- Two connections are lost in either order. -/
theorem handleDisconnect_comm (coherent : tables.Coherent) (different : first ≠ second)
    (now : Time) (connection connection' : Nat) :
    ((tables.handleDisconnect now first connection).tables.handleDisconnect now second
        connection').tables =
      ((tables.handleDisconnect now second connection').tables.handleDisconnect now first
        connection).tables := by
  rw [handleDisconnect_eq (handleDisconnect_coherent coherent now first connection),
    handleDisconnect_eq (handleDisconnect_coherent coherent now second connection'),
    handleDisconnect_eq coherent now first, handleDisconnect_eq coherent now second]
  by_cases bound : tables.sessions.isBound first connection <;>
    by_cases bound' : tables.sessions.isBound second connection' <;>
    simp [bound, bound', isBound_dropped coherent different,
      isBound_dropped coherent different.symm, dropped_comm coherent different]

/-- Whatever has happened to a server since it was started: it does not matter in which order two
connections are lost, and both players are dropped. -/
theorem run_drops_comm (config : Config) (started : Time) (events : List Event) (now : Time)
    {first second connection connection' : Nat} (different : first ≠ second)
    (bound : (run config started events).sessions.isBound first connection)
    (bound' : (run config started events).sessions.isBound second connection') :
    let tables := run config started events
    let lost := ((tables.handleDisconnect now first connection).tables.handleDisconnect now second
      connection').tables
    lost = ((tables.handleDisconnect now second connection').tables.handleDisconnect now first
        connection).tables ∧
      lost = (tables.dropped now first).dropped now second := by
  intro tables lost
  have coherent : tables.Coherent := run_coherent config started events
  have dropped := handleDisconnect_tables coherent bound now
  refine ⟨handleDisconnect_comm coherent different now connection connection', ?_⟩
  have agrees := handleDisconnect_coherent coherent now first connection
  rw [dropped] at agrees
  show ((tables.handleDisconnect now first connection).tables.handleDisconnect now second
    connection').tables = _
  rw [dropped]
  refine handleDisconnect_tables agrees ?_ now
  rw [isBound_dropped coherent different]
  exact bound'

/-- Two players in a match are dropped at the same time, and the match waits for both. -/
theorem drops_comm_of_match :
    let send (slot : Nat) (type : MessageType) (payload : String) : Event :=
      .frame { now := 1, token := .nth slot, shuffle := .still } slot slot { type, payload }
    let events : List Event :=
      [.accept 0 0, .accept 0 1, send 0 .login "ann", send 1 .login "ben",
        send 0 .createRoom "den", send 1 .joinRoom "0", send 0 .ready "1", send 1 .ready "1",
        send 0 .start ""]
    let tables := run {} 0 events
    let lost := ((tables.handleDisconnect 5 0 0).tables.handleDisconnect 5 1 1).tables
    0 ≠ 1 ∧ tables.sessions.isBound 0 0 ∧ tables.sessions.isBound 1 1 ∧
      ((Transition.start lost).gameIn? 0).map (fun game => (game.status, game.players)) =
        some (.paused, [(0, false), (1, false)]) ∧
      lost = ((tables.handleDisconnect 5 1 1).tables.handleDisconnect 5 0 0).tables := by
  intro send events tables lost
  have different : 0 ≠ 1 := by decide
  have bound : tables.sessions.isBound 0 0 := by decide +kernel
  have bound' : tables.sessions.isBound 1 1 := by decide +kernel
  refine ⟨different, bound, bound', ?_, (run_drops_comm {} 0 events 5 different bound bound').1⟩
  decide +kernel

end Tables

end Cardroom
