import Cardroom.Proofs.Server.Leave
import Cardroom.Server.Drop

/-!
# Drops keep the tables in agreement

A player who was dropped in a match keeps the seat, and the match is paused unless it was already. A
player who was dropped elsewhere is expected in the lobby.
-/

namespace Cardroom

namespace Session

def lost (now : Time) (session : Session) : Session :=
  (session.unbind now).drop

variable (now : Time) {session : Session}

theorem lost_id : (session.lost now).id = session.id :=
  (sameButStatus_drop _).id_eq

theorem lost_room : (session.lost now).room = session.room :=
  (sameButStatus_drop _).room_eq

theorem lost_isConnected : (session.lost now).isConnected = false :=
  (sameButStatus_drop _).isConnected_eq

theorem isKnown_lost (known : session.IsKnown) : (session.lost now).IsKnown :=
  (sameButStatus_drop _).isKnown ⟨known.named, known.tokened, rfl⟩

theorem lost_lastStatus : (session.lost now).lastStatus = session.rememberStatus.lastStatus := by
  unfold lost drop rememberStatus unbind
  split <;> rfl

/-- A player who was dropped is expected in the lobby, whatever the player was doing. -/
theorem inLobby_lost (known : session.IsKnown) (last : (session.lost now).lastStatus = .connected) :
    (session.lost now).InLobby where
  known := isKnown_lost now known
  here := by
    intro connected
    rw [lost_isConnected] at connected
    cases connected
  away _ := ⟨rfl, last⟩

end Session

def Match.deserted (session : Nat) (game : Match) : Match :=
  let absent := game.setActive session false
  (absent.pause? Transition.pauseText).getD absent

theorem Match.map_session_deserted (session : Nat) (game : Match) :
    (game.deserted session).seats.map Seat.session = game.seats.map Seat.session := by
  have absent : (game.setActive session false).seats.map Seat.session =
      game.seats.map Seat.session := by
    unfold setActive
    split
    · exact map_seats_modifySeat game _ fun _ => rfl
    · rfl
  unfold deserted pause?
  dsimp only
  split <;> exact absent

/-- The turn that a connected player's session names, whether or not the match is paused. -/
theorem Match.Suits.rememberStatus_lastStatus {members : List Nat} {game : Match}
    {session : Session} (suits : game.Suits session) (isOf : game.IsOf members)
    (connected : session.isConnected) :
    session.rememberStatus.lastStatus = game.turnStatus session.id := by
  apply Session.rememberStatus_lastStatus
  · intro awake
    by_cases running : game.status = .playing
    · exact suits.running running
    · have waiting := (suits.paused (isOf.paused_of_not_playing running)).1
      rw [if_pos connected] at waiting
      exact absurd waiting awake
  · intro waiting
    by_cases running : game.status = .playing
    · exact absurd ((suits.running running).symm.trans waiting)
        (game.turnStatus_ne_paused session.id)
    · exact (suits.paused (isOf.paused_of_not_playing running)).2

/-- A member whose match is paused waits, or is away already. -/
theorem Match.Suits.suspend {members : List Nat} {game : Match} {session : Session}
    (suits : game.Suits session) (isOf : game.IsOf members) (member : session.id ∈ members) :
    session.suspend.status = (if session.isConnected then .paused else .disconnected) ∧
      session.suspend.lastStatus = game.turnStatus session.id := by
  by_cases connected : session.isConnected
  · rw [Session.suspend, if_pos connected, if_pos connected]
    exact ⟨rfl, suits.rememberStatus_lastStatus isOf connected⟩
  · have paused := isOf.paused_of_not_playing fun running =>
      connected (isOf.isConnected running suits.active member)
    rw [Session.suspend, if_neg connected]
    exact suits.paused paused

/-- The seat of a player who was dropped is kept, and so is the turn. -/
theorem Match.Suits.lost {members : List Nat} {game paused : Match} {session : Session}
    (suits : game.Suits session) (isOf : game.IsOf members) (connected : session.isConnected)
    (marks : game.Marks session.id false paused) (waiting : paused.status = .paused) (now : Time) :
    paused.Suits (session.lost now) := by
  refine .of_paused waiting ?_ ?_ ?_
  · exact marks.shown_own (Session.lost_id now) (Session.lost_isConnected now)
  · rw [Session.lost_isConnected]
    rfl
  · rw [Session.lost_lastStatus, suits.rememberStatus_lastStatus isOf connected, marks.turn,
      Session.lost_id]

/-- The others wait for a player who was dropped. -/
theorem Match.Suits.suspend_of_lost {members : List Nat} {game paused : Match} {session : Session}
    {id : Nat} (suits : game.Suits session) (isOf : game.IsOf members)
    (member : session.id ∈ members) (different : session.id ≠ id)
    (marks : game.Marks id false paused) (waiting : paused.status = .paused) :
    paused.Suits session.suspend := by
  have same := session.sameButStatus_suspend
  obtain ⟨status, last⟩ := suits.suspend isOf member
  refine .of_paused waiting (marks.shown_others suits different same) ?_ ?_
  · rw [same.isConnected_eq]
    exact status
  · rw [same.id_eq, marks.turn]
    exact last

namespace Transition

variable {state : Transition} {before : Tables} {id place : Nat} {session : Session} {room : Room}
  {game : Match} (now : Time)

/-- A match is paused for a player who was dropped, and the others wait. -/
theorem pauseMatch_pauses (rooms : state.rooms = before.rooms)
    (sessions : state.sessions = before.sessions.modify id (Session.lost now))
    (distinct : room.memberIds.Nodup) (member : id ∈ room.memberIds)
    (seated : game.seats.map Seat.session = room.memberIds) :
    (state.pauseMatch id place game).rooms =
        before.rooms.modify place (fun found => { found with game := some (game.deserted id) }) ∧
      ∀ other, (state.pauseMatch id place game).sessions.get? other =
        if other ∈ room.memberIds then
          (before.sessions.get? other).map fun session =>
            if other = id then session.lost now else session.suspend
        else before.sessions.get? other := by
  have changed : (state.pauseMatch id place game).tables =
      { sessions := (room.memberIds.filter (· != id)).foldl
          (fun table other => table.modify other Session.suspend)
          (before.sessions.modify id (Session.lost now))
        rooms := before.rooms.modify place
          fun found => { found with game := some (game.deserted id) } } := by
    rw [← rooms, ← sessions, ← seated, ← Match.map_session_deserted id game]
    simp only [pauseMatch, broadcast_tables]
    rw [foldl_tables (fun member => member) fun _ => Session.suspend, List.map_id']
    · rfl
    · exact fun _ _ => rfl
  refine ⟨congrArg Tables.rooms changed, fun other => ?_⟩
  have others := SessionTable.get?_foldl_modify (distinct.filter (· != id)) other
    (fun _ => Session.suspend) (before.sessions.modify id (Session.lost now))
  refine (congrArg (fun tables => tables.sessions.get? other) changed).trans (others.trans ?_)
  rw [SessionTable.get?_modify]
  by_cases dropped : other = id
  · subst dropped
    simp [member]
  · simp [dropped, Ne.symm dropped]

/-- The tables agree when a match has been paused for a player who was dropped. The others keep
their turn in mind. -/
theorem pauseMatch_coherent (coherent : before.Coherent) (rooms : state.rooms = before.rooms)
    (sessions : state.sessions = before.sessions.modify id (Session.lost now))
    (held : before.sessions.get? id = some session) (noted : session.room = some place)
    (connected : session.isConnected) (found : before.rooms.get? place = some room)
    (busy : room.game = some game) :
    (state.pauseMatch id place game).tables.Coherent := by
  have sound := coherent.sound found
  obtain ⟨started, full, isOf⟩ := sound.busy busy
  have member := (coherent.member found held noted).1
  obtain ⟨paused, equal, waiting, marks, isOf'⟩ :=
    Match.pause_setActive isOf sound.distinct member pauseText
  obtain rfl : game.deserted id = paused := equal
  obtain ⟨changed, people⟩ :=
    pauseMatch_pauses now rooms sessions sound.distinct member (sound.sessions busy)
  have there : (state.pauseMatch id place game).tables.rooms.get? place =
      some { room with game := some (game.deserted id) } := by
    rw [tables_rooms, changed]
    exact RoomTable.get?_modify_self found _
  refine coherent.refit found
    (fun other session => if other = id then session.lost now else session.suspend) people ?_ there
    rfl (.of_busy sound.numbered sound.distinct full rfl started isOf') ?_ ?_
  · rw [tables_rooms, changed]
    exact RoomTable.eqExcept_modify place _ _
  · intro other session
    split
    · exact ⟨Session.lost_id now, Session.lost_room now⟩
    · exact ⟨session.sameButStatus_suspend.id_eq, session.sameButStatus_suspend.room_eq⟩
  · rintro _ other there rfl here fits
    have suits := fits.busy busy
    by_cases dropped : other.id = id
    · obtain rfl : session = other := by
        rw [dropped, held] at there
        exact Option.some.inj there
      simp only [dropped, if_true]
      exact .of_busy (Session.isKnown_lost now fits.known) rfl
        (suits.lost isOf connected (dropped ▸ marks) waiting now)
    · simp only [dropped, if_false]
      exact .of_busy (other.sameButStatus_suspend.isKnown fits.known) rfl
        (suits.suspend_of_lost isOf here dropped marks waiting)

theorem afterDrop_of_nowhere (nowhere : state.roomOf? id = none) : state.afterDrop id = state := by
  simp only [afterDrop, nowhere]

theorem afterDrop_of_idle (inside : state.roomOf? id = some place)
    (idle : state.gameIn? place = none) :
    (state.afterDrop id).tables = ((state.leaveRoom id).modifySession id fun session =>
      { session with lastStatus := .connected }).tables := by
  simp only [afterDrop, inside, idle, Option.filter_none, broadcast_tables]

theorem afterDrop_of_busy {members : List Nat} (inside : state.roomOf? id = some place)
    (busy : state.gameIn? place = some game) (isOf : game.IsOf members) :
    state.afterDrop id = state.pauseMatch id place game := by
  have waits : (game.status = .playing || game.status = .paused) = true := by
    rcases isOf.stage with ⟨running, _⟩ | ⟨paused, _⟩
    · simp [running]
    · simp [paused]
  simp only [afterDrop, inside, busy, Option.filter_some, waits, if_true]

/-- The room of a player is still noted when the connection is lost. -/
theorem roomOf?_lost (sessions : state.sessions = before.sessions.modify id (Session.lost now))
    (held : before.sessions.get? id = some session) :
    state.roomOf? id = session.room := by
  rw [roomOf?, sessions, SessionTable.get?_modify, if_pos rfl, held]
  exact Session.lost_room now

/-- A known player who was dropped is expected in the lobby or at the table. -/
theorem afterDrop_coherent (coherent : before.Coherent) (rooms : state.rooms = before.rooms)
    (sessions : state.sessions = before.sessions.modify id (Session.lost now))
    (held : before.sessions.get? id = some session) (named : session.isLoggedIn)
    (connected : session.isConnected) :
    (state.afterDrop id).tables.Coherent := by
  have here := roomOf?_lost now sessions held
  cases coherent.standing held connected with
  | unknown nowhere unknown =>
      rw [Session.isLoggedIn, unknown.named] at named
      cases named
  | lobby nowhere lobby status =>
      rw [afterDrop_of_nowhere (here.trans nowhere), tables, rooms, sessions]
      refine coherent.modify_outside held nowhere (Session.lost_id now)
        ((Session.lost_room now).trans nowhere) (.inr (Session.inLobby_lost now lobby.known ?_))
      rw [Session.lost_lastStatus, Session.rememberStatus, status]
      rfl
  | @resting place room noted found idle known status =>
      have none : state.gameIn? place = none := by
        rw [gameIn?, rooms, found]
        exact idle
      rw [afterDrop_of_idle (here.trans noted) none]
      refine leaveRoom_coherent coherent rooms sessions (fun _ => Session.lost_room now) held noted
        found idle ?_
      intro session numbered fits
      have known := Session.isKnown_lost now fits.known
      refine ⟨Session.lost_id now, rfl,
        .inr ⟨⟨known.named, known.tokened, known.dated⟩, ?_, fun _ => ⟨rfl, rfl⟩⟩⟩
      intro connected
      exact absurd connected (Bool.not_eq_true _ ▸ Session.lost_isConnected now)
  | @seated place room game noted found busy known status =>
      obtain ⟨_, _, isOf⟩ := (coherent.sound found).busy busy
      have some : state.gameIn? place = some game := by
        rw [gameIn?, rooms, found]
        exact busy
      rw [afterDrop_of_busy (here.trans noted) some isOf]
      exact pauseMatch_coherent now coherent rooms sessions held noted connected found busy

/-- A player's connection is lost, wherever the player is. -/
theorem disconnect_coherent (coherent : state.tables.Coherent) (id connection : Nat)
    (now : Time) :
    (state.disconnect id connection now).tables.Coherent := by
  unfold disconnect
  split
  · exact coherent
  · next session held =>
      split
      · exact coherent
      · next bound =>
          have bound : session.connection = some connection := Decidable.not_not.1 bound
          have connected : session.isConnected := by
            rw [Session.isConnected, bound]
            rfl
          split
          · next unnamed =>
              exact release_coherent coherent now held
                (coherent.room_of_unnamed held (by simpa [Session.isLoggedIn] using unnamed))
          · next named =>
              refine afterDrop_coherent now coherent rfl ?_ held (by simpa using named) connected
              have isBound : state.sessions.isBound id connection := by
                simp [SessionTable.isBound, held, bound]
              simp only [modifySession, SessionTable.detach_of_isBound isBound,
                SessionTable.modify_modify]
              rfl

end Transition

end Cardroom
