import Cardroom.Proofs.Server.Leave
import Cardroom.Proofs.Server.Play
import Cardroom.Server.Dispatch
import Cardroom.Server.Sweep

/-!
# What does not disturb a match

A match goes on around what happens elsewhere, and its own players may be dropped and come back.
`Keeps` says what stays of the room at a place and of the sessions of its members: the whole room,
but for whether the match is paused and who is away from it, and the players with their names and
tokens. The theorems show this for each operation of the server, as long as it is not asked for by a
member of that room, or concerns no more than who is there.
-/

namespace Cardroom

def Match.gathered (game : Match) : Match :=
  { game with
    status := .playing
    pauseReason := none
    seats := game.seats.map fun seat => { seat with active := true } }

namespace Match

theorem gathered_eq_self {game : Match} (playing : game.status = .playing)
    (reason : game.pauseReason = none) (active : game.allActive = true) :
    game.gathered = game := by
  have seats : (game.seats.map fun seat => { seat with active := true }) = game.seats := by
    refine (List.map_congr_left fun seat member => ?_).trans (List.map_id game.seats)
    rw [← List.all_eq_true.1 active seat member]
    rfl
  rw [gathered, seats, ← playing, ← reason]

theorem gathered_setActive (session : Nat) (active : Bool) (game : Match) :
    (game.setActive session active).gathered = game.gathered := by
  unfold setActive
  split
  · rw [gathered, map_seats_modifySeat]
    · rfl
    · exact fun _ => rfl
  · rfl

theorem gathered_pause? (reason : String) (game : Match) :
    ((game.pause? reason).getD game).gathered = game.gathered := by
  unfold pause?
  split <;> rfl

theorem gathered_resume? {game resumed : Match} (goesOn : game.resume? = some resumed) :
    resumed.gathered = game.gathered := by
  unfold resume? at goesOn
  split at goesOn
  · cases goesOn
    rfl
  · cases goesOn

end Match

def Room.gathered (room : Room) : Room :=
  { room with game := room.game.map Match.gathered }

/-- The same player in the same room. -/
structure Session.SamePlayer (before after : Session) : Prop where
  nick : after.nick = before.nick
  token : after.token = before.token
  room : after.room = before.room

namespace Session

theorem SamePlayer.trans {first second third : Session} (before : first.SamePlayer second)
    (after : second.SamePlayer third) : first.SamePlayer third :=
  ⟨after.nick.trans before.nick, after.token.trans before.token, after.room.trans before.room⟩

theorem SameButStatus.samePlayer {before after : Session} (same : before.SameButStatus after) :
    before.SamePlayer after := by
  rw [same.eq]
  exact ⟨rfl, rfl, rfl⟩

end Session

/-- The room at a place stays as it is, but for who is there, and so do its players. -/
structure Tables.Keeps (place : Nat) (before after : Tables) : Prop where
  room : (after.rooms.get? place).map Room.gathered = (before.rooms.get? place).map Room.gathered
  players : ∀ {id session}, before.sessions.get? id = some session → session.room = some place →
    ∃ later, after.sessions.get? id = some later ∧ session.SamePlayer later

namespace Tables.Keeps

variable {place : Nat} {before middle after : Tables}

theorem refl (place : Nat) (tables : Tables) : tables.Keeps place tables :=
  ⟨rfl, fun held _ => ⟨_, held, rfl, rfl, rfl⟩⟩

theorem trans (first : before.Keeps place middle) (second : middle.Keeps place after) :
    before.Keeps place after where
  room := second.room.trans first.room
  players held here := by
    obtain ⟨session, there, same⟩ := first.players held here
    obtain ⟨later, found, still⟩ := second.players there (same.room.trans here)
    exact ⟨later, found, same.trans still⟩

/-- Sessions change, but not those of the players in the room. -/
theorem of_sessions {change : Nat → Session → Session} (rooms : after.rooms = before.rooms)
    (changed : ∀ id, after.sessions.get? id = (before.sessions.get? id).map (change id))
    (spared : ∀ {id session}, before.sessions.get? id = some session →
      session.room = some place → session.SamePlayer (change id session)) :
    before.Keeps place after where
  room := by rw [rooms]
  players held here := ⟨_, by rw [changed, held]; rfl, spared held here⟩

theorem modify {id : Nat} {change : Session → Session}
    (spared : ∀ {session}, before.sessions.get? id = some session →
      session.room = some place → session.SamePlayer (change session)) :
    before.Keeps place { before with sessions := before.sessions.modify id change } := by
  have changed (other : Nat) : (before.sessions.modify id change).get? other =
      (before.sessions.get? other).map fun session =>
        if id = other then change session else session := by
    rw [SessionTable.get?_modify]
    split <;> simp
  refine of_sessions rfl changed ?_
  intro other session held here
  split
  · next same =>
      subst same
      exact spared held here
  · exact ⟨rfl, rfl, rfl⟩

theorem foldl_of_apart {ids : List Nat} {change : Nat → Session → Session} (distinct : ids.Nodup)
    (apart : ∀ {id session}, before.sessions.get? id = some session →
      session.room = some place → id ∉ ids) :
    before.Keeps place
      { before with
        sessions := ids.foldl (fun table id => table.modify id (change id)) before.sessions } where
  room := rfl
  players held here := by
    refine ⟨_, ?_, rfl, rfl, rfl⟩
    exact (SessionTable.get?_foldl_modify distinct _ change _).trans
      ((if_neg (apart held here)).trans held)

theorem of_rooms {other : Nat} (sessions : after.sessions = before.sessions)
    (elsewhere : before.rooms.EqExcept other after.rooms) (apart : place ≠ other) :
    before.Keeps place after where
  room := by rw [elsewhere place apart]
  players held _ := ⟨_, by rw [sessions, held], rfl, rfl, rfl⟩

end Tables.Keeps

/-- Nobody is a member of two rooms. -/
theorem Tables.Coherent.not_mem_of_room {tables : Tables} {id place other : Nat} {room : Room}
    {session : Session} (coherent : tables.Coherent)
    (found : tables.rooms.get? other = some room)
    (held : tables.sessions.get? id = some session) (here : session.room = some place)
    (different : place ≠ other) :
    id ∉ room.memberIds := by
  intro member
  obtain ⟨same, there, noted⟩ := coherent.seated found member
  obtain rfl : session = same := Option.some.inj (held.symm.trans there)
  rw [here] at noted
  exact different (Option.some.inj noted)

namespace Transition

variable {state : Transition} {id place other : Nat} {game : Match}

/-! ## Single changes -/

theorem modifySession_keeps (place id : Nat) {change : Session → Session} (state : Transition)
    (same : ∀ session : Session, session.SamePlayer (change session)) :
    state.tables.Keeps place (state.modifySession id change).tables :=
  .modify fun _ _ => same _

/-- Whatever happens at the end to the session of a player who was elsewhere. -/
theorem keeps_modifySession {after : Transition} (kept : state.tables.Keeps place after.tables)
    (apart : state.roomOf? id ≠ some place) (change : Session → Session) :
    state.tables.Keeps place (after.modifySession id change).tables where
  room := kept.room
  players {slot session} held here := by
    obtain ⟨later, found, same⟩ := kept.players held here
    have different : id ≠ slot := by
      rintro rfl
      apply apart
      rw [roomOf?, ← tables_sessions, held]
      exact here
    refine ⟨later, ?_, same⟩
    exact (SessionTable.get?_modify id slot change _).trans ((if_neg different).trans found)

theorem modifySession_keeps_of_apart (apart : state.roomOf? id ≠ some place)
    (change : Session → Session) :
    state.tables.Keeps place (state.modifySession id change).tables :=
  keeps_modifySession (.refl place _) apart change

theorem foldl_keeps {Item : Type} {step : Transition → Item → Transition} (items : List Item)
    (state : Transition)
    (one : ∀ (state : Transition) item,
      state.tables.Keeps place (step state item).tables) :
    state.tables.Keeps place (items.foldl step state).tables := by
  induction items generalizing state with
  | nil =>
      exact .refl place _
  | cons item items inductionHypothesis =>
      exact (one state item).trans (inductionHypothesis (step state item))

/-- A match changes in whether it is paused and in who is there. -/
theorem setGame_keeps {after : Match} (place : Nat) (busy : state.gameIn? other = some game)
    (same : after.gathered = game.gathered) :
    state.tables.Keeps place (state.setGame other after).tables := by
  refine ⟨?_, fun held _ => ⟨_, held, rfl, rfl, rfl⟩⟩
  show ((state.rooms.modify other _).get? place).map _ = (state.rooms.get? place).map _
  rw [RoomTable.get?_modify]
  split
  · next here =>
      subst here
      obtain ⟨room, found, played⟩ := Option.bind_eq_some_iff.1 busy
      rw [found, Option.map_some, Option.map_some, Option.map_some, Room.gathered, Room.gathered,
        played, Option.map_some, Option.map_some, same]
  · rfl

theorem ne_of_gameIn? (busy : state.gameIn? place = some game)
    (idle : state.gameIn? other = none) :
    place ≠ other := by
  rintro rfl
  rw [busy] at idle
  cases idle

theorem leaveRoom_keeps (apart : state.roomOf? id ≠ some place) :
    state.tables.Keeps place (state.leaveRoom id).tables := by
  have out := modifySession_keeps_of_apart apart Session.stepOut
  cases noted : state.roomOf? id with
  | none =>
      simp only [leaveRoom, noted]
      exact .refl place _
  | some other =>
      have different : place ≠ other := by
        rintro rfl
        exact apart noted
      cases granted : state.rooms.leave other id with
      | error error =>
          simp only [leaveRoom, noted, modifySession, granted]
          exact out
      | ok outcome =>
          obtain ⟨owner, rooms⟩ := outcome
          simp only [leaveRoom, noted, modifySession, granted, sendRoomInfo_tables]
          refine .trans ?_ (foldl_keeps _ _ fun state member =>
            modifySession_keeps place member state fun session =>
              session.sameButStatus_reseat.samePlayer)
          have elsewhere := RoomTable.leave_eqExcept granted
          cases owner <;> exact out.trans (.of_rooms rfl elsewhere different)

theorem closeRoom_keeps (coherent : state.tables.Coherent) (different : place ≠ other) :
    state.tables.Keeps place (state.closeRoom other).tables := by
  unfold closeRoom
  split
  · exact .refl place _
  · next room found =>
      rw [foldl_tables (fun member => member) fun _ => Session.toLobby, List.map_id']
      · refine .trans (.foldl_of_apart (coherent.sound found).distinct ?_)
          (.of_rooms rfl (RoomTable.eqExcept_set_none other _) different)
        exact fun held here => coherent.not_mem_of_room found held here different
      · intro state member
        rfl

theorem createRoom_keeps (busy : state.gameIn? place = some game)
    (apart : state.roomOf? id ≠ some place) (name : String) :
    state.tables.Keeps place (state.createRoom id name).tables := by
  unfold createRoom
  split
  · exact .refl place _
  · next other rooms granted =>
      obtain ⟨free, elsewhere, _⟩ := RoomTable.create_eq_ok granted
      have different : place ≠ other := ne_of_gameIn? busy (by rw [gameIn?, free]; rfl)
      rw [sendRoomInfo_tables, reply_tables, reply_tables]
      exact (modifySession_keeps_of_apart apart _).trans (.of_rooms rfl elsewhere different)

theorem joinRoom_keeps (coherent : state.tables.Coherent) (busy : state.gameIn? place = some game)
    (apart : state.roomOf? id ≠ some place) (payload : String) :
    state.tables.Keeps place (state.joinRoom id payload).tables := by
  unfold joinRoom
  split
  · exact .refl place _
  · next other number =>
      split
      · exact .refl place _
      · next rooms granted =>
          obtain ⟨room, _, found, _, early, _, _, elsewhere, _⟩ := RoomTable.join_eq_ok granted
          have idle : state.gameIn? other = none := by
            rw [gameIn?, found, Option.bind_some, Option.eq_none_iff_forall_ne_some]
            intro game played
            exact early ((coherent.sound found).busy played).1
          have different := ne_of_gameIn? busy idle
          rw [sendRoomInfo_tables, reply_tables]
          exact (modifySession_keeps_of_apart apart _).trans (.of_rooms rfl elsewhere different)

theorem setReady_keeps (different : place ≠ other) {ready : Bool} {count : Nat}
    {rooms : RoomTable} (granted : state.rooms.setReady other id ready = .ok (count, rooms)) :
    state.tables.Keeps place ({ state with rooms } : Transition).tables := by
  obtain ⟨_, _, _, elsewhere, _⟩ := RoomTable.setReady_eq_ok granted
  exact .of_rooms rfl elsewhere different

theorem getReady_keeps (different : place ≠ other) (id : Nat) (payload : String)
    (state : Transition) :
    state.tables.Keeps place (state.getReady id other payload).tables := by
  unfold getReady
  split
  · exact .refl place _
  · next count rooms granted =>
      rw [sendRoomInfo_tables, broadcast_tables]
      exact setReady_keeps different granted

theorem modifyRoom_keeps (different : place ≠ other) (change : Room → Room) (state : Transition) :
    state.tables.Keeps place (state.modifyRoom other change).tables :=
  .of_rooms rfl (RoomTable.eqExcept_modify other _ _) different

theorem startMatch_keeps (different : place ≠ other) (config : Config) (shuffle : Shuffle)
    (state : Transition) :
    state.tables.Keeps place (state.startMatch config shuffle other).tables := by
  unfold startMatch
  split
  · exact .refl place _
  · refine .trans ?_ (foldl_keeps _ _ fun state seat => ?_)
    · exact modifyRoom_keeps different _ state
    · exact modifySession_keeps place _ state fun session =>
        (session.sameButStatus_settle _).samePlayer

theorem startForOwner_keeps (different : place ≠ other) (config : Config) (shuffle : Shuffle)
    (id : Nat) (state : Transition) :
    state.tables.Keeps place (state.startForOwner config shuffle id other).tables := by
  unfold startForOwner
  split
  · exact .refl place _
  · split
    · exact .refl place _
    · split
      · exact .refl place _
      · exact startMatch_keeps different config shuffle state

theorem playAgain_keeps (different : place ≠ other) (config : Config) (shuffle : Shuffle)
    (id : Nat) (payload : String) (state : Transition) :
    state.tables.Keeps place (state.playAgain config shuffle id other payload).tables := by
  unfold playAgain
  simp only
  split
  · exact .refl place _
  · next count rooms granted =>
      have ready := setReady_keeps different granted
      split
      · exact ready.trans (startMatch_keeps different config shuffle _)
      · split <;> exact ready

theorem finishMatch_keeps (different : place ≠ other) (winner : Nat) (game : Match)
    (state : Transition) :
    state.tables.Keeps place (state.finishMatch other winner game).tables := by
  unfold finishMatch
  refine .trans ?_ (foldl_keeps _ _ fun state member => ?_)
  · exact modifyRoom_keeps different _ state
  · exact modifySession_keeps place member state fun session =>
      (session.sameButStatus_settle _).samePlayer

theorem announceTurn_keeps (place : Nat) (game : Match) (state : Transition) :
    state.tables.Keeps place (state.announceTurn game).tables :=
  foldl_keeps _ _ fun state _ =>
    modifySession_keeps place _ state fun _ => ⟨rfl, rfl, rfl⟩

theorem playMove_keeps (coherent : state.tables.Coherent) (apart : state.roomOf? id ≠ some place)
    (shuffle : Shuffle) (action : MessageType) (payload : String) :
    state.tables.Keeps place (state.playMove shuffle id action payload).tables := by
  unfold playMove
  rw [findRoom_eq_self coherent]
  simp only
  split
  · exact .refl place _
  · next other game located =>
      have different : place ≠ other := by
        rintro rfl
        obtain ⟨session, _, held, noted, _⟩ := matchOf?_eq_some located
        apply apart
        rw [roomOf?, held]
        exact noted
      have moved (after : Match) :
          state.tables.Keeps place (state.setGame other after).tables :=
        modifyRoom_keeps different _ state
      split
      · exact moved _
      · next after made =>
          split
          · exact (moved after).trans (finishMatch_keeps different id after _)
          · have shown :
                state.tables.Keeps place ((state.setGame other after).showTable after).tables := by
              rw [showTable_tables]
              exact moved after
            split
            · exact shown
            · exact shown.trans (announceTurn_keeps place after _)
            · exact shown

end Transition

end Cardroom
