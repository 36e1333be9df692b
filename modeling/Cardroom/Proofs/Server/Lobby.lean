import Cardroom.Proofs.Server.Leave
import Cardroom.Proofs.Server.Play
import Cardroom.Server.Lobby

/-!
# The lobby and the rooms keep the tables in agreement

What a player who is not in a running match asks for is granted or refused, and either way the two
tables agree afterwards.
-/

namespace Cardroom.Transition

variable {state : Transition} {id : Nat} {session : Session}

theorem createRoom_coherent (coherent : state.tables.Coherent)
    (held : state.sessions.get? id = some session) (nowhere : session.room = none)
    (known : session.IsKnown) (connected : session.isConnected) (name : String) :
    (state.createRoom id name).tables.Coherent := by
  unfold createRoom
  split
  · exact coherent
  · next place rooms granted =>
      obtain ⟨free, elsewhere, opened⟩ := RoomTable.create_eq_ok granted
      rw [sendRoomInfo_tables, reply_tables, reply_tables]
      refine coherent.welcome (.inl ⟨free, rfl⟩) held nowhere known connected rfl elsewhere
        opened rfl (.of_idle rfl ?_ ?_ rfl Room.Status.noConfusion) rfl Room.Status.noConfusion
      · simp [Room.opened, Room.memberIds]
      · simp [Room.opened, Room.memberIds, Room.places]

theorem joinRoom_coherent (coherent : state.tables.Coherent)
    (held : state.sessions.get? id = some session) (nowhere : session.room = none)
    (known : session.IsKnown) (connected : session.isConnected) (payload : String) :
    (state.joinRoom id payload).tables.Coherent := by
  unfold joinRoom
  split
  · exact coherent
  · next place number =>
      split
      · exact coherent
      · next rooms granted =>
          obtain ⟨room, joined, found, stranger, early, unfinished, space, elsewhere, now, numbered,
            members, game, waiting, open_⟩ := RoomTable.join_eq_ok granted
          have sound := coherent.sound found
          have idle : room.game = none := by
            cases played : room.game with
            | none =>
                rfl
            | some game =>
                exact absurd (sound.busy played).1 early
          rw [sendRoomInfo_tables, reply_tables]
          refine coherent.welcome (.inr ⟨room, found, rfl, idle, unfinished⟩) held nowhere known
            connected rfl elsewhere now members
            (.of_idle (numbered.trans sound.numbered) ?_ ?_ (game.trans idle) waiting)
            (game.trans idle) open_
          · rw [members, List.nodup_append]
            refine ⟨sound.distinct, by simp, ?_⟩
            rintro member present _ new rfl
            exact stranger (List.mem_singleton.1 new ▸ present)
          · rw [members, List.length_append, List.length_singleton, Room.length_memberIds]
            exact space

/-- A player in the lobby stays there, goes into a room, or quits. -/
theorem onLobby_coherent (coherent : state.tables.Coherent)
    (held : state.sessions.get? id = some session) (nowhere : session.room = none)
    (lobby : session.InLobby) (connected : session.isConnected) (now : Time) (frame : Frame) :
    (state.onLobby now id frame).2.tables.Coherent := by
  unfold onLobby
  split
  · split <;> exact coherent
  · dsimp only
    exact createRoom_coherent coherent held nowhere lobby.known connected frame.payload
  · dsimp only
    exact joinRoom_coherent coherent held nowhere lobby.known connected frame.payload
  · exact release_coherent coherent now held nowhere
  · have known := lobby.known
    exact coherent.modify_outside held nowhere rfl nowhere
      (.inr ⟨⟨known.named, known.tokened, known.dated⟩, lobby.here, lobby.away⟩)

variable {place : Nat} {room : Room}

theorem setReady_coherent (coherent : state.tables.Coherent) {ready : Bool} {count : Nat}
    {rooms : RoomTable} (granted : state.rooms.setReady place id ready = .ok (count, rooms)) :
    ({ state with rooms } : Transition).tables.Coherent := by
  obtain ⟨room, changed, found, elsewhere, now, numbered, members, game, playing, finished⟩ :=
    RoomTable.setReady_eq_ok granted
  have sound := coherent.sound found
  have resting : changed.idleStatus = room.idleStatus := by
    simp only [Room.idleStatus, finished]
  refine coherent.refitRoom found rfl elsewhere now members ⟨?_, ?_, ?_, ?_, ?_⟩ ?_
  · exact numbered.trans sound.numbered
  · rw [members]
    exact sound.distinct
  · rw [members]
    exact sound.space
  · rw [game, ne_eq, playing]
    exact sound.idle
  · rw [game, playing, members]
    exact sound.busy
  · intro session fits
    refine ⟨fits.known, ?_, ?_⟩
    · rw [game, resting]
      exact fits.idle
    · rw [game]
      exact fits.busy

theorem getReady_coherent (coherent : state.tables.Coherent) (id place : Nat) (payload : String) :
    (state.getReady id place payload).tables.Coherent := by
  unfold getReady
  split
  · exact coherent
  · next count rooms granted =>
      rw [sendRoomInfo_tables, broadcast_tables]
      exact setReady_coherent coherent granted

/-- A match starts in a room that is full, and so everybody in it is ready. -/
theorem startReady_coherent (coherent : state.tables.Coherent) (config : Config)
    (shuffle : Shuffle) (found : state.rooms.get? place = some room) (idle : room.game = none)
    (ready : room.allReady) :
    (state.startMatch config shuffle place).tables.Coherent := by
  refine startMatch_coherent coherent config shuffle found idle ?_
  rw [Room.length_memberIds]
  simp only [Room.allReady, Bool.and_eq_true, beq_iff_eq] at ready
  exact ready.1

theorem startForOwner_coherent (coherent : state.tables.Coherent) (config : Config)
    (shuffle : Shuffle) (id : Nat) (found : state.rooms.get? place = some room)
    (idle : room.game = none) :
    (state.startForOwner config shuffle id place).tables.Coherent := by
  simp only [startForOwner, found]
  split
  · exact coherent
  · split
    · exact coherent
    · next ready =>
        exact startReady_coherent coherent config shuffle found idle (by simpa using ready)

/-- A player leaves a room in which no match is played for the lobby. -/
theorem leaveToLobby_coherent (coherent : state.tables.Coherent)
    (held : state.sessions.get? id = some session) (noted : session.room = some place)
    (found : state.rooms.get? place = some room) (idle : room.game = none) :
    ((state.leaveRoom id).setStatus id .connected).tables.Coherent := by
  refine leaveRoom_coherent coherent rfl (SessionTable.modify_eq_self fun _ _ => rfl).symm
    (fun _ => rfl) held noted found idle ?_
  intro session numbered fits
  have known := fits.known
  refine ⟨rfl, rfl, .inr ⟨⟨known.named, known.tokened, known.dated⟩, fun _ => rfl, ?_⟩⟩
  intro away
  exact absurd (fits.idle idle).1 (Bool.not_eq_true _ ▸ away)

/-- A player quits from a room in which no match is played. -/
theorem quitRoom_coherent (coherent : state.tables.Coherent) (now : Time)
    (held : state.sessions.get? id = some session) (noted : session.room = some place)
    (found : state.rooms.get? place = some room) (idle : room.game = none) :
    ((state.leaveRoom id).release id now).tables.Coherent := by
  refine leaveRoom_coherent coherent rfl (SessionTable.modify_eq_self fun _ _ => rfl).symm
    (fun _ => rfl) held noted found idle ?_
  intro session numbered fits
  exact ⟨numbered.symm, rfl, .inl ⟨rfl, rfl, rfl, rfl⟩⟩

/-- A member of a room in which no match is played stays there, starts one, leaves, or quits. -/
theorem onRoom_coherent (coherent : state.tables.Coherent) (config : Config) (moment : Moment)
    (held : state.sessions.get? id = some session) (noted : session.room = some place)
    (found : state.rooms.get? place = some room) (idle : room.game = none) (frame : Frame) :
    (state.onRoom config moment id frame).2.tables.Coherent := by
  have here : state.roomOf? id = some place := by
    rw [roomOf?, held]
    exact noted
  simp only [onRoom, findRoom_eq_self coherent, here]
  split
  · exact leaveToLobby_coherent coherent held noted found idle
  · exact getReady_coherent coherent id place frame.payload
  · exact startForOwner_coherent coherent config moment.shuffle id found idle
  · exact quitRoom_coherent coherent moment.now held noted found idle
  · exact coherent

theorem playAgain_coherent (coherent : state.tables.Coherent) (config : Config)
    (shuffle : Shuffle) (id : Nat) (found : state.rooms.get? place = some room)
    (idle : room.game = none) (payload : String) :
    (state.playAgain config shuffle id place payload).tables.Coherent := by
  unfold playAgain
  simp only
  split
  · exact coherent
  · next count rooms granted =>
      have agreed := setReady_coherent coherent granted
      obtain ⟨earlier, changed, there, _, now, _, _, game, _⟩ := RoomTable.setReady_eq_ok granted
      obtain rfl : room = earlier := Option.some.inj (found.symm.trans there)
      simp only [now, Option.any_some]
      split
      · next ready =>
          exact startReady_coherent agreed config shuffle now (game.trans idle) ready
      · split <;> exact agreed

/-- A member of a room whose match is over stays there, plays again, leaves, quits, or closes it. -/
theorem onMatchDone_coherent (coherent : state.tables.Coherent) (config : Config)
    (moment : Moment) (held : state.sessions.get? id = some session)
    (noted : session.room = some place) (found : state.rooms.get? place = some room)
    (idle : room.game = none) (frame : Frame) :
    (state.onMatchDone config moment id frame).2.tables.Coherent := by
  have here : state.roomOf? id = some place := by
    rw [roomOf?, held]
    exact noted
  simp only [onMatchDone, findRoom_eq_self coherent, here]
  split
  · exact playAgain_coherent coherent config moment.shuffle id found idle frame.payload
  · refine closeRoom_coherent ?_ place
    exact coherent
  · exact leaveToLobby_coherent coherent held noted found idle
  · exact quitRoom_coherent coherent moment.now held noted found idle
  · exact coherent

end Cardroom.Transition
