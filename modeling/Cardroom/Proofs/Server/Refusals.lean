import Cardroom.Proofs.Match.Refusal
import Cardroom.Proofs.Server.Informs
import Cardroom.Proofs.Server.Tells

/-!
# Requests that are refused

Whatever a player asks for, the request is granted or the player alone is told that it is not.
`run_refused` says that then nothing has changed, except that the player was heard of, and that the
draw pile of the player's match may have been rebuilt.
-/

namespace Cardroom

/-- Whether a frame of this type refuses what a player of the given status has asked for. After a
match the type that refuses to start another one also asks the player to wait. -/
def MessageType.refuses (status : Session.Status) : MessageType → Bool
  | .error | .createFailed | .joinFailed => true
  | .startFailed => status == .inRoom
  | _ => false

/-- What can become of a request from the player of a slot: the slot to which the connection is
bound afterwards, and the transition. -/
inductive Transition.Answers (status : Session.Status) (id : Nat) (state : Transition) :
    Nat → Transition → Prop
  | granted {slot : Nat} {after : Transition} :
      (∀ entry ∈ after.outbox.frames, entry.2.type.refuses status = false) →
      Answers status id state slot after
  | answered {type : MessageType} {text : String} :
      Answers status id state id (state.reply id type text)
  | rebuilt {place : Nat} {game : Match} {drawPile discardPile : List Card} :
      state.matchOf? id = some (place, game) →
      Answers status id state id
        ((state.setGame place { game with drawPile, discardPile }).reply id .error
          MoveError.deckRebuilt.message)

namespace Transition

variable {state after : Transition} {status : Session.Status} {id slot : Nat} {session : Session}

/-- Nothing has been refused if nobody was told so. -/
theorem Tells.unrefused (before : Transition)
    (told : after.Tells (fun type => !type.refuses status) before) (quiet : before.outbox = {}) :
    ∀ entry ∈ after.outbox.frames, entry.2.type.refuses status = false := by
  obtain ⟨added, extended, ofKind⟩ := told.queued.frames
  intro entry listed
  rw [extended, quiet] at listed
  simpa using (ofKind entry listed).1

theorem Answers.of_silent (quiet : after.outbox = {}) : Answers status id state slot after :=
  .granted (Tells.unrefused after (.refl after) quiet)

theorem setGame_eq_self {place : Nat} {game : Match}
    (located : state.matchOf? id = some (place, game)) :
    state.setGame place game = state := by
  obtain ⟨_, room, -, -, found, busy⟩ := matchOf?_eq_some located
  have rooms : (state.setGame place game).rooms = state.rooms := by
    refine RoomTable.modify_eq_self fun other there => ?_
    obtain rfl : room = other := Option.some.inj (found.symm.trans there)
    rw [← busy]
  cases state
  exact congrArg (Transition.mk _ · _) rooms

theorem loginNew_answers (quiet : state.outbox = {}) (moment : Moment) (id : Nat) (nick : String) :
    Answers status id state (state.loginNew moment id nick).slot
      (state.loginNew moment id nick).state := by
  have welcomed (change : Session → Session) (text : String) :
      Answers status id state id ((state.modifySession id change).reply id .okay text) :=
    .granted (Tells.unrefused (state.modifySession id change) ((Tells.refl _).reply rfl id) quiet)
  unfold loginNew
  split
  · exact .answered
  · exact welcomed _ _

theorem loginAgain_answers (quiet : state.outbox = {}) (now : Time) (id connection : Nat)
    (nick token : String) :
    Answers status id state (state.loginAgain now id connection nick token).slot
      (state.loginAgain now id connection nick token).state := by
  unfold loginAgain
  split
  · exact .answered
  · next existing _ =>
      split
      · exact .of_silent quiet
      · split
        · exact .answered
        · split
          · exact .answered
          · have freed : (if existing = id then state else state.release id now).outbox = {} := by
              split <;> exact quiet
            generalize (if existing = id then state else state.release id now) = free at freed
            refine .granted (Tells.unrefused
              (free.modifySession existing (Session.rebind connection now)) ?_ freed)
            refine ((Tells.refl _).reply rfl existing).resume ?_ existing
            simp [MessageType.refuses]

theorem onLogin_answers (quiet : state.outbox = {}) (moment : Moment) (id connection : Nat)
    (frame : Frame) :
    Answers status id state (state.onLogin moment id connection frame).slot
      (state.onLogin moment id connection frame).state := by
  unfold onLogin
  split
  · split
    · exact .answered
    · exact loginNew_answers quiet moment id _
    · exact loginAgain_answers quiet moment.now id connection _ _
  · exact .of_silent quiet
  · exact .of_silent quiet

theorem createRoom_answers (quiet : state.outbox = {}) (id : Nat) (name : String) :
    Answers status id state id (state.createRoom id name) := by
  unfold createRoom
  split
  · exact .answered
  · next room rooms _ =>
      refine .granted (Tells.unrefused state (Tells.sendRoomInfo ?_ rfl room) quiet)
      refine Tells.reply (Tells.reply ?_ rfl id) rfl id
      exact ((Tells.refl state).withRooms rooms).modifySession id fun _ => rfl

theorem joinRoom_answers (quiet : state.outbox = {}) (id : Nat) (payload : String) :
    Answers status id state id (state.joinRoom id payload) := by
  unfold joinRoom
  split
  · exact .answered
  · split
    · exact .answered
    · next room rooms _ =>
        refine .granted (Tells.unrefused state (Tells.sendRoomInfo ?_ rfl _) quiet)
        refine Tells.reply ?_ rfl id
        exact ((Tells.refl state).withRooms _).modifySession id fun _ => rfl

theorem onLobby_answers (quiet : state.outbox = {}) (now : Time) (id : Nat) (frame : Frame) :
    Answers status id state id (state.onLobby now id frame).2 := by
  unfold onLobby
  split
  · split
    · exact .granted (Tells.unrefused state ((Tells.refl state).reply rfl id) quiet)
    · exact .granted (Tells.unrefused state ((Tells.refl state).reply rfl id) quiet)
  · exact createRoom_answers quiet id frame.payload
  · exact joinRoom_answers quiet id frame.payload
  · exact .of_silent quiet
  · exact .of_silent quiet

theorem getReady_answers (quiet : state.outbox = {}) (id room : Nat) (payload : String) :
    Answers status id state id (state.getReady id room payload) := by
  unfold getReady
  split
  · exact .answered
  · refine .granted (Tells.unrefused state (Tells.sendRoomInfo ?_ rfl room) quiet)
    exact Tells.broadcast ((Tells.refl state).withRooms _) rfl room none

theorem startForOwner_answers (quiet : state.outbox = {}) (config : Config) (shuffle : Shuffle)
    (id room : Nat) :
    Answers status id state id (state.startForOwner config shuffle id room) := by
  unfold startForOwner
  split
  · exact .answered
  · split
    · exact .answered
    · split
      · exact .answered
      · refine .granted (Tells.unrefused state ?_ quiet)
        refine (Tells.refl state).startMatch ?_ config shuffle room
        simp [MessageType.refuses]

/-- Whoever is in a room or has played a match is so in a room that the session notes. -/
theorem exists_roomOf? (coherent : state.tables.Coherent)
    (held : state.sessions.get? id = some session) (connected : session.isConnected)
    (status : session.status = .inRoom ∨ session.status = .matchDone) :
    ∃ room, state.roomOf? id = some room := by
  obtain ⟨room, noted, -⟩ := coherent.resting held connected status
  exact ⟨room, by rw [roomOf?, held, Option.bind_some, noted]⟩

theorem onRoom_answers (coherent : state.tables.Coherent) (quiet : state.outbox = {})
    {room : Nat} (noted : state.roomOf? id = some room) (config : Config) (moment : Moment)
    (frame : Frame) :
    Answers status id state id (state.onRoom config moment id frame).2 := by
  have left : (state.leaveRoom id).Tells (fun type => !type.refuses status) state :=
    (Tells.refl state).leaveRoom rfl rfl id
  unfold onRoom
  simp only [findRoom_eq_self coherent, noted]
  split
  · refine .granted (Tells.unrefused state (Tells.reply ?_ rfl id) quiet)
    exact left.setStatus id .connected
  · exact getReady_answers quiet id room frame.payload
  · exact startForOwner_answers quiet config moment.shuffle id room
  · have spoken := left.unrefused state quiet
    exact .granted spoken
  · exact .of_silent quiet

theorem playMove_answers (coherent : state.tables.Coherent) (quiet : state.outbox = {})
    (shuffle : Shuffle) (id : Nat) (action : MessageType) (payload : String) :
    Answers status id state id (state.playMove shuffle id action payload) := by
  unfold playMove
  simp only [findRoom_eq_self coherent]
  split
  · exact .answered
  · next place game located =>
      split
      · next error after refused =>
          obtain ⟨unchanged, changed⟩ := Match.play_error_eq_self_or_rebuilt refused
          by_cases isRebuilt : error = .deckRebuilt
          · obtain ⟨-, top, rest, -, -, same, -⟩ := changed isRebuilt
            rw [same, isRebuilt]
            exact .rebuilt located
          · rw [unchanged isRebuilt, setGame_eq_self located]
            exact .answered
      · next after made =>
          have set : (state.setGame place after).Tells (fun type => !type.refuses status) state :=
            (Tells.refl state).withRooms _
          have shown := set.showTable rfl after
          split
          · exact .granted ((set.finishMatch rfl place id after).unrefused state quiet)
          · split
            · exact .granted ((shown.reply rfl id).unrefused state quiet)
            · refine .granted ((shown.announceTurn ?_ after).unrefused state quiet)
              simp [MessageType.refuses]
            · exact .granted (shown.unrefused state quiet)

theorem onTurn_answers (coherent : state.tables.Coherent) (quiet : state.outbox = {})
    (shuffle : Shuffle) (id : Nat) (frame : Frame) :
    Answers status id state id (state.onTurn shuffle id frame).2 := by
  unfold onTurn
  split
  · exact playMove_answers coherent quiet shuffle id frame.type frame.payload
  · exact .of_silent quiet

theorem onWait_answers (quiet : state.outbox = {}) (id : Nat) (frame : Frame) :
    Answers status id state id (state.onWait id frame).2 := by
  unfold onWait
  split
  · exact .of_silent quiet
  · exact .answered

theorem onPaused_answers (quiet : state.outbox = {}) (id : Nat) (frame : Frame) :
    Answers status id state id (state.onPaused id frame).2 := by
  unfold onPaused
  split
  · exact .of_silent quiet
  · exact .answered

theorem playAgain_answers (quiet : state.outbox = {}) (config : Config) (shuffle : Shuffle)
    (id room : Nat) (payload : String) :
    Answers .matchDone id state id (state.playAgain config shuffle id room payload) := by
  unfold playAgain
  dsimp only
  split
  · exact .answered
  · next count rooms _ =>
      have set : ({ state with rooms } : Transition).Tells
          (fun type => !type.refuses .matchDone) state :=
        (Tells.refl state).withRooms rooms
      split
      · refine .granted ((set.startMatch ?_ config shuffle room).unrefused state quiet)
        simp [MessageType.refuses]
      · split
        · refine .granted (Tells.unrefused state (Tells.reply ?_ rfl id) quiet)
          exact set.broadcast rfl room none
        · exact .granted ((set.broadcast rfl room none).unrefused state quiet)

theorem onMatchDone_answers (coherent : state.tables.Coherent) (quiet : state.outbox = {})
    {room : Nat} (noted : state.roomOf? id = some room) (config : Config) (moment : Moment)
    (frame : Frame) :
    Answers .matchDone id state id (state.onMatchDone config moment id frame).2 := by
  have left : (state.leaveRoom id).Tells (fun type => !type.refuses .matchDone) state :=
    (Tells.refl state).leaveRoom rfl rfl id
  unfold onMatchDone
  simp only [findRoom_eq_self coherent, noted]
  split
  · exact playAgain_answers quiet config moment.shuffle id room frame.payload
  · refine .granted (Tells.unrefused state (Tells.closeRoom ?_ room) quiet)
    exact (Tells.refl state).broadcast rfl room none
  · refine .granted (Tells.unrefused state (Tells.reply ?_ rfl id) quiet)
    exact left.setStatus id .connected
  · have spoken := left.unrefused state quiet
    exact .granted spoken
  · exact .answered

/-! ## Any request -/

theorem dispatch_answers (coherent : state.tables.Coherent) (quiet : state.outbox = {})
    (held : state.sessions.get? id = some session) (connected : session.isConnected)
    (config : Config) (moment : Moment) (connection : Nat) (frame : Frame) :
    Answers session.status id state
      (Tables.dispatch config moment id connection frame session.status state).slot
      (Tables.dispatch config moment id connection frame session.status state).state := by
  unfold Tables.dispatch
  cases status : session.status with
  | disconnected =>
      exact onLogin_answers quiet moment id connection frame
  | connected =>
      exact onLobby_answers quiet moment.now id frame
  | inRoom =>
      obtain ⟨room, noted⟩ := exists_roomOf? coherent held connected (.inl status)
      exact onRoom_answers coherent quiet noted config moment frame
  | onTurn =>
      exact onTurn_answers coherent quiet moment.shuffle id frame
  | onWait =>
      exact onWait_answers quiet id frame
  | paused =>
      exact onPaused_answers quiet id frame
  | matchDone =>
      obtain ⟨room, noted⟩ := exists_roomOf? coherent held connected (.inr status)
      exact onMatchDone_answers coherent quiet noted config moment frame

/-- Whoever is told something when nothing else has been said is the only one. -/
theorem reply_outbox {connection : Nat} (held : state.sessions.get? id = some session)
    (bound : session.connection = some connection) (quiet : state.outbox = {}) (type : MessageType)
    (text : String) :
    (state.reply id type text).outbox =
      { frames := [(connection, { type, payload := text })], closing := [] } := by
  simp only [reply, SessionTable.notify, held, Session.notify, bound, quiet]
  rfl

/-- What has changed when a request is refused. -/
theorem Answers.unchanged {connection : Nat} {answer : Frame}
    (answers : Answers status id state slot after) (quiet : state.outbox = {})
    (held : state.sessions.get? id = some session) (bound : session.connection = some connection)
    (told : (connection, answer) ∈ after.outbox.frames) (refuses : answer.type.refuses status) :
    slot = id ∧ after.outbox = { frames := [(connection, answer)], closing := [] } ∧
      after.sessions = state.sessions ∧
      (after.rooms = state.rooms ∨
        answer.payload = MoveError.deckRebuilt.message ∧
          ∃ place game drawPile discardPile, state.matchOf? id = some (place, game) ∧
            after.rooms = state.rooms.modify place fun room =>
              { room with game := some { game with drawPile, discardPile } }) := by
  cases answers with
  | granted unrefused =>
      rw [unrefused _ told] at refuses
      cases refuses
  | @answered type text =>
      have alone := reply_outbox held bound quiet type text
      rw [alone] at told ⊢
      obtain rfl := (Prod.mk.inj (List.mem_singleton.1 told)).2
      exact ⟨rfl, rfl, rfl, .inl rfl⟩
  | @rebuilt place game drawPile discardPile located =>
      let rebuilt := state.setGame place { game with drawPile, discardPile }
      have alone : (rebuilt.reply id .error _).outbox = _ :=
        reply_outbox held bound quiet .error MoveError.deckRebuilt.message
      rw [alone] at told ⊢
      obtain rfl := (Prod.mk.inj (List.mem_singleton.1 told)).2
      exact ⟨rfl, rfl, rfl, .inr ⟨rfl, place, game, drawPile, discardPile, located, rfl⟩⟩

end Transition

namespace Tables

variable {before : Tables} {slot connection : Nat} {session : Session}

/-- A request on the connection of a slot was refused with an answer: nobody else is told anything,
and nothing has changed but that the player was heard of. Only the two piles of the player's match
may have changed if that is what the answer says. -/
structure Refused (before : Tables) (now : Time) (slot connection : Nat) (answer : Frame)
    (handled : Handled) : Prop where
  stays : handled.slot = slot
  sessions : handled.step.tables.sessions = before.sessions.modify slot (Session.touch now)
  rooms : handled.step.tables.rooms = before.rooms ∨
    answer.payload = MoveError.deckRebuilt.message ∧
      ∃ place game drawPile discardPile,
        (Transition.start before).matchOf? slot = some (place, game) ∧
          handled.step.tables.rooms = before.rooms.modify place fun room =>
            { room with game := some { game with drawPile, discardPile } }
  outbox : handled.step.outbox = { frames := [(connection, answer)], closing := [] }

theorem handleFrame_refused (coherent : before.Coherent)
    (held : before.sessions.get? slot = some session)
    (bound : session.connection = some connection) (config : Config) (moment : Moment)
    (frame : Frame) {answer : Frame}
    (told : (connection, answer) ∈
      (before.handleFrame config moment slot connection frame).step.outbox.frames)
    (refuses : answer.type.refuses session.status) :
    before.Refused moment.now slot connection answer
      (before.handleFrame config moment slot connection frame) := by
  have connected : session.isConnected := by
    rw [Session.isConnected, bound]
    rfl
  have heard := get?_heard held moment.now
  have answers := Transition.dispatch_answers (heard_coherent coherent moment.now slot) rfl heard
    connected config moment connection frame
  simp only [handleFrame, held, bound, ne_eq, not_true_eq_false, if_false] at told ⊢
  by_cases alive : frame.type = .ping ∨ frame.type = .pong
  · rw [if_pos alive] at told
    cases told
  · rw [if_neg alive] at told ⊢
    obtain ⟨stays, alone, sessions, rooms⟩ := answers.unchanged rfl heard bound told refuses
    refine ⟨stays, sessions, rooms.imp_right ?_, alone⟩
    rintro ⟨rebuilt, place, game, drawPile, discardPile, located, changed⟩
    refine ⟨rebuilt, place, game, drawPile, discardPile, ?_, changed⟩
    have kept (session : Session) : (session.touch moment.now).room = session.room :=
      rfl
    have noted := Transition.Confined.roomOf?_modifySession kept slot slot (.start before)
    rw [← located, Transition.matchOf?, Transition.matchOf?, noted]
    rfl

/-- Whatever has happened to a server since it was started: a frame from a player that is answered
with a refusal changes nothing. -/
theorem run_refused (config : Config) (started : Time) (events : List Event)
    (held : (run config started events).sessions.get? slot = some session)
    (bound : session.connection = some connection) (moment : Moment) (frame : Frame)
    {answer : Frame}
    (told : (connection, answer) ∈ ((run config started events).handleFrame config moment slot
      connection frame).step.outbox.frames)
    (refuses : answer.type.refuses session.status) :
    (run config started events).Refused moment.now slot connection answer
      ((run config started events).handleFrame config moment slot connection frame) :=
  handleFrame_refused (run_coherent config started events) held bound config moment frame told
    refuses

/-- The owner of a room wants to start a match alone. -/
theorem refused_of_start_alone :
    let moment : Moment := { now := 1, token := .nth 0, shuffle := .still }
    let send (type : MessageType) (payload : String) : Event :=
      .frame moment 0 0 { type, payload }
    let tables := run {} 0 [.accept 0 0, send .login "ann", send .createRoom "den"]
    let handled := tables.handleFrame {} moment 0 0 { type := .start, payload := "" }
    let answer : Frame := { type := .startFailed, payload := "Not all players are ready" }
    (∃ session, tables.sessions.get? 0 = some session ∧ session.connection = some 0 ∧
      answer.type.refuses session.status) ∧
      (0, answer) ∈ handled.step.outbox.frames ∧ tables.Refused 1 0 0 answer handled := by
  intro moment send tables handled answer
  have inRoom : (tables.sessions.get? 0).any (fun session =>
      session.connection == some 0 && answer.type.refuses session.status) = true := by
    decide +kernel
  obtain ⟨session, held, fields⟩ := (Option.any_eq_true _ _).1 inRoom
  simp only [Bool.and_eq_true, beq_iff_eq] at fields
  obtain ⟨bound, refuses⟩ := fields
  have told : (0, answer) ∈ handled.step.outbox.frames := by
    decide +kernel
  exact ⟨⟨session, held, bound, refuses⟩, told,
    run_refused {} 0 _ held bound moment _ told refuses⟩

end Tables

end Cardroom
