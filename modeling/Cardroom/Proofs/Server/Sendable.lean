import Cardroom.Delivery.Writer
import Cardroom.Proofs.Server.Speech

/-!
# What the server says can be sent

A frame that is too long cannot be sent, and ends the connection it was meant for. With a hundred
rooms or fewer, whatever the server queues can be sent, unless it quotes what a player has sent in
place of cards. `after_within` is the step, and `run_sendable` says it of a server at all times.
`payloadTooLarge_of_quotation` is a quotation that is too long.
-/

namespace Cardroom

structure Tables.Bounded (tables : Tables) : Prop where
  names : tables.sessions.NamesShort
  rooms : tables.rooms.Bounded

/-- After a step names are short and rooms few, and what it says may be queued. -/
structure Step.Within (allowance : Frame.Allowance) (step : Step) : Prop where
  tables : step.tables.Bounded
  outbox : step.outbox.Within allowance

theorem Transition.Within.finish {allowance : Frame.Allowance} {state : Transition}
    (within : state.Within allowance) : state.finish.Within allowance :=
  ⟨⟨within.names, within.rooms⟩, within.frames⟩

namespace Tables

variable {tables : Tables} {allowance : Frame.Allowance}

theorem Bounded.start (bounded : tables.Bounded) (allowance : Frame.Allowance) :
    (Transition.start tables).Within allowance :=
  ⟨bounded.names, bounded.rooms, nofun⟩

theorem Bounded.silent (bounded : tables.Bounded) (allowance : Frame.Allowance) :
    ({ tables, outbox := {} } : Step).Within allowance :=
  ⟨bounded, nofun⟩

theorem accept_within (bounded : tables.Bounded) (now : Time) (connection : Nat) :
    (tables.accept now connection).2.Within allowance := by
  unfold accept
  split
  · next slot sessions allocated =>
      obtain ⟨_, _, _, rfl⟩ := SessionTable.allocate?_eq_some allocated
      exact ⟨⟨bounded.names.modify slot fun _ _ => nofun, bounded.rooms⟩, nofun⟩
  · have short : "Cannot connect at the moment (FULL)".utf8ByteSize ≤ Frame.maxPayload := by
      decide
    exact ⟨bounded, (bounded.silent allowance).outbox.push connection (allowance.fits short)⟩

theorem dispatch_within {state : Transition} {frame : Frame} (within : state.Within allowance)
    (counted : allowance = .any ∨ state.tables.TurnsCounted)
    (quoting : ∀ answer, frame.Quotes answer → allowance.allows answer) (config : Config)
    (moment : Moment) (slot connection : Nat) (status : Session.Status) :
    (dispatch config moment slot connection frame status state).state.Within allowance := by
  cases status with
  | disconnected =>
      exact within.onLogin moment slot connection frame
  | connected =>
      exact within.onLobby moment.now slot frame
  | inRoom =>
      exact within.onRoom config moment slot frame
  | onTurn =>
      exact within.onTurn counted quoting moment.shuffle slot
  | onWait =>
      exact within.onWait slot frame
  | paused =>
      exact within.onPaused slot frame
  | matchDone =>
      exact within.onMatchDone config moment slot frame

theorem handleFrame_within {frame : Frame} (bounded : tables.Bounded)
    (counted : allowance = .any ∨ tables.TurnsCounted)
    (quoting : ∀ answer, frame.Quotes answer → allowance.allows answer) (config : Config)
    (moment : Moment) (slot connection : Nat) :
    (tables.handleFrame config moment slot connection frame).step.Within allowance := by
  unfold handleFrame
  split
  · exact bounded.silent allowance
  · next session held =>
      split
      · exact bounded.silent allowance
      · have heard : ((Transition.start tables).modifySession slot
            (Session.touch moment.now)).Within allowance :=
          (bounded.start allowance).modifySession slot fun _ => rfl
        dsimp only
        split
        · exact heard.finish
        · exact (dispatch_within heard counted quoting config moment slot connection _).finish

theorem sweep_within (bounded : tables.Bounded) (config : Config) (now : Time) :
    (tables.sweep config now).Within allowance :=
  Transition.Within.finish (.foldl (fun id within => within.expire id now)
    (.foldl (fun id within => within.evict id now) (bounded.start allowance).pingAll _) _)

def queued (config : Config) (tables : Tables) : Event → Outbox
  | .accept now connection => (tables.accept now connection).2.outbox
  | .frame moment slot connection frame =>
      (tables.handleFrame config moment slot connection frame).step.outbox
  | .disconnect now slot connection => (tables.handleDisconnect now slot connection).outbox
  | .sweep now => (tables.sweep config now).outbox

def Event.QuotedBy (answer : Frame) : Event → Prop
  | .frame _ _ _ asked => asked.Quotes answer
  | _ => False

/-- While the server sees to an event, frames that fit may be queued, and those that quote what has
arrived. -/
def Event.answers (event : Event) : Frame.Allowance where
  allows answer := answer.Fits ∨ event.QuotedBy answer
  fits := .inl

/-- One event, and what is said during it. -/
theorem after_within (bounded : tables.Bounded) (config : Config) (event : Event)
    (counted : allowance = .any ∨ tables.TurnsCounted)
    (quoting : ∀ answer, event.QuotedBy answer → allowance.allows answer) :
    (tables.after config event).Bounded ∧ (tables.queued config event).Within allowance := by
  cases event with
  | accept now connection =>
      have step : (tables.accept now connection).2.Within allowance :=
        accept_within bounded now connection
      exact ⟨step.tables, step.outbox⟩
  | frame moment slot connection frame =>
      have step := handleFrame_within bounded counted quoting config moment slot connection
      exact ⟨step.tables, step.outbox⟩
  | disconnect now slot connection =>
      have step := ((bounded.start allowance).disconnect slot connection now).finish
      exact ⟨step.tables, step.outbox⟩
  | sweep now =>
      have step : (tables.sweep config now).Within allowance := sweep_within bounded config now
      exact ⟨step.tables, step.outbox⟩

theorem vacant_bounded (config : Config) (started : Time)
    (few : config.maxRooms ≤ RoomTable.mostRooms) :
    (Tables.vacant config started).Bounded where
  names := by
    intro id session nick held named
    rw [SessionTable.get?_vacant held] at named
    cases named
  rooms := .vacant few

theorem run_bounded (config : Config) (started : Time)
    (few : config.maxRooms ≤ RoomTable.mostRooms) (events : List Event) :
    (run config started events).Bounded :=
  run_preserves config started (vacant_bounded config started few)
    (fun _ event bounded =>
      (after_within bounded config event (.inl rfl) fun _ _ => trivial).1) events

/-- Whatever has happened to a server with a hundred rooms or fewer, and whatever happens next: each
frame that is queued can be sent, unless it quotes what has arrived. -/
theorem run_sendable (config : Config) (started : Time) (events : List Event) (event : Event)
    (few : config.maxRooms ≤ 100)
    (counted : (run config started events).TurnsCounted) :
    ∀ entry ∈ ((run config started events).queued config event).frames,
      entry.2.encode = .ok entry.2.wireBytes ∨ event.QuotedBy entry.2 := by
  intro entry member
  have within : ((run config started events).queued config event).Within event.answers :=
    (after_within (run_bounded config started few events) config event (.inr counted)
      fun _ quoted => Or.inr quoted).2
  exact (within entry member).imp_left Frame.fits_iff.1

/-- A match has been opened, and the first player discards. -/
theorem sendable_after_opening :
    let send (slot : Nat) (type : MessageType) (payload : String) : Event :=
      .frame { now := 1, token := .nth slot, shuffle := .still } slot slot { type, payload }
    let events : List Event :=
      [.accept 0 0, .accept 0 1, send 0 .login "ann", send 1 .login "ben",
        send 0 .createRoom "den", send 1 .joinRoom "0", send 0 .ready "1", send 1 .ready "1",
        send 0 .start ""]
    let event := send 0 .discard "KS"
    ({} : Config).maxRooms ≤ 100 ∧ (run {} 0 events).TurnsCounted ∧
      ((run {} 0 events).queued {} event).frames.length = 4 ∧
        ∀ entry ∈ ((run {} 0 events).queued {} event).frames,
          entry.2.encode = .ok entry.2.wireBytes ∨ event.QuotedBy entry.2 := by
  intro send events event
  have few : ({} : Config).maxRooms ≤ 100 := by decide
  have counted : (run {} 0 events).TurnsCounted := by decide +kernel
  have four : ((run {} 0 events).queued {} event).frames.length = 4 := by decide +kernel
  exact ⟨few, counted, four, run_sendable {} 0 events event few counted⟩

/-- A refused move is answered with the refusal, which goes to the player alone. -/
theorem frames_of_play_error {config : Config} {moment : Moment} {slot connection room : Nat}
    {frame : Frame} {session : Session} {game after : Match} {error : MoveError}
    (held : tables.sessions.get? slot = some session)
    (bound : session.connection = some connection) (turn : session.status = .onTurn)
    (seated : session.room = some room)
    (busy : (tables.rooms.get? room).bind Room.game = some game) (move : frame.type.isMove)
    (refused : game.play moment.shuffle slot frame.type frame.payload = (.error error, after)) :
    (tables.handleFrame config moment slot connection frame).step.outbox.frames =
      [(connection, { type := .error, payload := error.message })] := by
  have talks : ¬ (frame.type = .ping ∨ frame.type = .pong) := by
    rintro (ping | pong)
    · rw [ping] at move
      cases move
    · rw [pong] at move
      cases move
  have found := get?_heard held moment.now
  have sent : (tables.handleFrame config moment slot connection frame).step =
      (((Transition.start tables).modifySession slot (Session.touch moment.now)).playMove
        moment.shuffle slot frame.type frame.payload).finish := by
    simp only [handleFrame, held]
    rw [if_neg (not_not_intro bound), if_neg talks]
    simp only [dispatch, turn, Transition.onTurn, if_pos move]
  have quiet : ((Transition.start tables).modifySession slot
      (Session.touch moment.now)).outbox.frames = [] := rfl
  have there : ((Transition.start tables).modifySession slot (Session.touch moment.now)).gameIn?
      room = some game := busy
  rw [sent]
  generalize (Transition.start tables).modifySession slot (Session.touch moment.now) = state
    at found quiet there
  have seen : (state.findRoom slot).sessions.get? slot =
      some { session.touch moment.now with room := some room } := by
    refine (SessionTable.get?_modify slot slot _ _).trans ((if_pos rfl).trans ?_)
    rw [found, Option.map_some]
    simp [Session.touch, seated]
  have located : (state.findRoom slot).matchOf? slot = some (room, game) := by
    have still : (state.findRoom slot).gameIn? room = some game := there
    simp only [Transition.matchOf?, Transition.roomOf?, seen, Option.bind_some, still,
      Option.map_some]
  simp only [Transition.playMove, located, refused]
  show (SessionTable.notify slot .error error.message (state.findRoom slot).sessions
    state.outbox).frames = _
  rw [SessionTable.notify, seen]
  simp only [Session.notify, Session.touch, bound, Outbox.push, quiet, List.nil_append]

/-- The payload of a move can be short enough to be received, and too long to be quoted: the refusal
cannot be sent, and the writer of the connection gives up. -/
theorem payloadTooLarge_of_quotation :
    let send (slot : Nat) (type : MessageType) (payload : String) : Event :=
      .frame { now := 1, token := .nth slot, shuffle := .still } slot slot { type, payload }
    let events : List Event :=
      [.accept 0 0, .accept 0 1, send 0 .login "ann", send 1 .login "ben",
        send 0 .createRoom "den", send 1 .joinRoom "0", send 0 .ready "1", send 1 .ready "1",
        send 0 .start ""]
    let moment : Moment := { now := 1, token := .nth 0, shuffle := .still }
    let asked : Frame := { type := .layDown, payload := String.ofList (List.replicate 9999 'A') }
    asked.payload.utf8ByteSize = Frame.maxPayload ∧
      ∃ answer : Frame,
        ((run {} 0 events).handleFrame {} moment 0 0 asked).step.outbox.frames = [(0, answer)] ∧
        answer.encode = .error (.payloadTooLarge 10050) ∧
        ∀ sink queue, (Writer.writeQueue Writer.writeTimeout sink (answer :: queue)).failed := by
  intro send events moment asked
  have size : asked.payload.utf8ByteSize = 9999 := by
    rw [Text.utf8ByteSize_ofList, Text.size_eq_length, List.length_replicate]
    intro letter member
    rw [List.eq_of_mem_replicate member]
    rfl
  have plain : ∀ letter ∈ asked.payload.toList, Text.quotedChar letter = [letter] := by
    intro letter member
    rw [String.toList_ofList] at member
    rw [List.eq_of_mem_replicate member]
    decide +kernel
  have type : asked.type = .layDown := rfl
  clear_value asked
  have players : ((run {} 0 events).sessions.get? 0).any (fun session =>
      session.connection == some 0 && (session.status == .onTurn && session.room == some 0)) =
        true := by
    decide +kernel
  have table : (((run {} 0 events).rooms.get? 0).bind Room.game).any (fun game =>
      game.status == .playing && (game.seatOf? 0 == some 0 && (game.seats[0]?.isSome &&
        game.current == 0))) = true := by
    decide +kernel
  simp only [Option.any_eq_true, Bool.and_eq_true, beq_iff_eq] at players table
  obtain ⟨session, held, bound, turn, seated⟩ := players
  obtain ⟨game, busy, running, here, seats, current⟩ := table
  obtain ⟨seat, sits⟩ := Option.isSome_iff_exists.1 seats
  have mover : game.MayMove 0 0 seat := ⟨running, here, current.symm, sits⟩
  have refused : game.play .still 0 asked.type asked.payload =
      (.error (.badCards (.oddLength asked.payload)), game) := by
    rw [type]
    exact Match.play_layDown_of_odd mover (by rw [size]) (by rw [size]; decide)
  have move : asked.type.isMove := by
    rw [type]
    rfl
  have long := MoveError.message_size_of_plain plain
  rw [size] at long
  have failed : ({ type := .error, payload := (MoveError.badCards (.oddLength asked.payload)).message } :
      Frame).encode = .error (.payloadTooLarge 10050) := by
    rw [Frame.encode, long, if_neg (by decide)]
  refine ⟨size, _, frames_of_play_error held bound turn seated busy move refused, failed, ?_⟩
  intro sink queue
  rw [Writer.writeQueue, Sink.writeFrame, failed]

end Tables

end Cardroom
