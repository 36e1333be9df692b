import Cardroom.Proofs.Server.Ending

/-!
# Nobody has an old table in front of them

While a match runs, a frame from anybody either shows each of its players the table as it is after
the frame, or leaves the table as that player sees it. `Match.Told` lists all that a player of a
running match may be told, `handleFrame_told` says that there is nothing else, and `run_upToDate`
that this holds in every state that a server can get into.
-/

namespace Cardroom

def Outbox.framesOf (types : List MessageType) (connection : Nat) (outbox : Outbox) : List Frame :=
  (outbox.framesFor connection).filter fun frame => frame.type ∈ types

namespace Match

def turnFrame (id : Nat) (game : Match) : Frame where
  type := (Transition.turnNotice (game.isTurnOf id)).2.1
  payload := (Transition.turnNotice (game.isTurnOf id)).2.2

/-- What is said to a player about a move, besides showing the table. -/
def remarks (mover : Nat) (action : MessageType) (id : Nat) (game : Match) : List Frame :=
  match action with
  | .addCard => if mover = id then [{ type := .okay, payload := "Card attached" }] else []
  | .discard => [game.turnFrame id]
  | _ => []

/-- What a frame from the player of a slot makes of a running match that goes on after it, and the
frames for a player of the match. -/
inductive Told (shuffle : Shuffle) (slot : Nat) (frame : Frame) (game : Match) (id : Nat) :
    Match → List Frame → Prop
  | same {after : Match} {answers : List Frame} :
      game.SameFace after → after.status = game.status →
      (∀ answer ∈ answers, answer.type = .error) →
      Told shuffle slot frame game id after answers
  | shown {after : Match} {view : String} :
      game.play shuffle slot frame.type frame.payload = (.ok (), after) →
      after.view? id = some view →
      Told shuffle slot frame game id after
        ({ type := .state, payload := view } :: after.remarks slot frame.type id)

variable {game after : Match} {shuffle : Shuffle} {slot id : Nat} {frame : Frame}

theorem Told.nothing : game.Told shuffle slot frame id game [] :=
  .same (.refl game) rfl (List.forall_mem_nil _)

theorem turnFrame_of_current (turn : game.currentSession? = some id) :
    game.turnFrame id = { type := .turn, payload := "Your turn" } := by
  rw [turnFrame, isTurnOf, turn, beq_self_eq_true]
  rfl

theorem turnFrame_of_other {next : Nat} (turn : game.currentSession? = some next)
    (different : next ≠ id) :
    game.turnFrame id = { type := .wait, payload := "Wait for your opponent" } := by
  have other : game.isTurnOf id = false := by
    rw [isTurnOf, turn]
    exact beq_false_of_ne fun same => different (Option.some.inj same)
  rw [turnFrame, other]
  rfl

theorem not_state_of_mem_remarks {mover : Nat} {action : MessageType} {remark : Frame}
    (listed : remark ∈ game.remarks mover action id) :
    remark.type ≠ .state := by
  unfold remarks at listed
  split at listed
  · split at listed
    · rw [List.mem_singleton.1 listed]
      decide
    · cases listed
  · rw [List.mem_singleton.1 listed, turnFrame]
    cases game.isTurnOf id <;> decide
  · cases listed

/-- A player is shown the table once, or it looks as before. -/
theorem Told.upToDate {frames : List Frame} (told : game.Told shuffle slot frame id after frames)
    (sits : id ∈ game.seats.map Seat.session) :
    ∃ view, after.view? id = some view ∧
      (frames.filter (fun frame => frame.type ∈ [MessageType.state]) =
          [{ type := .state, payload := view }] ∨
        frames.filter (fun frame => frame.type ∈ [MessageType.state]) = [] ∧
          game.view? id = some view) := by
  cases told with
  | same face status errors =>
      obtain ⟨view, shown⟩ := exists_view? sits
      refine ⟨view, (face.view?_eq status id).trans shown, .inr ⟨?_, shown⟩⟩
      refine List.filter_eq_nil_iff.2 fun answer listed => ?_
      simp [errors answer listed]
  | @shown view made visible =>
      refine ⟨view, visible, .inl ?_⟩
      have none : (after.remarks slot frame.type id).filter
          (fun remark => remark.type ∈ [MessageType.state]) = [] := by
        refine List.filter_eq_nil_iff.2 fun remark listed => ?_
        simp [not_state_of_mem_remarks listed]
      rw [List.filter_cons, none]
      rfl

/-- A match goes on when somebody has discarded, and one of its players is on turn. -/
theorem play_discard (present : game.allActive = true) {payload : String}
    (made : game.play shuffle slot .discard payload = (.ok (), after)) :
    after.status = .playing ∧ ∃ next, after.currentSession? = some next := by
  obtain ⟨running, follows⟩ := follows_of_play_ok made
  cases follows with
  | finished ended =>
      have asked := (closes_of_finished present made ended).1
      cases asked
  | passed _ players status _ current =>
      refine ⟨status.trans running, ?_⟩
      rw [currentSession?_eq, players, List.getElem?_eq_getElem current]
      exact ⟨_, rfl⟩
  | same other _ =>
      exact absurd rfl other

/-- Who sits at the table does not change as long as the match goes on. -/
theorem Course.sessions {place : Nat}
    (course : Course shuffle slot frame place (some game) (some after)) :
    after.seats.map Seat.session = game.seats.map Seat.session := by
  cases course with
  | kept same =>
      exact sessions_of_gathered (Option.some.inj same)
  | moved running unfinished =>
      exact map_session_play shuffle slot frame.type frame.payload game

end Match

/-! ## Moves -/

namespace Transition

variable {before : Tables} {state : Transition} {game after : Match} {id connection : Nat}

/-- Everybody at the table is told whose turn it is. -/
theorem framesFor_announceTurn (distinct : (game.seats.map Seat.session).Nodup)
    (sits : id ∈ game.seats.map Seat.session) (only : state.tables.IsOnly connection id) :
    (state.announceTurn game).outbox.framesFor connection =
      state.outbox.framesFor connection ++ [game.turnFrame id] := by
  have settled (member : Nat) (status : Session.Status) (state : Transition) :
      (state.setStatus member status).tables.occupants = state.tables.occupants :=
    modifySession_occupants fun _ => rfl
  refine listen_foldl (Outbox.framesFor connection) Seat.session (fun id => [game.turnFrame id])
    ?_ ?_ distinct sits only
  · intro state seat
    rw [framesFor_reply, Tables.connectionOf?_congr (settled _ _ state)]
    rfl
  · exact fun state seat => settled _ _ state

variable {place slot : Nat} {shuffle : Shuffle} {action : MessageType} {payload : String}

/-- Nothing but a refusal is said. -/
theorem error_of_mem_reply (silent : state.outbox = {}) {text : String} :
    ∀ answer ∈ (state.reply slot .error text).outbox.framesFor connection,
      answer.type = .error := by
  intro answer listed
  rw [framesFor_reply, silent] at listed
  split at listed
  · rw [List.mem_singleton.1 listed]
  · cases listed

/-- A move that is made is shown to everybody at the table. -/
theorem framesFor_playMove_of_ok (coherent : before.Coherent)
    (located : (start before).matchOf? slot = some (place, game))
    (made : game.play shuffle slot action payload = (.ok (), after))
    (unfinished : after.status ≠ .finished) (distinct : (after.seats.map Seat.session).Nodup)
    (sits : id ∈ after.seats.map Seat.session) (only : before.IsOnly connection id)
    {view : String} (shown : after.view? id = some view) :
    ((start before).playMove shuffle slot action payload).outbox.framesFor connection =
      { type := .state, payload := view } :: after.remarks slot action id := by
  have agrees : (start before).tables.Coherent := coherent
  have seated : ((start before).setGame place after).tables.IsOnly connection id := only
  have table := framesFor_showTable distinct sits seated
  rw [shown] at table
  have only' : (((start before).setGame place after).showTable after).tables.IsOnly connection id :=
    (showTable_tables after _).symm ▸ seated
  unfold playMove
  simp only [findRoom_eq_self agrees slot, located, made, if_neg unfinished]
  split
  · rw [framesFor_reply, table]
    by_cases own : slot = id
    · rw [if_pos ((only' slot).2 own), Match.remarks, if_pos own]
      rfl
    · rw [if_neg (mt (only' slot).1 own), Match.remarks, if_neg own]
      rfl
  · rw [framesFor_announceTurn distinct sits only', table]
    rfl
  · rw [table]
    unfold Match.remarks
    split
    · contradiction
    · contradiction
    · rfl

/-- A refused move is answered to whoever has asked for it. -/
theorem framesFor_playMove_of_error (coherent : before.Coherent)
    (located : (start before).matchOf? slot = some (place, game)) {error : MoveError}
    (refused : game.play shuffle slot action payload = (.error error, after)) :
    ∀ answer ∈ ((start before).playMove shuffle slot action payload).outbox.framesFor connection,
      answer.type = .error := by
  have agrees : (start before).tables.Coherent := coherent
  unfold playMove
  simp only [findRoom_eq_self agrees slot, located, refused]
  exact error_of_mem_reply rfl

/-- What the players of a match are told by a move in it, or by the attempt at one. -/
theorem playMove_told (coherent : before.Coherent)
    (located : (start before).matchOf? slot = some (place, game))
    (running : game.status = .playing) {frame : Frame}
    (later : ((start before).playMove shuffle slot frame.type frame.payload).gameIn? place =
      some after)
    (sits : id ∈ game.seats.map Seat.session) (only : before.IsOnly connection id) :
    game.Told shuffle slot frame id after
      (((start before).playMove shuffle slot frame.type frame.payload).outbox.framesFor
        connection) := by
  obtain ⟨-, room, -, -, found, busy⟩ := matchOf?_eq_some located
  have distinct := (coherent.sound found).nodup_seats busy
  have seats := Match.map_session_play shuffle slot frame.type frame.payload game
  cases made : game.play shuffle slot frame.type frame.payload with
  | mk answer next =>
      rw [made] at seats
      cases answer with
      | error error =>
          have table := Match.sameTable_of_play_error made
          have unfinished : next.status ≠ .finished := by
            rw [table.status, running]
            decide
          rw [gameIn?_playMove coherent located (made ▸ unfinished), made] at later
          obtain rfl : next = after := Option.some.inj later
          exact .same (Match.sameFace_of_play_error made) table.status
            (framesFor_playMove_of_error coherent located made)
      | ok =>
          have unfinished : next.status ≠ .finished := by
            intro finished
            rw [playMove_of_finished coherent located made finished,
              finishMatch_gameIn? (RoomTable.get?_modify_self found _)] at later
            cases later
          rw [gameIn?_playMove coherent located (made ▸ unfinished), made] at later
          obtain rfl : next = after := Option.some.inj later
          have sits' : id ∈ next.seats.map Seat.session := seats.symm ▸ sits
          obtain ⟨view, shown⟩ := Match.exists_view? sits'
          rw [framesFor_playMove_of_ok coherent located made unfinished (seats.symm ▸ distinct)
            sits' only shown]
          exact .shown made shown

end Transition

namespace Tables

variable {tables : Tables} {place slot connection id : Nat} {game after : Match}
  {session : Session} {config : Config} {moment : Moment} {frame : Frame}

section

variable {before later : Tables} {involved : Nat → Prop}

/-- Whoever is a member of a room with a match plays in it. -/
theorem Coherent.sitsIn_iff (coherent : tables.Coherent)
    (busy : (Transition.start tables).gameIn? place = some game) :
    tables.SitsIn id place ↔ id ∈ game.seats.map Seat.session := by
  obtain ⟨room, found, played⟩ := Option.bind_eq_some_iff.1 busy
  have found : tables.rooms.get? place = some room := found
  rw [(coherent.sound found).sessions played]
  constructor
  · rintro ⟨other, there, member⟩
    obtain rfl := Option.some.inj (found.symm.trans there)
    exact member
  · exact fun member => ⟨room, found, member⟩

/-- Nobody is a member of two rooms. -/
theorem Coherent.sitsIn_unique (coherent : tables.Coherent) {other : Nat}
    (here : tables.SitsIn id place) (there : tables.SitsIn id other) :
    other = place := by
  obtain ⟨_, found, member⟩ := here
  obtain ⟨_, found', member'⟩ := there
  obtain ⟨session, held, noted⟩ := coherent.seated found member
  obtain ⟨_, held', noted'⟩ := coherent.seated found' member'
  obtain rfl := Option.some.inj (held.symm.trans held')
  exact Option.some.inj (noted'.symm.trans noted)

/-- The members of a room in which nobody is involved are bystanders. -/
theorem Coherent.bystander (coherent : before.Coherent) (coherent' : later.Coherent)
    (here : before.SitsIn id place) (here' : later.SitsIn id place)
    (apart : ¬Concerned involved before later place) :
    Bystander involved before later id := by
  refine ⟨fun own => apart ⟨id, own, .inl here⟩, ?_, ?_⟩
  · rintro other concerned there
    exact apart (coherent.sitsIn_unique here there ▸ concerned)
  · rintro other concerned there
    exact apart (coherent'.sitsIn_unique here' there ▸ concerned)

end

section

variable {came : List Nat} (coherent : tables.Coherent)
  (busy : (Transition.start tables).gameIn? place = some game) (running : game.status = .playing)
  (later : (Transition.start (tables.handleFrame config moment slot connection
    frame).step.tables).gameIn? place = some after)

include coherent busy

/-- Two players sit at the table. -/
theorem Coherent.two_seats :
    ∃ first second, first ≠ second ∧ game.seats.map Seat.session = [first, second] := by
  obtain ⟨room, found, played⟩ := Option.bind_eq_some_iff.1 busy
  have agrees := coherent.matchAgrees found played
  obtain ⟨first, second, members⟩ := List.length_eq_two.1 agrees.full
  have distinct := agrees.distinct
  rw [members] at distinct
  exact ⟨first, second, by simpa using distinct, agrees.seats.trans members⟩

/-- Everybody who sits there has an opponent. -/
theorem Coherent.opponent (sits : id ∈ game.seats.map Seat.session) :
    ∃ other, id ≠ other ∧ (game.seats.map Seat.session = [id, other] ∨
      game.seats.map Seat.session = [other, id]) := by
  obtain ⟨first, second, different, seats⟩ := coherent.two_seats busy
  rw [seats] at sits ⊢
  rcases List.mem_pair.1 sits with rfl | rfl
  · exact ⟨second, different, .inl rfl⟩
  · exact ⟨first, different.symm, .inr rfl⟩

include running

/-- The players of a running match are all there. -/
theorem Coherent.present (sits : id ∈ game.seats.map Seat.session) :
    ∃ own, tables.connectionOf? id = some own := by
  obtain ⟨room, found, played⟩ := Option.bind_eq_some_iff.1 busy
  exact coherent.connected found played running ((coherent.sound found).sessions played ▸ sits)

theorem Coherent.allActive : game.allActive = true := by
  obtain ⟨room, found, played⟩ := Option.bind_eq_some_iff.1 busy
  obtain ⟨-, -, isOf⟩ := (coherent.sound found).busy played
  exact isOf.playing_iff.1 running

include later

/-- Somebody who does not play in a match does not come to it either: nobody comes back to a match
whose players are all there. -/
theorem handleFrame_apart (stranger : slot ∉ game.seats.map Seat.session) :
    ¬Concerned ((tables.handleFrame config moment slot connection frame).Involves slot) tables
      (tables.handleFrame config moment slot connection frame).step.tables place := by
  have course := handleFrame_course coherent config moment slot connection frame place
  rw [busy, later] at course
  rintro ⟨other, involved, there⟩
  have seated : other ∈ game.seats.map Seat.session := by
    rcases there with there | there
    · exact (coherent.sitsIn_iff busy).1 there
    · rw [← course.sessions]
      have coherent' := handleFrame_coherent coherent config moment slot connection frame
      exact (coherent'.sitsIn_iff later).1 there
  have moved : other ≠ slot := by
    rintro rfl
    exact stranger seated
  obtain rfl := involved.resolve_left moved
  obtain ⟨-, target, awaits⟩ := handleFrame_slot coherent moved
  obtain ⟨own, present⟩ := coherent.present busy running seated
  rw [connectionOf?, awaits.held, Option.bind_some, awaits.away] at present
  cases present

/-- What comes from somebody who does not play in a match leaves the match alone, and its players
are told nothing. -/
theorem handleFrame_of_stranger (once : ConnectedOnce came tables.occupants)
    (bound : tables.sessions.isBound slot connection)
    (stranger : slot ∉ game.seats.map Seat.session) (sits : id ∈ game.seats.map Seat.session)
    {own : Nat} (connected : tables.connectionOf? id = some own) :
    after = game ∧
      (tables.handleFrame config moment slot connection frame).step.tables.connectionOf? id =
        some own ∧
      (tables.handleFrame config moment slot connection frame).step.outbox.framesFor own = [] := by
  have apart := handleFrame_apart coherent busy running later stranger
  have isolated := handleFrame_isolated coherent once bound config moment frame
  have coherent' := handleFrame_coherent coherent config moment slot connection frame
  have course := handleFrame_course coherent config moment slot connection frame place
  rw [busy, later] at course
  have bystander := coherent.bystander coherent' ((coherent.sitsIn_iff busy).2 sits)
    ((coherent'.sitsIn_iff later).2 (course.sessions.symm ▸ sits)) apart
  refine ⟨?_, ?_, ?_⟩
  · have same := congrArg (Option.bind · Room.game) (isolated.rooms place apart)
    exact Option.some.inj (later.symm.trans (same.trans busy))
  · rw [connectionOf?, isolated.sessions id bystander]
    exact connected
  · obtain ⟨session, held, linked⟩ := connectionOf?_eq_some.1 connected
    refine List.map_eq_nil_iff.2 (List.filter_eq_nil_iff.2 ?_)
    rintro ⟨other, frame⟩ queued own
    obtain rfl := beq_iff_eq.1 own
    exact isolated.silent id session other frame bystander held linked queued

end

/-! ## Frames from a player of the match -/

/-- A player of a running match who makes no move changes nothing, and hears nothing but a
refusal. -/
theorem handleFrame_of_no_move (held : tables.sessions.get? slot = some session)
    (bound : session.connection = some connection)
    (status : session.status = .onTurn ∨ session.status = .onWait)
    (still : ¬(session.status = .onTurn ∧ frame.type.isMove = true)) :
    let heard := (Transition.start tables).modifySession slot (Session.touch moment.now)
    (tables.handleFrame config moment slot connection frame).step = heard.finish ∨
      ∃ text, (tables.handleFrame config moment slot connection frame).step =
        (heard.reply slot .error text).finish := by
  intro heard
  simp only [handleFrame, held, bound, ne_eq, not_true_eq_false, if_false]
  split
  · exact .inl rfl
  · rcases status with turn | waits
    · have other : ¬frame.type.isMove = true := fun moves => still ⟨turn, moves⟩
      simp only [dispatch, turn, Transition.onTurn, if_neg other]
      exact .inl rfl
    · simp only [dispatch, waits, Transition.onWait]
      split
      · exact .inl rfl
      · exact .inr ⟨_, rfl⟩

/-- The status of a player of a running match says whether it is the player's turn. -/
theorem Coherent.turn_or_wait (coherent : tables.Coherent)
    (busy : (Transition.start tables).gameIn? place = some game) (running : game.status = .playing)
    (player : slot ∈ game.seats.map Seat.session)
    (held : tables.sessions.get? slot = some session) :
    session.status = .onTurn ∧ game.currentSession? = some slot ∨ session.status = .onWait := by
  obtain ⟨room, other, found, played, held', noted⟩ := coherent.player busy player
  obtain rfl := Option.some.inj (held.symm.trans held')
  rw [coherent.status_eq found played running held noted, Match.turnStatus]
  split
  · next turn =>
      exact .inl ⟨rfl, beq_iff_eq.1 turn⟩
  · exact .inr rfl

section

variable {came : List Nat} (coherent : tables.Coherent)
  (once : ConnectedOnce came tables.occupants)
  (busy : (Transition.start tables).gameIn? place = some game) (running : game.status = .playing)
  (later : (Transition.start (tables.handleFrame config moment slot connection
    frame).step.tables).gameIn? place = some after)
  (sits : id ∈ game.seats.map Seat.session)

include coherent once busy running later sits

theorem handleFrame_of_player (bound : tables.connectionOf? slot = some connection)
    (player : slot ∈ game.seats.map Seat.session) {own : Nat}
    (connected : tables.connectionOf? id = some own) :
    (tables.handleFrame config moment slot connection frame).step.tables.connectionOf? id =
        some own ∧
      game.Told moment.shuffle slot frame id after
        ((tables.handleFrame config moment slot connection frame).step.outbox.framesFor own) := by
  obtain ⟨session, held, linked⟩ := connectionOf?_eq_some.1 bound
  obtain ⟨room, found, played⟩ := Option.bind_eq_some_iff.1 busy
  have stage := coherent.turn_or_wait busy running player held
  have heard := heard_occupants moment.now slot tables
  have kept := (connectionOf?_congr heard id).trans connected
  by_cases moves : session.status = .onTurn ∧ frame.type.isMove = true
  · have turn : game.currentSession? = some slot := by
      rcases stage with ⟨-, turn⟩ | waits
      · exact turn
      · rw [waits] at moves
        cases moves.1
    -- The move is made when the player has been heard of.
    have agrees := heard_coherent coherent moment.now slot
    obtain ⟨located, moved⟩ := coherent.handleFrame_of_turn config moment frame found played
      running turn bound moves.2
    have only := (isOnly_of_connectedOnce once connected).congr heard
    rw [moved] at later ⊢
    refine ⟨?_, Transition.playMove_told agrees located running later sits only⟩
    exact (connectionOf?_congr (Transition.playMove_occupants _ _ _ _ _) id).trans kept
  · have status := stage.imp_left And.left
    rcases handleFrame_of_no_move held linked status moves with same | ⟨text, refused⟩
    · rw [same] at later ⊢
      obtain rfl : game = after := Option.some.inj (busy.symm.trans later)
      exact ⟨kept, .nothing⟩
    · rw [refused] at later ⊢
      obtain rfl : game = after := Option.some.inj (busy.symm.trans later)
      exact ⟨kept, .same (.refl game) rfl (Transition.error_of_mem_reply rfl)⟩

/-- What a player of a running match that goes on may be told by a frame, and that the player keeps
the connection on which this is said. -/
theorem handleFrame_told :
    ∃ own, tables.connectionOf? id = some own ∧
      (tables.handleFrame config moment slot connection frame).step.tables.connectionOf? id =
        some own ∧
      game.Told moment.shuffle slot frame id after
        ((tables.handleFrame config moment slot connection frame).step.outbox.framesFor own) := by
  obtain ⟨own, connected⟩ := coherent.present busy running sits
  refine ⟨own, connected, ?_⟩
  by_cases bound : tables.sessions.isBound slot connection
  · by_cases player : slot ∈ game.seats.map Seat.session
    · have bound := connectionOf?_of_isBound bound
      exact handleFrame_of_player coherent once busy running later sits bound player connected
    · obtain ⟨rfl, kept, silent⟩ :=
        handleFrame_of_stranger coherent busy running later once bound player sits connected
      rw [silent]
      exact ⟨kept, .nothing⟩
  · rw [Bool.not_eq_true] at bound
    rw [handleFrame_of_not_isBound bound] at later ⊢
    obtain rfl : game = after := Option.some.inj (busy.symm.trans later)
    exact ⟨connected, .nothing⟩

end

/-- When a player has discarded, everybody at the table is told whose turn it is now. -/
theorem handleFrame_of_discard {came : List Nat} (config : Config) (coherent : tables.Coherent)
    (once : ConnectedOnce came tables.occupants)
    (busy : (Transition.start tables).gameIn? place = some game)
    (bound : tables.connectionOf? slot = some connection) {payload : String}
    (made : game.play moment.shuffle slot .discard payload = (.ok (), after)) :
    let step := (tables.handleFrame config moment slot connection
      { type := .discard, payload }).step
    (Transition.start step.tables).gameIn? place = some after ∧
      ∀ id ∈ after.seats.map Seat.session, ∃ own, step.tables.connectionOf? id = some own ∧
        step.outbox.framesOf [.turn, .wait] own = [after.turnFrame id] := by
  intro step
  obtain ⟨room, found, played⟩ := Option.bind_eq_some_iff.1 busy
  have running := (Match.follows_of_play_ok made).1
  have turn := Match.currentSession?_of_play_ok made
  have unfinished : after.status ≠ .finished := by
    rw [(Match.play_discard (coherent.allActive busy running) made).1]
    decide
  have seats := Match.map_session_play moment.shuffle slot .discard payload game
  rw [made] at seats
  have distinct : (after.seats.map Seat.session).Nodup :=
    seats ▸ (coherent.sound found).nodup_seats played
  have agrees := heard_coherent coherent moment.now slot
  have heard := heard_occupants moment.now slot tables
  obtain ⟨located, moved⟩ : _ ∧ step = _ := coherent.handleFrame_of_turn config moment
    { type := .discard, payload } found played running turn bound rfl
  rw [moved]
  constructor
  · have goesOn : (game.play moment.shuffle slot .discard payload).2.status ≠ .finished := by
      rw [made]
      exact unfinished
    have there := Transition.gameIn?_playMove agrees located goesOn
    rw [made] at there
    exact there
  · intro id sits
    obtain ⟨own, connected⟩ := coherent.present busy running (seats ▸ sits)
    have only := (isOnly_of_connectedOnce once connected).congr heard
    obtain ⟨view, shown⟩ := Match.exists_view? sits
    refine ⟨own, ?_, ?_⟩
    · refine (connectionOf?_congr (Transition.playMove_occupants _ _ _ _ _) id).trans ?_
      exact (connectionOf?_congr heard id).trans connected
    · have told := Transition.framesFor_playMove_of_ok agrees located made unfinished distinct sits
        only shown
      refine (congrArg (List.filter _) told).trans ?_
      rw [Match.remarks, Match.turnFrame]
      cases after.isTurnOf id <;> rfl

end Tables

/-! ## Any run -/

/-- A step shows a player of a match the table as it is now, once, or the player sees the same as
before. -/
def Step.Refreshes (before : Tables) (game after : Match) (id : Nat) (step : Step) : Prop :=
  ∃ own view, before.connectionOf? id = some own ∧ step.tables.connectionOf? id = some own ∧
    after.view? id = some view ∧
    (step.outbox.framesOf [.state] own = [{ type := .state, payload := view }] ∨
      step.outbox.framesOf [.state] own = [] ∧ game.view? id = some view)

/-- Of the two players of a match, the one on turn is told so, and the other one to wait. -/
structure Step.AnnouncesTurn (game : Match) (next other : Nat) (step : Step) : Prop where
  players : game.seats.map Seat.session = [next, other] ∨
    game.seats.map Seat.session = [other, next]
  distinct : next ≠ other
  turn : game.currentSession? = some next
  toNext : ∃ own, step.tables.connectionOf? next = some own ∧
    step.outbox.framesOf [.turn, .wait] own = [{ type := .turn, payload := "Your turn" }]
  toOther : ∃ own, step.tables.connectionOf? other = some own ∧
    step.outbox.framesOf [.turn, .wait] own =
      [{ type := .wait, payload := "Wait for your opponent" }]

namespace Tables

variable {tables : Tables}

/-- Whatever a frame makes of a running match, both players are shown it or see the same as before,
and when one of them has discarded they are told whose turn it is. -/
structure UpToDate (config : Config) (tables : Tables) : Prop where
  shown : ∀ moment slot connection frame place game after,
    let step := (tables.handleFrame config moment slot connection frame).step
    (Transition.start tables).gameIn? place = some game → game.status = .playing →
      (Transition.start step.tables).gameIn? place = some after → after.status = .playing →
      ∃ first second, first ≠ second ∧ game.seats.map Seat.session = [first, second] ∧
        after.seats.map Seat.session = [first, second] ∧
        ∀ id ∈ [first, second], step.Refreshes tables game after id
  turns : ∀ moment slot connection payload place game after,
    let step := (tables.handleFrame config moment slot connection
      { type := .discard, payload }).step
    (Transition.start tables).gameIn? place = some game →
      tables.connectionOf? slot = some connection →
      game.play moment.shuffle slot .discard payload = (.ok (), after) →
      (Transition.start step.tables).gameIn? place = some after ∧ after.status = .playing ∧
        ∃ next other, step.AnnouncesTurn after next other

theorem upToDate {came : List Nat} (coherent : tables.Coherent)
    (once : ConnectedOnce came tables.occupants) (config : Config) :
    tables.UpToDate config where
  shown moment slot connection frame place game after := by
    intro step busy running later _
    obtain ⟨first, second, different, seats⟩ := coherent.two_seats busy
    have course := handleFrame_course coherent config moment slot connection frame place
    rw [busy, later] at course
    refine ⟨first, second, different, seats, course.sessions.trans seats, fun id sits => ?_⟩
    rw [← seats] at sits
    obtain ⟨own, connected, kept, told⟩ := handleFrame_told coherent once busy running later sits
    obtain ⟨view, visible, shown⟩ := told.upToDate sits
    exact ⟨own, view, connected, kept, visible, shown⟩
  turns moment slot connection payload place game after := by
    intro step busy bound made
    obtain ⟨later, told⟩ := handleFrame_of_discard config coherent once busy bound made
    have running := (Match.follows_of_play_ok made).1
    obtain ⟨status, next, turn⟩ := Match.play_discard (coherent.allActive busy running) made
    have sits := Match.mem_of_currentSession? turn
    have coherent' : step.tables.Coherent :=
      handleFrame_coherent coherent config moment slot connection _
    obtain ⟨other, apart, players⟩ := coherent'.opponent later sits
    obtain ⟨own, connected, yours⟩ := told next sits
    have sits' : other ∈ after.seats.map Seat.session := by
      rcases players with players | players <;> simp [players]
    obtain ⟨stranger, connected', theirs⟩ := told other sits'
    rw [Match.turnFrame_of_current turn] at yours
    rw [Match.turnFrame_of_other turn apart] at theirs
    exact ⟨later, status, next, other,
      ⟨players, apart, turn, ⟨own, connected, yours⟩, ⟨stranger, connected', theirs⟩⟩⟩

/-- Whatever has happened to a server since it was started, as long as no connection comes twice: no
player of a running match has an old table in front of them. -/
theorem run_upToDate (config : Config) (started : Time) {events : List Event}
    (fresh : (events.filterMap Event.arrival?).Nodup) :
    (run config started events).UpToDate config :=
  upToDate (run_coherent config started events) (run_connectedOnce config started fresh) config

/-- A match has been opened, and the first player discards. -/
theorem upToDate_after_opening :
    let moment (slot : Nat) : Moment := { now := 1, token := .nth slot, shuffle := .still }
    let send (slot : Nat) (type : MessageType) (payload : String) : Event :=
      .frame (moment slot) slot slot { type, payload }
    let events : List Event :=
      [.accept 0 0, .accept 0 1, send 0 .login "ann", send 1 .login "ben",
        send 0 .createRoom "den", send 1 .joinRoom "0", send 0 .ready "1", send 1 .ready "1",
        send 0 .start ""]
    let tables := run {} 0 events
    let step := (tables.handleFrame {} (moment 0) 0 0 { type := .discard, payload := "KS" }).step
    (events.filterMap Event.arrival?).Nodup ∧ tables.connectionOf? 0 = some 0 ∧
      ((Transition.start tables).gameIn? 0).map (fun game => (game.play .still 0 .discard "KS").1) =
        some (.ok ()) ∧
      step.outbox.framesOf [.turn, .wait] 0 =
        [{ type := .wait, payload := "Wait for your opponent" }] ∧
      (step.outbox.framesOf [.state] 1).length = 1 ∧
      ∃ after, (Transition.start step.tables).gameIn? 0 = some after ∧ after.status = .playing ∧
        ∃ next other, step.AnnouncesTurn after next other := by
  intro moment send events tables step
  have fresh : (events.filterMap Event.arrival?).Nodup := by decide
  have bound : tables.connectionOf? 0 = some 0 := by decide +kernel
  have accepted : ((Transition.start tables).gameIn? 0).map
      (fun game => (game.play .still 0 .discard "KS").1) = some (.ok ()) := by
    decide +kernel
  refine ⟨fresh, bound, accepted, by decide +kernel, by decide +kernel, ?_⟩
  have kept : tables.UpToDate {} := run_upToDate {} 0 fresh
  obtain ⟨game, busy, made⟩ := Option.map_eq_some_iff.1 accepted
  exact ⟨_, kept.turns (moment 0) 0 0 "KS" 0 game _ busy bound (Prod.ext made rfl)⟩

end Tables

end Cardroom
