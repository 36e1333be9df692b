import Cardroom.Proofs.Match.Turns
import Cardroom.Proofs.Room.Requests
import Cardroom.Proofs.Server.Shown

/-!
# The matches of a server

A match in a room was dealt to the members of the room, and has come to where it is by their moves:
whatever else happens there changes no more than who is there and whether the match is paused.
`Course` says so of one frame, and `run_allUnderWay` what it comes to: with everybody there,
the match goes round the table like one that is played without a server.
-/

namespace Cardroom

namespace Match

/-- A match that goes round the table as soon as everybody is there. -/
structure IsUnderWay (game : Match) : Prop where
  orderly : ∃ turns, game.gathered.Orderly (game.seats.map Seat.session) turns
  laid : ∀ combination ∈ game.combinations, combination.WellFormed

/-- A move that does not end the match does not pause it either. -/
theorem stage_play {game : Match} (running : game.status = .playing)
    (reason : game.pauseReason = none) {shuffle : Shuffle} {session : Nat} {action : MessageType}
    {payload : String}
    (unfinished : (game.play shuffle session action payload).2.status ≠ .finished) :
    (game.play shuffle session action payload).2.status = .playing ∧
      (game.play shuffle session action payload).2.pauseReason = none := by
  cases made : game.play shuffle session action payload with
  | mk answer after =>
      rw [made] at unfinished
      cases answer with
      | error error =>
          have same := sameTable_of_play_error made
          exact ⟨same.status.trans running, same.pauseReason.trans reason⟩
      | ok =>
          cases (follows_of_play_ok made).2 with
          | finished ended =>
              exact absurd ended unfinished
          | passed _ _ status kept =>
              exact ⟨status.trans running, kept.trans reason⟩
          | same _ same =>
              exact ⟨same.status.trans running, same.pauseReason.trans reason⟩

theorem laid_play {game : Match} (laid : ∀ combination ∈ game.combinations, combination.WellFormed)
    (shuffle : Shuffle) (session : Nat) (action : MessageType) (payload : String) :
    ∀ combination ∈ (game.play shuffle session action payload).2.combinations,
      combination.WellFormed :=
  forall_combinations_play Combination.ofCards?_wellFormed Combination.attach?_wellFormed laid
    shuffle session action payload

namespace IsUnderWay

variable {game after : Match}

theorem of_gathered (underWay : game.IsUnderWay) (same : after.gathered = game.gathered) :
    after.IsUnderWay where
  orderly := by
    rw [same, sessions_of_gathered same]
    exact underWay.orderly
  laid combination listed := by
    refine underWay.laid combination ?_
    show combination ∈ game.gathered.combinations
    rw [← same]
    exact listed

/-- Nobody has played the last card yet. -/
theorem holding (underWay : game.IsUnderWay) {seat : Seat} (sits : seat ∈ game.seats) :
    seat.hand ≠ [] := by
  obtain ⟨turns, orderly⟩ := underWay.orderly
  have there : { seat with active := true } ∈ game.gathered.seats :=
    List.mem_map_of_mem (f := fun seat : Seat => { seat with active := true }) sits
  obtain ⟨place, sits⟩ := List.mem_iff_getElem?.1 there
  exact (orderly.fits sits).balanced.holding

theorem start (shuffle : Shuffle) (room : Nat) {members : List Nat} (shuffled : Bool)
    (seated : members ≠ []) (few : members.length ≤ 7) :
    ((Match.seat room members shuffled).start shuffle).IsUnderWay where
  orderly := by
    have orderly := orderly_start shuffle room shuffled seated few
    refine ⟨0, ?_⟩
    rw [gathered_eq_self rfl rfl orderly.allActive, orderly.sessions]
    exact orderly
  laid := nofun

/-- A move keeps the match under way, unless it ends it. -/
theorem play (underWay : game.IsUnderWay) {members : List Nat} (sound : game.IsOf members)
    (running : game.status = .playing) {shuffle : Shuffle} {session : Nat} {action : MessageType}
    {payload : String}
    (unfinished : (game.play shuffle session action payload).2.status ≠ .finished) :
    (game.play shuffle session action payload).2.IsUnderWay := by
  obtain ⟨turns, orderly⟩ := underWay.orderly
  obtain ⟨reason, active⟩ : game.pauseReason = none ∧ game.allActive = true := by
    rcases sound.stage with ⟨-, reason, active⟩ | ⟨paused, -⟩
    · exact ⟨reason, active⟩
    · rw [running] at paused
      cases paused
  rw [gathered_eq_self running reason active] at orderly
  have seats := map_session_play shuffle session action payload game
  have laid := laid_play underWay.laid shuffle session action payload
  have stage := stage_play running reason unfinished
  have ordinary : (Event.move shuffle session action payload).isOrdinary := rfl
  obtain finished | ⟨later, kept, -⟩ := orderly.history_after ordinary
  · exact absurd finished unfinished
  · refine ⟨⟨later, ?_⟩, laid⟩
    rw [seats, gathered_eq_self stage.1 stage.2 kept.allActive]
    exact kept

end IsUnderWay

/-! ## One step -/

/-- What a frame from the player of a slot makes of the match at a place: it stays, but for who is
there and whether it is paused, or the player moves in it, or it is dealt. -/
inductive Course (shuffle : Shuffle) (slot : Nat) (frame : Frame) (place : Nat) :
    Option Match → Option Match → Prop
  | kept {before after : Option Match} :
      after.map gathered = before.map gathered → Course shuffle slot frame place before after
  | moved {game : Match} :
      game.status = .playing →
      (game.play shuffle slot frame.type frame.payload).2.status ≠ .finished →
      Course shuffle slot frame place (some game)
        (some (game.play shuffle slot frame.type frame.payload).2)
  | ended {game after : Match} :
      game.play shuffle slot frame.type frame.payload = (.ok (), after) →
      after.status = .finished →
      Course shuffle slot frame place (some game) none
  | dealt {members : List Nat} {shuffled : Bool} :
      members.length = Room.places →
      Course shuffle slot frame place none
        (some ((Match.seat place members shuffled).start shuffle))

end Match

/-- The matches at a place are the same when everybody is there. -/
theorem Tables.Keeps.games {before after : Tables} {place : Nat} (kept : before.Keeps place after) :
    ((Transition.start after).gameIn? place).map Match.gathered =
      ((Transition.start before).gameIn? place).map Match.gathered := by
  have whole (tables : Tables) :
      ((Transition.start tables).gameIn? place).map Match.gathered =
        ((tables.rooms.get? place).map Room.gathered).bind Room.game := by
    show ((tables.rooms.get? place).bind Room.game).map Match.gathered = _
    cases tables.rooms.get? place <;> rfl
  rw [whole, whole, kept.room]

namespace Transition

variable {before : Tables} {state : Transition} {slot place : Nat} {room : Room} {game : Match}
  {session : Session} {config : Config} {moment : Moment} {frame : Frame} {shuffle : Shuffle}

/-- A quiet step that keeps what is played. -/
theorem Confined.games (quiet : state.Confined .quiet before)
    (kept : ∀ earlier, (start before).gameIn? place = some earlier →
      before.Keeps place state.tables) :
    (state.gameIn? place).map Match.gathered =
      ((start before).gameIn? place).map Match.gathered := by
  cases busy : (start before).gameIn? place with
  | none =>
      rw [quiet.idle not_false place busy]
  | some earlier =>
      rw [← busy]
      exact (kept earlier busy).games

/-- A step that concerns another room. -/
theorem Confined.games_elsewhere {other : Nat} {involved : Nat → Prop}
    (confined : state.Confined (before.scope involved (· = other)) before)
    (different : place ≠ other) :
    state.gameIn? place = (start before).gameIn? place :=
  congrArg (Option.bind · Room.game) (confined.rooms place different)

theorem startMatch_course {rooms : RoomTable} (there : rooms.get? place = some room)
    (full : room.members.length = Room.places) :
    Match.Course shuffle slot frame place none
      ((({ start before with rooms } : Transition).startMatch config shuffle place).gameIn?
        place) := by
  have found : ({ start before with rooms } : Transition).rooms.get? place = some room := there
  rw [gameIn?_startMatch found]
  exact .dealt ((Room.length_memberIds room).trans full)

theorem startForOwner_course (idle : (start before).gameIn? place = none) :
    Match.Course shuffle slot frame place none
      (((start before).startForOwner config shuffle slot place).gameIn? place) := by
  have refused (text : String) :
      Match.Course shuffle slot frame place none
        (((start before).reply slot .startFailed text).gameIn? place) :=
    .kept (congrArg (Option.map Match.gathered) idle)
  unfold startForOwner
  split
  · exact refused _
  · next room found =>
      split
      · exact refused _
      · split
        · exact refused _
        · next ready =>
            have ready : room.allReady = true := by simpa using ready
            exact startMatch_course found (Room.allReady_iff.1 ready).1

theorem playAgain_course (idle : (start before).gameIn? place = none) (payload : String) :
    Match.Course shuffle slot frame place none
      (((start before).playAgain config shuffle slot place payload).gameIn? place) := by
  unfold playAgain
  dsimp only
  cases granted : (start before).rooms.setReady place slot (isYes payload) with
  | error error =>
      exact .kept (congrArg (Option.map Match.gathered) idle)
  | ok outcome =>
      obtain ⟨count, rooms⟩ := outcome
      obtain ⟨room, changed, found, -, there, -, members, same, -⟩ :=
        RoomTable.setReady_eq_ok granted
      dsimp only
      split
      · next ready =>
          rw [there, Option.any_some] at ready
          exact startMatch_course there (Room.allReady_iff.1 ready).1
      · have still : (rooms.get? place).bind Room.game = none := by
          rw [gameIn?, found, Option.bind_some] at idle
          rw [there, Option.bind_some, same, idle]
        split <;> exact .kept (congrArg (Option.map Match.gathered) still)

/-- The last card of a hand is played. -/
theorem playMove_of_finished (coherent : before.Coherent)
    (located : (start before).matchOf? slot = some (place, game)) {action : MessageType}
    {payload : String} {after : Match}
    (made : game.play shuffle slot action payload = (.ok (), after))
    (finished : after.status = .finished) :
    (start before).playMove shuffle slot action payload =
      ((start before).setGame place after).finishMatch place slot after := by
  have agrees : (start before).tables.Coherent := coherent
  unfold playMove
  simp only [findRoom_eq_self agrees slot, located, made, if_pos finished]

/-- Any other move leaves the match as it is then. -/
theorem gameIn?_playMove (coherent : before.Coherent)
    (located : (start before).matchOf? slot = some (place, game)) {action : MessageType}
    {payload : String}
    (unfinished : (game.play shuffle slot action payload).2.status ≠ .finished) :
    ((start before).playMove shuffle slot action payload).gameIn? place =
      some (game.play shuffle slot action payload).2 := by
  have agrees : (start before).tables.Coherent := coherent
  obtain ⟨-, room, -, -, found, -⟩ := matchOf?_eq_some located
  unfold playMove
  simp only [findRoom_eq_self agrees slot, located]
  cases made : game.play shuffle slot action payload with
  | mk answer after =>
      rw [made] at unfinished
      have set := gameIn?_setGame found after
      cases answer with
      | error error =>
          exact set
      | ok =>
          have shown : (((start before).setGame place after).showTable after).gameIn? place =
              some after := by
            rw [← set]
            exact congrArg (fun tables => (tables.rooms.get? place).bind Room.game)
              (showTable_tables after ((start before).setGame place after))
          simp only [if_neg unfinished]
          split
          · exact shown
          · refine (congrArg (fun rooms => (RoomTable.get? place rooms).bind Room.game)
              (foldl_rooms ?_ _ _)).trans shown
            exact fun _ _ => rfl
          · exact shown

/-- A player moves in the match of the own room. -/
theorem playMove_course (coherent : before.Coherent)
    (located : (start before).matchOf? slot = some (place, game)) :
    Match.Course shuffle slot frame place (some game)
      (((start before).playMove shuffle slot frame.type frame.payload).gameIn? place) := by
  have agrees : (start before).tables.Coherent := coherent
  obtain ⟨-, room, -, -, found, busy⟩ := matchOf?_eq_some located
  by_cases finished : (game.play shuffle slot frame.type frame.payload).2.status = .finished
  · cases made : game.play shuffle slot frame.type frame.payload with
    | mk answer after =>
        rw [made] at finished
        cases answer with
        | error error =>
            -- A match that is over does not stay in its room.
            rw [(Match.sameTable_of_play_error made).status] at finished
            rcases agrees.stage (Option.bind_eq_some_iff.2 ⟨room, found, busy⟩) with
              playing | paused
            · rw [playing] at finished
              cases finished
            · rw [paused] at finished
              cases finished
        | ok =>
            rw [playMove_of_finished coherent located made finished,
              finishMatch_gameIn? (RoomTable.get?_modify_self found _)]
            exact .ended made finished
  · rw [gameIn?_playMove coherent located finished]
    by_cases running : game.status = .playing
    · exact .moved running finished
    · refine .kept ?_
      simp [Match.play, running]

/-- A player who comes back finds the match as it was. -/
theorem resume_games (id place : Nat) (state : Transition) :
    ((state.resume id).gameIn? place).map Match.gathered =
      (state.gameIn? place).map Match.gathered := by
  unfold resume
  split
  · unfold resumeOutside
    split <;> rfl
  · next room game located =>
      obtain ⟨-, found, -, -, there, busy⟩ := matchOf?_eq_some located
      exact (resumeMatch_keeps place id (Option.bind_eq_some_iff.2 ⟨found, there, busy⟩)).games

/-- A frame from the player of a slot. -/
theorem dispatch_course (coherent : before.Coherent)
    (held : before.sessions.get? slot = some session) {connection : Nat}
    (bound : session.connection = some connection) (place : Nat) :
    Match.Course moment.shuffle slot frame place ((start before).gameIn? place)
      ((Tables.dispatch config moment slot connection frame session.status
        (start before)).state.gameIn? place) := by
  have agrees : (start before).tables.Coherent := coherent
  have first : (start before).sessions.get? slot = some session := held
  have connected : session.isConnected := by
    rw [Session.isConnected, bound]
    rfl
  have noted : (start before).roomOf? slot = session.room := by
    rw [roomOf?, first]
    rfl
  have here {room : Nat} (inside : session.room = some room) :
      ∀ other, (start before).roomOf? slot = some other → other = room :=
    fun other same => Option.some.inj (same.symm.trans (noted.trans inside))
  -- What concerns the room of the player only.
  have confined (room : Nat) := coherent.start_confined (· = slot) (· = room)
  have self (room : Nat) : (before.scope (· = slot) (· = room)).people slot := .inl rfl
  have opens (room : Nat) := before.isOpen_scope (· = slot) (· = room)
  by_cases shows : Tables.MayShow frame session.status
      ((Tables.dispatch config moment slot connection frame session.status (start before)).slot ≠
        slot)
  · cases status : session.status with
    | disconnected =>
        rw [status] at shows
        obtain ⟨-, existing, target, -, -, accepted⟩ := onLogin_of_moved agrees shows
        simp only [Tables.dispatch, accepted]
        exact .kept (resume_games existing place _)
    | inRoom =>
        rw [status] at shows
        obtain ⟨room, inside, idle⟩ := coherent.resting held connected (.inl status)
        by_cases same : place = room
        · subst same
          have shows : frame.type = .start := shows
          simp only [Tables.dispatch, onRoom, findRoom_eq_self agrees, noted, inside, shows, idle]
          exact startForOwner_course idle
        · exact .kept (congrArg (Option.map Match.gathered)
            (((confined room).onRoom agrees (self room) (here inside) (fun _ => opens room)
              config moment).games_elsewhere same))
    | matchDone =>
        rw [status] at shows
        obtain ⟨room, inside, idle⟩ := coherent.resting held connected (.inr status)
        by_cases same : place = room
        · subst same
          have shows : frame.type = .playAgain := shows
          simp only [Tables.dispatch, onMatchDone, findRoom_eq_self agrees, noted, inside, shows,
            idle]
          exact playAgain_course idle frame.payload
        · exact .kept (congrArg (Option.map Match.gathered)
            (((confined room).onMatchDone agrees (self room) (here inside) (fun _ => opens room)
              config moment).games_elsewhere same))
    | onTurn =>
        rw [status] at shows
        obtain ⟨room, played, inside, located⟩ := coherent.matchOf? held connected status
        by_cases same : place = room
        · subst same
          have shows : frame.type.isMove = true := shows
          have busy : (start before).gameIn? place = some played := by
            obtain ⟨-, found, -, -, there, busy⟩ := matchOf?_eq_some located
            exact Option.bind_eq_some_iff.2 ⟨found, there, busy⟩
          simp only [Tables.dispatch, onTurn, shows, if_true, busy]
          exact playMove_course coherent located
        · exact .kept (congrArg (Option.map Match.gathered)
            (((confined room).onTurn agrees (self room) (here inside) (fun _ => opens room)
              moment.shuffle).games_elsewhere same))
    | connected | onWait | paused =>
        rw [status] at shows
        exact shows.elim
  · have quiet := Tables.dispatch_confined (start_quiet before) agrees config moment frame
      session.status
      (fun other there => Option.some.inj (first.symm.trans there) ▸ connected) trivial
      (fun may => absurd may shows) (fun _ _ _ _ => trivial) (fun _ _ => trivial)
      fun _ _ => trivial
    refine .kept (quiet.games fun earlier busy => ?_)
    refine dispatch_keeps agrees busy held connected config moment connection frame fun _ turn => ?_
    rw [turn] at shows
    exact Bool.eq_false_iff.2 shows

end Transition

namespace Tables

variable {tables : Tables} {place : Nat} {game : Match}

theorem handleFrame_course (coherent : tables.Coherent) (config : Config) (moment : Moment)
    (slot connection : Nat) (frame : Frame) (place : Nat) :
    Match.Course moment.shuffle slot frame place ((Transition.start tables).gameIn? place)
      ((Transition.start
        (tables.handleFrame config moment slot connection frame).step.tables).gameIn? place) := by
  unfold handleFrame
  split
  · exact .kept rfl
  · next session held =>
      split
      · exact .kept rfl
      · next bound =>
          simp only
          split
          · exact .kept rfl
          · exact Transition.dispatch_course (heard_coherent coherent moment.now slot)
              (get?_heard held moment.now) (Decidable.not_not.1 bound) place

theorem accept_games (now : Time) (connection place : Nat) (tables : Tables) :
    (Transition.start (tables.accept now connection).2.tables).gameIn? place =
      (Transition.start tables).gameIn? place := by
  unfold accept
  split <;> rfl

theorem disconnect_games (coherent : tables.Coherent) (now : Time) (slot connection place : Nat) :
    ((Transition.start (tables.handleDisconnect now slot connection).tables).gameIn? place).map
        Match.gathered =
      ((Transition.start tables).gameIn? place).map Match.gathered := by
  have agrees : (Transition.start tables).tables.Coherent := coherent
  have quiet : ((Transition.start tables).disconnect slot connection now).Confined .quiet tables :=
    (Transition.start_quiet tables).disconnect trivial (fun _ _ => trivial) connection now
  exact quiet.games fun earlier busy =>
    Transition.disconnect_keeps agrees busy (agrees.stage busy) slot connection now

/-- A sweep ends a match only by giving up one of its players. -/
theorem sweep_games (coherent : tables.Coherent) (config : Config) (now : Time) (place : Nat) :
    ((Transition.start (tables.sweep config now).tables).gameIn? place).map Match.gathered =
        ((Transition.start tables).gameIn? place).map Match.gathered ∨
      (Transition.start (tables.sweep config now).tables).gameIn? place = none ∧
        ∃ slot ∈ tables.forgotten config now, tables.sitsAt place slot = true := by
  have quiet := sweep_quiet config now tables
  by_cases spared : ∀ slot ∈ tables.forgotten config now, tables.sitsAt place slot = false
  · exact .inl (quiet.games fun earlier busy => sweep_keeps coherent busy spared)
  · simp only [not_forall, Bool.not_eq_false] at spared
    obtain ⟨slot, listed, sits⟩ := spared
    cases busy : (Transition.start tables).gameIn? place with
    | none =>
        exact .inl (congrArg (Option.map Match.gathered) (quiet.idle not_false place busy))
    | some game =>
        exact .inr ⟨congrArg (Option.bind · Room.game) (sweep_closes coherent busy listed sits),
          slot, listed, sits⟩

/-! ## Any run -/

def AllUnderWay (tables : Tables) : Prop :=
  ∀ place game, (Transition.start tables).gameIn? place = some game → game.IsUnderWay

theorem AllUnderWay.of_games {after : Tables} (underWay : tables.AllUnderWay)
    (games : ((Transition.start after).gameIn? place).map Match.gathered =
      ((Transition.start tables).gameIn? place).map Match.gathered)
    (busy : (Transition.start after).gameIn? place = some game) :
    game.IsUnderWay := by
  rw [busy, Option.map_some] at games
  obtain ⟨earlier, before, same⟩ := Option.map_eq_some_iff.1 games.symm
  exact (underWay place earlier before).of_gathered same.symm

/-- What becomes of a match that is under way, if it does not end, is one. -/
theorem AllUnderWay.of_course {shuffle : Shuffle} {slot : Nat} {frame : Frame} {after : Tables}
    (underWay : tables.AllUnderWay) (coherent : tables.Coherent)
    (course : Match.Course shuffle slot frame place ((Transition.start tables).gameIn? place)
      ((Transition.start after).gameIn? place))
    (busy : (Transition.start after).gameIn? place = some game) :
    game.IsUnderWay := by
  generalize before : (Transition.start tables).gameIn? place = earlier at course
  generalize later : (Transition.start after).gameIn? place = result at course
  cases course with
  | kept same =>
      exact underWay.of_games (by rw [later, before, same]) busy
  | @moved played running unfinished =>
      obtain ⟨room, found, there⟩ := Option.bind_eq_some_iff.1 before
      obtain ⟨-, -, isOf⟩ := (coherent.sound found).busy there
      obtain rfl := Option.some.inj (later.symm.trans busy)
      exact (underWay place played before).play isOf running unfinished
  | ended made finished =>
      rw [busy] at later
      cases later
  | @dealt members shuffled full =>
      obtain rfl := Option.some.inj (later.symm.trans busy)
      refine .start shuffle place shuffled (List.ne_nil_of_length_pos ?_) ?_
      · rw [full]
        decide
      · rw [full]
        decide

theorem AllUnderWay.after (underWay : tables.AllUnderWay) (coherent : tables.Coherent)
    (config : Config) (event : Event) :
    (tables.after config event).AllUnderWay := by
  intro place game busy
  cases event with
  | accept now connection =>
      exact underWay place game ((accept_games now connection place tables).symm.trans busy)
  | frame moment slot connection frame =>
      exact underWay.of_course coherent
        (handleFrame_course coherent config moment slot connection frame place) busy
  | disconnect now slot connection =>
      exact underWay.of_games (disconnect_games coherent now slot connection place) busy
  | sweep now =>
      rcases sweep_games coherent config now place with same | ⟨gone, -⟩
      · exact underWay.of_games same busy
      · exact absurd (gone.symm.trans busy) nofun

/-- At all times, every match on a server goes round the table as soon as everybody is there. -/
theorem run_allUnderWay (config : Config) (started : Time) (events : List Event) :
    (run config started events).AllUnderWay := by
  refine (run_preserves (motive := fun tables => tables.Coherent ∧ tables.AllUnderWay) config
    started ⟨vacant_coherent config started, ?_⟩ ?_ events).2
  · intro place game busy
    obtain ⟨room, found, -⟩ := Option.bind_eq_some_iff.1 busy
    have empty : (vacant config started).rooms.get? place = some room := found
    rw [vacant, RoomTable.get?_vacant] at empty
    cases empty
  · rintro tables event ⟨coherent, underWay⟩
    exact ⟨after_coherent coherent config event, underWay.after coherent config event⟩

end Tables

end Cardroom
