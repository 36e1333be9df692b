import Cardroom.Proofs.Match.Progress
import Cardroom.Proofs.Server.Swept
import Cardroom.Proofs.Server.Texts

/-!
# How matches end

A match ends when the player on turn closes with the last card of the hand: then the room is told
how it has ended, and stays. Nothing else that a player does takes the match from its room, and a
sweep does so only when it gives up one of the players. `run_endsMatches` says this of every state
that a server can get into.
-/

namespace Cardroom

theorem Card.one_le_value (card : Card) : 1 ≤ card.value := by
  cases card with
  | joker =>
      decide
  | standard rank suit =>
      exact rank.one_le_number

theorem Seat.points_eq (seat : Seat) : seat.points = (seat.hand.map Card.value).sum := by
  unfold points
  induction seat.hand with
  | nil =>
      rfl
  | cons card hand inductionHypothesis =>
      rw [List.foldr_cons, inductionHypothesis, List.map_cons, List.sum_cons]

/-- Whoever has a card left has a point at least. -/
theorem Card.one_le_sum {hand : List Card} (some : hand ≠ []) :
    1 ≤ (hand.map Card.value).sum := by
  obtain ⟨card, hand, rfl⟩ := List.exists_cons_of_ne_nil some
  rw [List.map_cons, List.sum_cons]
  exact Nat.le_add_right_of_le card.one_le_value

namespace Match

/-- The player on turn plays the last card of the hand. -/
structure Closes (game : Match) (session : Nat) (payload : String) (after : Match) : Prop where
  turn : game.currentSession? = some session
  last : ∃ seat card, game.seats[game.current]? = some seat ∧ seat.session = session ∧
    seat.hand = [card] ∧ card.code = payload
  seats : after.seats =
    (game.modifySeat game.current fun seat =>
      { seat with hand := [], phase := .turnComplete }).seats

theorem passTurn_status_of_allActive {game : Match} (seated : 0 < game.seats.length)
    (present : game.allActive = true) :
    game.passTurn.status = game.status := by
  rw [passTurn_of_allActive seated present]
  rfl

/-- A running match ends by no other move. Whoever discards has a card left, and somebody is there
to go on. -/
theorem closes_of_finished {shuffle : Shuffle} {session : Nat} {action : MessageType}
    {payload : String} {game after : Match} (present : game.allActive = true)
    (made : game.play shuffle session action payload = (.ok (), after))
    (finished : after.status = .finished) :
    action = .close ∧ game.Closes session payload after := by
  have played := play_played shuffle session action payload game
  rw [made] at played
  cases played with
  | @accepted _ place seat _ mover accepted =>
      have running := mover.running
      cases accepted with
      | takeFromDeck | takeFromDiscard | layDown | attach =>
          exact absurd (running.symm.trans finished) (by decide)
      | @discard card incomplete drawn parsed held left =>
          -- Everybody is there, so the turn passes to the next seat.
          have seated : 0 < game.seats.length :=
            Nat.zero_lt_of_lt (List.getElem?_eq_some_iff.1 mover.sits).1
          rw [passTurn_status_of_allActive] at finished
          · exact absurd (running.symm.trans finished) (by decide)
          · exact Nat.lt_of_lt_of_eq seated (length_modifySeat place _ game).symm
          · refine Eq.trans (allActive_modifySeat game place ?_) present
            exact fun _ => rfl
      | @close card only named =>
          have turn := mover.currentSession?_eq
          obtain rfl := mover.turn
          exact ⟨rfl, turn, ⟨seat, card, mover.sits, mover.session_eq, only, named⟩, rfl⟩

/-- Whoever is on turn and has one card left can close with it. -/
theorem MayMove.finishes {game : Match} {session place : Nat} {seat : Seat} {card : Card}
    (mover : game.MayMove session place seat) (only : seat.hand = [card]) (shuffle : Shuffle) :
    ∃ after, game.play shuffle session .close card.code = (.ok (), after) ∧
      after.status = .finished := by
  rw [mover.play_eq]
  simp only [close, only, if_true]
  exact ⟨_, rfl, rfl⟩

/-- What is reported of the seats when a player has closed: nobody but the winner is left without
points. -/
def finalStandings (winner : Nat) (sessions : SessionTable) (game : Match) : List Standing :=
  game.seats.map fun seat =>
    { nick := Transition.nickOf seat.session sessions
      score := if seat.session = winner then 0 else (seat.hand.map Card.value).sum
      cardsPlayed := seat.cardsPlayed
      turnsPlayed := seat.turnsPlayed }

theorem Closes.standings_score {game after : Match} {session : Nat} {payload : String}
    (closes : game.Closes session payload after) (distinct : (game.seats.map Seat.session).Nodup)
    (sessions : SessionTable) :
    after.score.standings sessions = game.finalStandings session sessions := by
  obtain ⟨closer, card, sits, own, -⟩ := closes.last
  have here : (game.seats.map Seat.session)[game.current]? = some session := by
    rw [List.getElem?_map, sits, Option.map_some, own]
  have others {place : Nat} {seat : Seat} (there : game.seats[place]? = some seat)
      (different : game.current ≠ place) : seat.session ≠ session := by
    rintro rfl
    have bound := (List.getElem?_eq_some_iff.1 here).1
    refine different ((List.getElem?_inj bound distinct).1 ?_)
    rw [here, List.getElem?_map, there, Option.map_some]
  rw [standings, score, closes.seats, finalStandings, List.map_map]
  refine List.ext_getElem? fun place => ?_
  rw [List.getElem?_map, List.getElem?_map, modifySeat, List.getElem?_modify]
  cases there : game.seats[place]? with
  | none =>
      rfl
  | some seat =>
      by_cases turn : game.current = place
      · obtain rfl : closer = seat := Option.some.inj (sits.symm.trans (turn ▸ there))
        simp [turn, own, Seat.standing, Seat.points_eq]
      · simp [turn, others there turn, Seat.standing, Seat.points_eq]

end Match

namespace Transition

/-! ## The end of a match -/

variable {state : Transition} {place id connection : Nat} {room : Room}

theorem foldl_reply (ids : List Nat) (type : MessageType) (payload : String)
    (state : Transition) :
    ids.foldl (fun state id => state.reply id type payload) state =
      { state with
        outbox := ids.foldl (fun outbox id => state.sessions.notify id type payload outbox)
          state.outbox } := by
  induction ids generalizing state with
  | nil =>
      rfl
  | cons id ids inductionHypothesis =>
      rw [List.foldl_cons, inductionHypothesis]
      rfl

/-- Every member of a room is told what is said to all of them. -/
theorem framesFor_broadcast (found : state.rooms.get? place = some room)
    (distinct : room.memberIds.Nodup) (listed : id ∈ room.memberIds)
    (only : state.tables.IsOnly connection id) (type : MessageType) (payload : String) :
    (state.broadcast place type payload none).outbox.framesFor connection =
      state.outbox.framesFor connection ++ [⟨type, payload⟩] := by
  have everybody : (room.memberIds.filter fun member => some member != none) = room.memberIds :=
    List.filter_eq_self.2 fun _ _ => rfl
  have told : (state.broadcast place type payload none).outbox =
      (room.memberIds.foldl (fun state member => state.reply member type payload)
        state).outbox := by
    rw [foldl_reply]
    simp only [broadcast, RoomTable.broadcast, found, everybody]
  rw [told]
  refine listen_foldl (Outbox.framesFor connection) (fun member => member)
    (fun _ => [⟨type, payload⟩]) (fun state member => framesFor_reply connection member type payload
      state) (fun _ _ => rfl) ?_ ?_ only
  · rw [List.map_id']
    exact distinct
  · rw [List.map_id']
    exact listed

variable (winner : Nat) (game : Match)

/-- The members are told how the match has ended, and nothing else. -/
theorem framesFor_finishMatch (found : state.rooms.get? place = some room)
    (distinct : room.memberIds.Nodup) (listed : id ∈ room.memberIds)
    (only : state.tables.IsOnly connection id) :
    (state.finishMatch place winner game).outbox.framesFor connection =
      state.outbox.framesFor connection ++
        [⟨.matchEnd, matchReport winner state.sessions game.score⟩] := by
  have finished : (state.modifyRoom place Room.finishMatch).rooms.get? place =
      some room.finishMatch :=
    RoomTable.get?_modify_self found _
  have silent (items : List Nat) (state : Transition) :
      (items.foldl (fun state member => state.settle member .matchDone) state).outbox =
        state.outbox :=
    List.foldlRecOn (motive := fun after : Transition => after.outbox = state.outbox) items _ rfl
      fun _ same _ _ => same
  unfold finishMatch
  dsimp only
  rw [silent]
  refine framesFor_broadcast finished ?_ ?_ only .matchEnd _
  · rw [Room.finishMatch_memberIds]
    exact distinct
  · rw [Room.finishMatch_memberIds]
    exact listed

theorem finishMatch_tables (found : state.rooms.get? place = some room) :
    (state.finishMatch place winner game).tables =
      { sessions := room.memberIds.foldl
          (fun table id => table.modify id (Session.settle .matchDone)) state.sessions
        rooms := state.rooms.modify place Room.finishMatch } := by
  simp only [finishMatch, found, Option.map_some, Option.getD_some]
  rw [foldl_tables id fun _ => Session.settle .matchDone, List.map_id]
  · rfl
  · exact fun _ _ => rfl

end Transition

namespace Transition

variable {before : Tables} {place slot : Nat} {room : Room} {game after : Match} {shuffle : Shuffle}
  {action : MessageType} {payload : String}

/-- The room and its players when one of them has closed. -/
theorem playMove_rests (coherent : before.Coherent)
    (found : before.rooms.get? place = some room)
    (located : (start before).matchOf? slot = some (place, game))
    (made : game.play shuffle slot action payload = (.ok (), after))
    (finished : after.status = .finished) :
    (∃ later, ((start before).playMove shuffle slot action payload).rooms.get? place = some later ∧
      later.status = .finished ∧ later.game = none ∧ later.memberIds = room.memberIds ∧
        ∀ member ∈ later.members, member.ready = false) ∧
    ∀ member ∈ room.memberIds, ∃ session,
      ((start before).playMove shuffle slot action payload).sessions.get? member = some session ∧
        session.status = .matchDone := by
  have there : ((start before).setGame place after).rooms.get? place =
      some { room with game := some after } :=
    RoomTable.get?_modify_self found _
  have tables := finishMatch_tables slot after there
  rw [← playMove_of_finished coherent located made finished] at tables
  constructor
  · refine ⟨_, (congrArg (fun tables => tables.rooms.get? place) tables).trans
      (RoomTable.get?_modify_self there _), rfl, Room.finishMatch_game _,
      Room.finishMatch_memberIds _, ?_⟩
    simp [Room.finishMatch, Room.resetReady]
  · intro member listed
    obtain ⟨session, held, -⟩ := coherent.seated found listed
    have settled := SessionTable.get?_foldl_modify (coherent.sound found).distinct member
      (fun _ => Session.settle .matchDone) before.sessions
    rw [if_pos listed, held] at settled
    exact ⟨session.settle .matchDone,
      (congrArg (fun tables => tables.sessions.get? member) tables).trans settled, rfl⟩

/-- All that is said when somebody closes. -/
theorem framesFor_playMove_of_finished (coherent : before.Coherent)
    (found : before.rooms.get? place = some room)
    (located : (start before).matchOf? slot = some (place, game))
    (made : game.play shuffle slot action payload = (.ok (), after))
    (finished : after.status = .finished) {member connection : Nat}
    (listed : member ∈ room.memberIds) (only : before.IsOnly connection member) :
    ((start before).playMove shuffle slot action payload).outbox.framesFor connection =
      [⟨.matchEnd, matchReport slot before.sessions after.score⟩] := by
  have there : ((start before).setGame place after).rooms.get? place =
      some { room with game := some after } :=
    RoomTable.get?_modify_self found _
  rw [playMove_of_finished coherent located made finished]
  exact framesFor_finishMatch slot after there (coherent.sound found).distinct listed only

end Transition

namespace Tables

variable {tables : Tables} {place slot connection : Nat} {room : Room} {game : Match}
  {session : Session} {config : Config} {moment : Moment} {frame : Frame}

/-- What has become of a room and its players when one of them has closed with a frame. -/
structure Closed (tables : Tables) (slot connection : Nat) (frame : Frame) (place : Nat)
    (room : Room) (game : Match) (step : Step) : Prop where
  asked : frame.type = .close
  bound : tables.connectionOf? slot = some connection
  turn : game.currentSession? = some slot
  last : ∃ seat card, game.seats[game.current]? = some seat ∧ seat.hand = [card] ∧
    card.code = frame.payload
  /-- Whoever has not closed is left with points. -/
  left : ∀ seat ∈ game.seats, seat.session ≠ slot → 1 ≤ (seat.hand.map Card.value).sum
  told : ∀ member ∈ room.memberIds, ∃ own, tables.connectionOf? member = some own ∧
    step.outbox.framesFor own =
      [⟨.matchEnd, reportText (Transition.nickOf slot tables.sessions)
        (game.finalStandings slot tables.sessions)⟩]
  finished : ∃ later, step.tables.rooms.get? place = some later ∧ later.status = .finished ∧
    later.game = none ∧ later.memberIds = room.memberIds ∧
      ∀ member ∈ later.members, member.ready = false
  resting : ∀ member ∈ room.memberIds, ∃ session,
    step.tables.sessions.get? member = some session ∧ session.status = .matchDone

/-- Being heard of changes no name. -/
theorem nickOf_heard (now : Time) (slot id : Nat) (sessions : SessionTable) :
    Transition.nickOf id (sessions.modify slot (Session.touch now)) =
      Transition.nickOf id sessions := by
  rw [Transition.nickOf, Transition.nickOf, SessionTable.get?_modify]
  split
  · cases sessions.get? id <;> rfl
  · rfl

/-- The player on turn sits in the match, and the session says whose turn it is. -/
theorem Coherent.onTurn (coherent : tables.Coherent)
    (found : tables.rooms.get? place = some room) (busy : room.game = some game)
    (running : game.status = .playing) (turn : game.currentSession? = some slot)
    (held : tables.sessions.get? slot = some session) :
    session.status = .onTurn ∧ (Transition.start tables).matchOf? slot = some (place, game) := by
  have occupied : (Transition.start tables).gameIn? place = some game :=
    Option.bind_eq_some_iff.2 ⟨room, found, busy⟩
  obtain ⟨_, other, _, _, there, noted⟩ :=
    coherent.player occupied (Match.mem_of_currentSession? turn)
  obtain rfl : session = other := Option.some.inj (held.symm.trans there)
  constructor
  · rw [coherent.status_eq found busy running held noted, Match.turnStatus, Match.isTurnOf, turn,
      beq_self_eq_true, if_pos rfl]
  · have inside : (Transition.start tables).roomOf? slot = some place :=
      Option.bind_eq_some_iff.2 ⟨session, held, noted⟩
    rw [Transition.matchOf?, inside, Option.bind_some, occupied]
    rfl

/-- A move from the player on turn is made in the match when the player has been heard of. -/
theorem handleFrame_of_move (held : tables.sessions.get? slot = some session)
    (bound : session.connection = some connection) (status : session.status = .onTurn)
    (moves : frame.type.isMove = true) :
    (tables.handleFrame config moment slot connection frame).step =
      ((Transition.start ((Transition.start tables).modifySession slot
        (Session.touch moment.now)).tables).playMove moment.shuffle slot frame.type
          frame.payload).finish := by
  have asks : ¬(frame.type = .ping ∨ frame.type = .pong) := by
    rintro (alive | alive) <;>
      · rw [alive] at moves
        cases moves
  simp only [handleFrame, held, bound, ne_eq, not_true_eq_false, if_false, if_neg asks, dispatch,
    status, Transition.onTurn, moves, if_true]
  rfl

/-- A move from the player on turn is made in the player's match. -/
theorem Coherent.handleFrame_of_turn (coherent : tables.Coherent) (config : Config)
    (moment : Moment) (frame : Frame) (found : tables.rooms.get? place = some room)
    (busy : room.game = some game) (running : game.status = .playing)
    (turn : game.currentSession? = some slot)
    (bound : tables.connectionOf? slot = some connection) (moves : frame.type.isMove = true) :
    let heard := ((Transition.start tables).modifySession slot (Session.touch moment.now)).tables
    (Transition.start heard).matchOf? slot = some (place, game) ∧
      (tables.handleFrame config moment slot connection frame).step =
        ((Transition.start heard).playMove moment.shuffle slot frame.type
          frame.payload).finish := by
  intro heard
  obtain ⟨session, held, linked⟩ := connectionOf?_eq_some.1 bound
  have agrees : heard.Coherent := heard_coherent coherent moment.now slot
  constructor
  · exact (agrees.onTurn found busy running turn (get?_heard held moment.now)).2
  · exact handleFrame_of_move held linked (coherent.onTurn found busy running turn held).1 moves

/-- Every member of a room is connected while its match runs. -/
theorem Coherent.connected (coherent : tables.Coherent)
    (found : tables.rooms.get? place = some room) (busy : room.game = some game)
    (running : game.status = .playing) {member : Nat} (listed : member ∈ room.memberIds) :
    ∃ own, tables.connectionOf? member = some own := by
  obtain ⟨session, held, noted, fits⟩ := coherent.suits found listed
  obtain ⟨-, -, isOf⟩ := (coherent.sound found).busy busy
  have connected := isOf.isConnected running (fits.busy busy).active
    ((coherent.numbered held).symm ▸ listed)
  obtain ⟨own, bound⟩ := Option.isSome_iff_exists.1 connected
  exact ⟨own, connectionOf?_eq_some.2 ⟨session, held, bound⟩⟩

/-- A frame after which a match is gone was the last move in it. -/
theorem handleFrame_closed {came : List Nat} (coherent : tables.Coherent)
    (once : ConnectedOnce came tables.occupants) (underWay : tables.AllUnderWay)
    (found : tables.rooms.get? place = some room) (busy : room.game = some game)
    (gone : (Transition.start
      (tables.handleFrame config moment slot connection frame).step.tables).gameIn? place = none) :
    tables.Closed slot connection frame place room game
      (tables.handleFrame config moment slot connection frame).step := by
  have occupied : (Transition.start tables).gameIn? place = some game :=
    Option.bind_eq_some_iff.2 ⟨room, found, busy⟩
  have course := handleFrame_course coherent config moment slot connection frame place
  rw [occupied, gone] at course
  have sound := coherent.sound found
  obtain ⟨-, -, isOf⟩ := sound.busy busy
  have bound : tables.connectionOf? slot = some connection := by
    by_contra stale
    rw [handleFrame_of_not_isBound (isBound_eq_false stale)] at gone
    exact absurd (occupied.symm.trans gone) nofun
  cases course with
  | kept same =>
      cases same
  | @ended _ after made finished =>
      have running := (Match.follows_of_play_ok made).1
      obtain ⟨asked, closes⟩ := Match.closes_of_finished (isOf.playing_iff.1 running) made finished
      obtain ⟨closer, card, sits, -, only, named⟩ := closes.last
      -- The move is made when the player has been heard of.
      have agrees := heard_coherent coherent moment.now slot
      obtain ⟨located, moved⟩ := coherent.handleFrame_of_turn config moment frame found busy
        running closes.turn bound (asked ▸ rfl)
      rw [moved]
      obtain ⟨rests, settled⟩ := Transition.playMove_rests agrees found located made finished
      refine ⟨asked, bound, closes.turn, ⟨closer, card, sits, only, named⟩, ?_, ?_, rests, settled⟩
      · intro seat there _
        exact Card.one_le_sum ((underWay place game occupied).holding there)
      · intro member there
        obtain ⟨own, connected⟩ := coherent.connected found busy running there
        refine ⟨own, connected, ?_⟩
        have alone := (isOnly_of_connectedOnce once connected).congr
          (heard_occupants moment.now slot tables)
        have distinct := sound.nodup_seats busy
        have named (id : Nat) := nickOf_heard moment.now slot id tables.sessions
        refine (Transition.framesFor_playMove_of_finished agrees found located made finished there
          alone).trans ?_
        rw [Transition.matchReport_eq, closes.standings_score distinct]
        simp only [Match.finalStandings, Transition.modifySession, Transition.start,
          Transition.tables, named]

/-- The player on turn who has one card left closes with it. -/
theorem handleFrame_of_close (coherent : tables.Coherent)
    (found : tables.rooms.get? place = some room) (busy : room.game = some game)
    (running : game.status = .playing) {seat : Seat} {card : Card}
    (sits : game.seats[game.current]? = some seat) (only : seat.hand = [card])
    (bound : tables.connectionOf? seat.session = some connection) :
    (Transition.start (tables.handleFrame config moment seat.session connection
      { type := .close, payload := card.code }).step.tables).gameIn? place = none := by
  have sound := coherent.sound found
  have turn : game.currentSession? = some seat.session := by
    rw [Match.currentSession?, sits, Option.map_some]
  have distinct := sound.nodup_seats busy
  obtain ⟨after, made, finished⟩ :=
    (Match.mayMove_of_sits distinct running sits).finishes only moment.shuffle
  have agrees := heard_coherent coherent moment.now seat.session
  obtain ⟨located, moved⟩ := coherent.handleFrame_of_turn config moment
    { type := .close, payload := card.code } found busy running turn bound rfl
  rw [moved]
  exact (congrArg (Transition.gameIn? place)
    (Transition.playMove_of_finished agrees located made finished)).trans
      (Transition.finishMatch_gameIn? (RoomTable.get?_modify_self found _) _ _)

/-! ## Any run -/

/-- How a match ends: with a frame, only by the last move in it, and always by that one. The loss of
a connection ends none, and a sweep ends those of the players whom it gives up. -/
structure EndsMatches (config : Config) (tables : Tables) : Prop where
  frames : ∀ moment slot connection frame place room,
    let step := (tables.handleFrame config moment slot connection frame).step
    tables.rooms.get? place = some room → room.status = .playing →
      (Transition.start step.tables).gameIn? place = none →
        ∃ game, room.game = some game ∧ tables.Closed slot connection frame place room game step
  closes : ∀ moment connection place room game seat card,
    tables.rooms.get? place = some room → room.game = some game → game.status = .playing →
      game.seats[game.current]? = some seat → seat.hand = [card] →
      tables.connectionOf? seat.session = some connection →
        (Transition.start (tables.handleFrame config moment seat.session connection
          { type := .close, payload := card.code }).step.tables).gameIn? place = none
  drops : ∀ now slot connection place game,
    (Transition.start tables).gameIn? place = some game →
      ∃ later, (Transition.start (tables.handleDisconnect now slot connection).tables).gameIn?
          place = some later ∧
        later.gathered = game.gathered
  sweeps : ∀ now place room game,
    tables.rooms.get? place = some room → room.game = some game →
      (Transition.start (tables.sweep config now).tables).gameIn? place = none →
        ∃ member ∈ room.memberIds,
          (∃ session, tables.sessions.get? member = some session ∧
            session.graceExpired config.reconnectTimeout now) ∧
          ∃ later, (tables.sweep config now).tables.sessions.get? member = some later ∧
            later.isFree

theorem endsMatches {came : List Nat} (coherent : tables.Coherent)
    (once : ConnectedOnce came tables.occupants) (underWay : tables.AllUnderWay) (config : Config) :
    tables.EndsMatches config where
  frames moment slot connection frame place room := by
    intro step found playing gone
    cases busy : room.game with
    | none =>
        exact absurd playing ((coherent.sound found).idle busy)
    | some game =>
        exact ⟨game, rfl, handleFrame_closed coherent once underWay found busy gone⟩
  closes moment connection place room game seat card found busy running sits only bound :=
    handleFrame_of_close coherent found busy running sits only bound
  drops now slot connection place game busy := by
    have same := disconnect_games coherent now slot connection place
    rw [busy, Option.map_some] at same
    exact Option.map_eq_some_iff.1 same
  sweeps now place room game found busy gone := by
    have occupied : (Transition.start tables).gameIn? place = some game :=
      Option.bind_eq_some_iff.2 ⟨room, found, busy⟩
    rcases sweep_games coherent config now place with same | ⟨-, member, listed, sits⟩
    · rw [gone, occupied] at same
      cases same
    · rw [sitsAt, found, Option.any_some] at sits
      obtain ⟨session, held, late⟩ := (mem_forgotten coherent config now member).1 listed
      exact ⟨member, Room.isMember_iff.1 sits, ⟨session, held, late⟩,
        (sweep_gives_up coherent held late).1⟩

/-- Whatever has happened to a server since it was started, as long as no connection comes twice: a
match ends by nothing but the last card of a hand or the giving up of a player. -/
theorem run_endsMatches (config : Config) (started : Time) {events : List Event}
    (fresh : (events.filterMap Event.arrival?).Nodup) :
    (run config started events).EndsMatches config :=
  endsMatches (run_coherent config started events) (run_connectedOnce config started fresh)
    (run_allUnderWay config started events) config

/-- A player is dropped from a match, which is there until the player is given up. -/
theorem endsMatches_of_drop :
    let send (slot : Nat) (type : MessageType) (payload : String) : Event :=
      .frame { now := 1, token := .nth slot, shuffle := .still } slot slot { type, payload }
    let opening : List Event :=
      [.accept 0 0, .accept 0 1, send 0 .login "ann", send 1 .login "ben",
        send 0 .createRoom "den", send 1 .joinRoom "0", send 0 .ready "1", send 1 .ready "1",
        send 0 .start ""]
    let events : List Event := opening ++ [.disconnect 5 1 1]
    let match? (events : List Event) : Option Match :=
      (Transition.start (run {} 0 events)).gameIn? 0
    (events.filterMap Event.arrival?).Nodup ∧
      (match? opening).map Match.status = some .playing ∧
      (match? events).map Match.status = some .paused ∧
      match? (events ++ [.sweep (5 + Time.seconds 121)]) = none ∧
      (run {} 0 events).EndsMatches {} := by
  intro send opening events match?
  have fresh : (events.filterMap Event.arrival?).Nodup := by decide
  refine ⟨fresh, ?_, ?_, ?_, run_endsMatches {} 0 fresh⟩
  · decide +kernel
  · decide +kernel
  · decide +kernel

end Tables

end Cardroom
