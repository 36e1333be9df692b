import Cardroom.Proofs.Server.Cards

/-!
# What a step tells the players

A step that changes a match shows it to every connected player of the match, and any other step
leaves it as the players last saw it. The theorems here say so of each kind of step: one that shows
nobody any cards, one that concerns another room, the start of a match, a move, and the return of a
player.
-/

namespace Cardroom

/-- A player is connected, and plays in the match at a place. -/
structure Tables.Plays (tables : Tables) (id connection place : Nat) (game : Match) : Prop where
  connected : tables.connectionOf? id = some connection
  busy : (Transition.start tables).gameIn? place = some game
  sits : id ∈ game.seats.map Seat.session

/-- What a step with the given outbox tells a player on a connection of the match: it shows the
match as it is now, or nothing, and then it looks as before. A match that is paused is shown only to
a player who returns to it. -/
inductive Informs (before : Tables) (outbox : Outbox) (returns : Prop)
    (id connection place : Nat) (game : Match) : Prop
  | shown {frame : Frame} :
      outbox.cardsFor connection = [frame] → frame.Shows id game →
      (game.status = .playing ∨ returns) →
      Informs before outbox returns id connection place game
  | silent {earlier : Match} :
      outbox.cardsFor connection = [] → before.Plays id connection place earlier →
      earlier.SameFace game →
      Informs before outbox returns id connection place game

/-- A pause changes nothing that the players are shown. -/
theorem Match.SameFace.of_gathered {before after : Match}
    (same : after.gathered = before.gathered) :
    before.SameFace after := by
  have holdings (game : Match) :
      game.gathered.seats.map Seat.holding = game.seats.map Seat.holding := by
    rw [Match.gathered, List.map_map]
    rfl
  refine ⟨?_, ?_, ?_, ?_⟩
  · rw [← holdings after, same, holdings]
  · exact congrArg (fun game => game.discardPile.head?) same
  · exact congrArg (fun game => game.combinations) same
  · exact congrArg (fun game => game.current) same

namespace Tables

variable {before : Tables} {state : Transition} {id connection place : Nat} {game : Match}

theorem Keeps.gathered_eq {after : Tables} (kept : before.Keeps place after) {earlier : Match}
    (busy : (Transition.start before).gameIn? place = some earlier)
    (later : (Transition.start after).gameIn? place = some game) :
    game.gathered = earlier.gathered := by
  obtain ⟨room, found, played⟩ := Option.bind_eq_some_iff.1 busy
  obtain ⟨next, found', played'⟩ := Option.bind_eq_some_iff.1 later
  have found : before.rooms.get? place = some room := found
  have found' : after.rooms.get? place = some next := found'
  have same := kept.room
  rw [found, found', Option.map_some, Option.map_some] at same
  have games := congrArg Room.game (Option.some.inj same)
  rw [Room.gathered, Room.gathered, played, played'] at games
  exact Option.some.inj games

theorem Plays.not_idle (plays : state.tables.Plays id connection place game)
    (idle : state.gameIn? place = none) : False :=
  Option.some_ne_none game (plays.busy.symm.trans idle)

/-- A player of a match is a member of its room, and of no other. -/
theorem Coherent.player (coherent : before.Coherent)
    (busy : (Transition.start before).gameIn? place = some game)
    (sits : id ∈ game.seats.map Seat.session) :
    ∃ room session, before.rooms.get? place = some room ∧ room.game = some game ∧
      before.sessions.get? id = some session ∧ session.room = some place := by
  obtain ⟨room, found, played⟩ := Option.bind_eq_some_iff.1 busy
  obtain ⟨session, held, noted⟩ :=
    coherent.seated found ((coherent.sound found).sessions played ▸ sits)
  exact ⟨room, session, found, played, held, noted⟩

section

variable {slot : Nat} {session : Session}

/-- Whoever may start a match sits in a room without one. -/
theorem Coherent.resting (coherent : before.Coherent)
    (held : before.sessions.get? slot = some session) (connected : session.isConnected)
    (status : session.status = .inRoom ∨ session.status = .matchDone) :
    ∃ room, session.room = some room ∧ (Transition.start before).gameIn? room = none := by
  cases coherent.standing held connected with
  | unknown _ stranger =>
      rw [stranger.status] at status
      simp at status
  | lobby _ _ lobby =>
      rw [lobby] at status
      simp at status
  | resting noted found idle =>
      refine ⟨_, noted, ?_⟩
      rw [Transition.gameIn?, show (Transition.start before).rooms.get? _ = _ from found]
      exact idle
  | seated _ _ _ _ playing =>
      rcases status with inRoom | ended
      · rw [inRoom] at playing
        cases playing
      · rw [ended] at playing
        cases playing

/-- Whoever is on turn sits in a match. -/
theorem Coherent.matchOf? (coherent : before.Coherent)
    (held : before.sessions.get? slot = some session) (connected : session.isConnected)
    (status : session.status = .onTurn) :
    ∃ room game, session.room = some room ∧
      (Transition.start before).matchOf? slot = some (room, game) := by
  cases coherent.standing held connected with
  | unknown _ stranger =>
      rw [stranger.status] at status
      cases status
  | lobby _ _ lobby =>
      rw [lobby] at status
      cases status
  | @resting _ room _ _ _ _ idle =>
      rw [idle, Room.idleStatus] at status
      split at status <;> cases status
  | @seated room _ game noted found busy =>
      refine ⟨room, game, noted, ?_⟩
      rw [Transition.matchOf?, Transition.roomOf?,
        show (Transition.start before).sessions.get? slot = _ from held, Option.bind_some, noted,
        Option.bind_some, Transition.gameIn?,
        show (Transition.start before).rooms.get? _ = _ from found, Option.bind_some, busy]
      rfl

end

/-- Whoever is bound to a connection was bound to it before. -/
theorem connectionOf?_of_kept {after : Tables}
    (kept : Kept Occupant.connection before.occupants after.occupants)
    (connected : after.connectionOf? id = some connection) :
    before.connectionOf? id = some connection := by
  rw [connectionOf?_eq] at connected ⊢
  obtain ⟨later, held, bound⟩ := Option.bind_eq_some_iff.1 connected
  obtain ⟨earlier, there, same⟩ := kept id later connection held bound
  rw [there, Option.bind_some, same]

end Tables

theorem Informs.imp {before : Tables} {outbox : Outbox} {returns later : Prop}
    {id connection place : Nat} {game : Match} (more : returns → later)
    (informs : Informs before outbox returns id connection place game) :
    Informs before outbox later id connection place game := by
  cases informs with
  | shown cards shows stage =>
      exact .shown cards shows (stage.imp_right more)
  | silent cards plays same =>
      exact .silent cards plays same

/-! ## Quiet steps -/

/-- Nobody is shown cards, and no match is dealt. -/
def Scope.quiet : Scope where
  people _ := True
  places _ := True
  ears _ := True
  eyes _ := False
  deals := False

namespace Transition

variable {before : Tables} {state : Transition} {id connection place : Nat} {game : Match}
  {returns : Prop}

theorem start_quiet (before : Tables) : (start before).Confined .quiet before where
  sessions _ outside := absurd trivial outside
  rooms _ outside := absurd trivial outside
  among _ _ _ _ := ⟨fun _ _ => trivial, fun _ _ _ _ => trivial⟩
  bound _ _ _ _ _ _ := trivial
  idle _ _ nothing := nothing
  frames := nofun

theorem Confined.cardsFor_eq_nil (quiet : state.Confined .quiet before) (connection : Nat) :
    state.outbox.cardsFor connection = [] := by
  refine Outbox.cardsFor_eq_nil fun frame listed => ?_
  cases shows : frame.type.showsCards with
  | false =>
      rfl
  | true =>
      exact absurd ((quiet.frames _ listed).2 shows) id

/-- A quiet step that keeps what is played. -/
theorem Confined.informs (quiet : state.Confined .quiet before)
    (kept : ∀ earlier, (start before).gameIn? place = some earlier →
      before.Keeps place state.tables ∨ state.gameIn? place = none)
    (connected : before.connectionOf? id = some connection)
    (plays : state.tables.Plays id connection place game) :
    Informs before state.outbox returns id connection place game := by
  cases busy : (start before).gameIn? place with
  | none =>
      exact (plays.not_idle (quiet.idle not_false place busy)).elim
  | some earlier =>
      rcases kept earlier busy with keeps | gone
      · have same := Match.SameFace.of_gathered (keeps.gathered_eq busy plays.busy)
        exact .silent (quiet.cardsFor_eq_nil connection)
          ⟨connected, busy, same.sits plays.sits⟩ same
      · exact (plays.not_idle gone).elim

/-- A step that concerns one player's room tells nobody of another match. -/
theorem Confined.informs_elsewhere {slot room : Nat} {session : Session} {came : List Nat}
    (coherent : before.Coherent) (once : ConnectedOnce came before.occupants)
    (held : before.sessions.get? slot = some session) (noted : session.room = some room)
    (confined : state.Confined (before.scope (· = slot) (· = room)) before)
    (plays : state.tables.Plays id connection place game) (different : place ≠ room) :
    Informs before state.outbox returns id connection place game := by
  have busy : (start before).gameIn? place = some game := by
    rw [← plays.busy]
    exact congrArg (fun found => found.bind Room.game) (confined.rooms place different).symm
  obtain ⟨-, own, -, -, here, inside⟩ := coherent.player busy plays.sits
  have stranger : ¬(before.scope (· = slot) (· = room)).people id := by
    have apart : own.room ≠ some room := fun same =>
      different (Option.some.inj (inside.symm.trans same))
    rintro (rfl | ⟨_, rfl, other, elsewhere, listed⟩)
    · exact apart (Option.some.inj (here.symm.trans held) ▸ noted)
    · obtain ⟨same, held', noted'⟩ := coherent.seated elsewhere listed
      exact apart (Option.some.inj (here.symm.trans held') ▸ noted')
  have connected : before.connectionOf? id = some connection := by
    have same := plays.connected
    rwa [Tables.connectionOf?, tables_sessions, confined.sessions id stranger] at same
  refine .silent (Outbox.cardsFor_eq_nil fun frame listed => ?_) ⟨connected, busy, plays.sits⟩
    (.refl game)
  obtain ⟨⟨other, session', own', there', bound⟩, -⟩ := confined.frames _ listed
  have bound' : before.connectionOf? other = some connection :=
    Tables.connectionOf?_eq_some.2 ⟨session', there', bound⟩
  rw [(Tables.isOnly_of_connectedOnce once connected other).1 bound'] at own'
  exact absurd own' stranger

theorem startMatch_informs {came : List Nat} (once : ConnectedOnce came before.occupants)
    {rooms : RoomTable} {found : Room} (there : rooms.get? place = some found)
    (distinct : found.memberIds.Nodup) (config : Config) (shuffle : Shuffle)
    (plays : (({ start before with rooms } : Transition).startMatch config shuffle
      place).tables.Plays id connection place game) :
    Informs before
      (({ start before with rooms } : Transition).startMatch config shuffle place).outbox returns id
      connection place game := by
  generalize same : ({ start before with rooms } : Transition) = state at plays ⊢
  have there : state.rooms.get? place = some found := by
    rw [← same]
    exact there
  have dealt : game = (Match.seat place found.memberIds config.shuffleDeck).start shuffle := by
    have now := plays.busy
    rw [show (start (state.startMatch config shuffle place).tables).gameIn? place = _ from
      gameIn?_startMatch there config shuffle] at now
    exact (Option.some.inj now).symm
  have member : id ∈ found.memberIds := by
    have sits := plays.sits
    rw [dealt, ← Match.map_fst_players, Match.start_players, Match.seat_players,
      List.map_map] at sits
    simpa [Function.comp_def] using sits
  have connected : before.connectionOf? id = some connection := by
    have here := plays.connected
    rw [Tables.connectionOf?_congr (startMatch_occupants config shuffle place state),
      ← same] at here
    exact here
  have only : state.tables.IsOnly connection id := by
    rw [← same]
    exact Tables.isOnly_of_connectedOnce once connected
  have cards := cardsFor_startMatch there distinct member only config shuffle
  dsimp only at cards
  obtain ⟨codes, shown⟩ := Match.exists_handCodes? plays.sits
  rw [← dealt, shown, Option.getD_some, ← same] at cards
  rw [← same]
  exact .shown cards (.hand ⟨place, found.memberIds, config.shuffleDeck, shuffle, dealt⟩ shown)
    (.inl (dealt ▸ rfl))

theorem startForOwner_informs {came : List Nat} (coherent : before.Coherent)
    (once : ConnectedOnce came before.occupants) (idle : (start before).gameIn? place = none)
    (config : Config) (shuffle : Shuffle) (slot : Nat)
    (plays : ((start before).startForOwner config shuffle slot place).tables.Plays id connection
      place game) :
    Informs before ((start before).startForOwner config shuffle slot place).outbox returns id
      connection place game := by
  have still (text : String) :
      ¬((start before).reply slot .startFailed text).tables.Plays id connection place game :=
    fun plays => plays.not_idle idle
  unfold startForOwner at plays ⊢
  cases found : (start before).rooms.get? place with
  | none =>
      simp only [found] at plays
      exact absurd plays (still _)
  | some room =>
      simp only [found] at plays ⊢
      split at plays
      · exact absurd plays (still _)
      · next owns =>
          split at plays
          · exact absurd plays (still _)
          · next ready =>
              rw [if_neg owns, if_neg ready]
              have distinct := (coherent.sound found).distinct
              exact startMatch_informs once found distinct config shuffle plays

theorem playAgain_informs {came : List Nat} (coherent : before.Coherent)
    (once : ConnectedOnce came before.occupants) (idle : (start before).gameIn? place = none)
    (config : Config) (shuffle : Shuffle) (slot : Nat) (payload : String)
    (plays : ((start before).playAgain config shuffle slot place payload).tables.Plays id connection
      place game) :
    Informs before ((start before).playAgain config shuffle slot place payload).outbox returns id
      connection place game := by
  unfold playAgain at plays ⊢
  dsimp only at plays ⊢
  cases granted : (start before).rooms.setReady place slot (isYes payload) with
  | error error =>
      simp only [granted] at plays
      exact (plays.not_idle idle).elim
  | ok outcome =>
      obtain ⟨count, rooms⟩ := outcome
      simp only [granted] at plays ⊢
      obtain ⟨room, changed, found, -, there, -, members, same, -⟩ :=
        RoomTable.setReady_eq_ok granted
      split at plays
      · next ready =>
          rw [if_pos ready]
          have distinct := (coherent.sound found).distinct
          rw [← members] at distinct
          exact startMatch_informs once there distinct config shuffle plays
      · have nothing : (rooms.get? place).bind Room.game = none := by
          rw [gameIn?, found, Option.bind_some] at idle
          rw [there, Option.bind_some, same, idle]
        split at plays <;> exact (plays.not_idle nothing).elim

/-! ## Moves -/

theorem finishMatch_gameIn? {room : Room} (found : state.rooms.get? place = some room)
    (winner : Nat) (game : Match) :
    (state.finishMatch place winner game).gameIn? place = none := by
  unfold finishMatch
  rw [gameIn?, foldl_rooms]
  · show ((state.rooms.modify place _).get? place).bind Room.game = none
    rw [RoomTable.get?_modify_self found, Option.bind_some, Room.finishMatch_game]
  · exact fun _ _ => rfl

/-- A move is made, everybody at the table is shown it, and whatever is said after that. -/
theorem showTable_informs {room : Room} (found : before.rooms.get? place = some room)
    {after : Match} (distinct : (after.seats.map Seat.session).Nodup)
    (running : after.status = .playing) (only : before.IsOnly connection id)
    (cards : state.outbox.cardsFor connection =
      (((start before).setGame place after).showTable after).outbox.cardsFor connection)
    (set : state.rooms = ((start before).setGame place after).rooms)
    (plays : state.tables.Plays id connection place game) :
    Informs before state.outbox returns id connection place game := by
  have now : state.gameIn? place = some after := by
    have there : (start before).rooms.get? place = some room := found
    rw [gameIn?, set]
    exact gameIn?_setGame there after
  obtain rfl : game = after := Option.some.inj (plays.busy.symm.trans now)
  obtain ⟨view, shown⟩ := Match.exists_view? plays.sits
  have seated : ((start before).setGame place game).tables.IsOnly connection id := only
  rw [cardsFor_showTable distinct plays.sits seated, shown] at cards
  exact .shown cards (.table shown) (.inl running)

/-- Whatever a player asks of the match: a move that is made is shown to everybody at the table, and
one that is refused changes nothing that is shown. -/
theorem playMove_informs {came : List Nat} (coherent : before.Coherent)
    (once : ConnectedOnce came before.occupants) {slot : Nat} {played : Match}
    (located : (start before).matchOf? slot = some (place, played)) (shuffle : Shuffle)
    (action : MessageType) (payload : String)
    (plays : ((start before).playMove shuffle slot action payload).tables.Plays id connection place
      game) :
    Informs before ((start before).playMove shuffle slot action payload).outbox returns id
      connection place game := by
  obtain ⟨session, room, -, -, found, busy⟩ := matchOf?_eq_some located
  have distinct := (coherent.sound found).nodup_seats busy
  have connected : before.connectionOf? id = some connection := by
    have here := plays.connected
    rwa [Tables.connectionOf?_congr (playMove_occupants shuffle slot action payload _)] at here
  have only := Tables.isOnly_of_connectedOnce once connected
  have agrees : (start before).tables.Coherent := coherent
  have known := findRoom_eq_self agrees slot
  unfold playMove at plays ⊢
  simp only [known, located] at plays ⊢
  have seats := Match.map_session_play shuffle slot action payload played
  cases made : played.play shuffle slot action payload with
  | mk answer after =>
      rw [made] at seats
      have set := gameIn?_setGame found after
      cases answer with
      | error error =>
          simp only [made] at plays ⊢
          obtain rfl : game = after := Option.some.inj (plays.busy.symm.trans set)
          have same := Match.sameFace_of_play_error made
          refine .silent ?_ ⟨connected, Option.bind_eq_some_iff.2 ⟨room, found, busy⟩,
            same.sits plays.sits⟩ same
          rw [cardsFor_reply_plain rfl]
          rfl
      | ok =>
          simp only [made] at plays ⊢
          by_cases finished : after.status = .finished
          · rw [if_pos finished] at plays
            exact (plays.not_idle (finishMatch_gameIn?
              (RoomTable.get?_modify_self found _) slot after)).elim
          · rw [if_neg finished] at plays ⊢
            rw [← seats] at distinct
            obtain ⟨running, follows⟩ := Match.follows_of_play_ok made
            have running : after.status = .playing := by
              cases follows with
              | finished ended =>
                  exact absurd ended finished
              | passed _ _ status =>
                  exact status.trans running
              | same _ same =>
                  exact same.status.trans running
            have rooms := congrArg Tables.rooms
              (showTable_tables after ((start before).setGame place after))
            refine showTable_informs found distinct running only ?_ ?_ plays
            · split
              · exact cardsFor_reply_plain rfl _ _ _ _
              · exact cardsFor_announceTurn _ _ _
              · rfl
            · split
              · exact rooms
              · refine (foldl_rooms ?_ _ _).trans rooms
                exact fun _ _ => rfl
              · exact rooms

section

variable {slot existing own : Nat} {sender target : Session} {now : Time}

theorem handOver_cardsFor (connection : Nat) :
    ((start before).handOver now slot existing own).outbox.cardsFor connection = [] := by
  unfold handOver
  rw [cardsFor_reply_plain rfl]
  rfl

theorem resumeOutside_outbox (id : Nat) (state : Transition) :
    (state.resumeOutside id).outbox.cardsFor connection = state.outbox.cardsFor connection := by
  unfold resumeOutside
  split
  · rfl
  · rw [cardsFor_reply_plain rfl]
    rfl

/-- No match begins when a player comes back, and the others are as they were. -/
theorem sameFace_of_resume (coherent : before.Coherent)
    (there : before.sessions.get? existing = some target) (away : target.connection = none)
    (moved : existing ≠ slot)
    (played : (((start before).handOver now slot existing own).resume existing).gameIn? place =
      some game) :
    ∃ earlier, (start before).gameIn? place = some earlier ∧ earlier.SameFace game := by
  cases busy : (start before).gameIn? place with
  | some earlier =>
      have occupied :
          ((start before).handOver now slot existing own).gameIn? place = some earlier :=
        busy
      have kept := resume_keeps occupied existing
      exact ⟨earlier, rfl, .of_gathered (kept.gathered_eq occupied played)⟩
  | none =>
      have elsewhere : target.room ≠ some place := by
        intro noted
        obtain ⟨room, found⟩ := coherent.noted there noted
        have found' : before.rooms.get? place = some room := found
        rw [gameIn?, show (start before).rooms.get? place = some room from found,
          Option.bind_some] at busy
        have present := ((coherent.member found there noted).2.idle busy).1
        rw [Session.isConnected, away] at present
        cases present
      -- So the player came back to another room or to none, and this one was not touched.
      have agrees : (start before).tables.Coherent := coherent
      have same := (resume_returns agrees there moved now own).rooms place elsewhere
      rw [gameIn?, ← tables_rooms, same] at played
      exact absurd (played.symm.trans busy) (Option.some_ne_none game)

/-- A player comes back, and is shown the match, if there is one. -/
theorem resume_informs {came : List Nat} (coherent : before.Coherent)
    (once : ConnectedOnce came before.occupants)
    (held : before.sessions.get? slot = some sender) (bound : sender.connection = some own)
    (there : before.sessions.get? existing = some target) (away : target.connection = none)
    (moved : existing ≠ slot)
    (plays : (((start before).handOver now slot existing own).resume existing).tables.Plays id
      connection place game) :
    Informs before (((start before).handOver now slot existing own).resume existing).outbox
      (connection = own) id connection place game := by
  obtain ⟨earlier, busy, same⟩ := sameFace_of_resume coherent there away moved plays.busy
  have first : (start before).sessions.get? existing = some target := there
  have holders := handOver_occupants first moved now own
  have returned := get?_handOver_self first moved now own
  have quiet : ∀ connection,
      ((start before).handOver now slot existing own).outbox.cardsFor connection = [] :=
    handOver_cardsFor
  have rooms : ((start before).handOver now slot existing own).rooms = before.rooms := rfl
  have connected := plays.connected
  rw [Tables.connectionOf?_congr (resume_occupants existing _)] at connected
  generalize (start before).handOver now slot existing own = back at *
  have bound' : back.tables.connectionOf? existing = some own :=
    Tables.connectionOf?_eq_some.2 ⟨_, returned, rfl⟩
  have only : back.tables.IsOnly own existing :=
    Tables.isOnly_of_connectedOnce (holders ▸ once.comeBack (Tables.getElem?_occupants held) bound)
      bound'
  by_cases here : id = existing
  · subst here
    obtain rfl : own = connection := Option.some.inj (bound'.symm.trans connected)
    obtain ⟨room, session, found, played, there', noted⟩ :=
      coherent.player busy (same.sits plays.sits)
    obtain rfl : target = session := Option.some.inj (there.symm.trans there')
    have found' : back.rooms.get? place = some room := rooms ▸ found
    have located : back.matchOf? id = some (place, earlier) := by
      rw [matchOf?, roomOf?, returned, Option.bind_some,
        show (target.rebind own now).room = some place from noted, Option.bind_some, gameIn?,
        found', Option.bind_some, played]
      rfl
    have resumed : back.resume id = back.resumeMatch id place earlier := by
      simp only [resume, located]
    rw [resumed] at plays ⊢
    obtain ⟨shown, set, cards⟩ := resumeMatch_shows id place earlier found'
    obtain rfl : game = shown := Option.some.inj (plays.busy.symm.trans set)
    obtain ⟨view, visible⟩ := Match.exists_view? plays.sits
    have cards := cards own
    rw [quiet, if_pos bound', visible] at cards
    exact .shown cards (.table visible) (.inr rfl)
  · have stranger : connection ≠ own := by
      rintro rfl
      exact here ((only id).1 connected)
    have kept : before.connectionOf? id = some connection := by
      rw [Tables.connectionOf?_eq] at connected ⊢
      rw [holders, List.getElem?_set_ne (Ne.symm here)] at connected
      obtain ⟨holder, found, same⟩ := Option.bind_eq_some_iff.1 connected
      rcases of_getElem?_set found with ⟨-, rfl⟩ | ⟨-, earlier⟩
      · cases same
      · rw [show before.occupants[id]? = some holder from earlier, Option.bind_some, same]
    refine .silent ?_ ⟨kept, busy, same.sits plays.sits⟩ same
    unfold resume
    split
    · rw [resumeOutside_outbox, quiet]
    · next room played located =>
        obtain ⟨_, _, _, _, found, _⟩ := matchOf?_eq_some located
        obtain ⟨shown, -, cards⟩ := resumeMatch_shows existing room played found
        rw [cards, quiet, bound', if_neg fun equal => stranger (Option.some.inj equal).symm,
          List.append_nil]

end

end Transition

end Cardroom
