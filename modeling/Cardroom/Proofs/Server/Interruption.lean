import Cardroom.Proofs.Server.Agreement
import Cardroom.Proofs.Server.Keeps

/-!
# Interrupted matches

When a player of a running match is dropped and comes back, the match goes on as if nothing had
happened. `after_keeps` is the step: no event disturbs a match, unless a player moves in it or is
given up. `run_undisturbed` follows by induction on the events.
-/

namespace Cardroom

namespace Transition

variable {state : Transition} {id place other : Nat} {game : Match}

theorem pauseMatch_keeps (place id : Nat) (busy : state.gameIn? other = some game) :
    state.tables.Keeps place (state.pauseMatch id other game).tables := by
  have same := (Match.gathered_pause? pauseText (game.setActive id false)).trans
    (Match.gathered_setActive id false game)
  unfold pauseMatch
  dsimp only
  rw [broadcast_tables]
  refine .trans (setGame_keeps place busy same) (foldl_keeps _ _ fun state member => ?_)
  exact modifySession_keeps place member state fun session =>
    session.sameButStatus_suspend.samePlayer

theorem afterDrop_keeps (busy : state.gameIn? place = some game)
    (stage : game.status = .playing ∨ game.status = .paused) (id : Nat) :
    state.tables.Keeps place (state.afterDrop id).tables := by
  unfold afterDrop
  split
  · exact .refl place _
  · next other noted =>
      split
      · next played found =>
          exact pauseMatch_keeps place id (Option.filter_eq_some_iff.1 found).1
      · next idle =>
          -- The room at the place has a match that is not over, so this is another one.
          have apart : state.roomOf? id ≠ some place := by
            rw [noted]
            rintro same
            cases same
            rw [busy, Option.filter_eq_none_iff] at idle
            rcases stage with running | paused
            · exact idle game rfl (by simp [running])
            · exact idle game rfl (by simp [paused])
          dsimp only
          rw [broadcast_tables]
          exact keeps_modifySession (leaveRoom_keeps apart) apart _

theorem disconnect_keeps (coherent : state.tables.Coherent)
    (busy : state.gameIn? place = some game)
    (stage : game.status = .playing ∨ game.status = .paused) (id connection : Nat) (now : Time) :
    state.tables.Keeps place (state.disconnect id connection now).tables := by
  unfold disconnect
  split
  · exact .refl place _
  · next session held =>
      split
      · exact .refl place _
      · split
        · next unnamed =>
            have nowhere : session.room = none :=
              coherent.room_of_unnamed held (by simpa [Session.isLoggedIn] using unnamed)
            refine modifySession_keeps_of_apart ?_ _
            rw [roomOf?, held, Option.bind_some, nowhere]
            exact (Option.some_ne_none place).symm
        · have detached : state.tables.Keeps place
              ({ state with sessions := state.sessions.detach id connection now } :
                Transition).tables := by
            unfold SessionTable.detach
            split
            · exact modifySession_keeps place id state fun session => ⟨rfl, rfl, rfl⟩
            · exact .refl place _
          have lost := detached.trans (modifySession_keeps place id _ fun session =>
            session.sameButStatus_drop.samePlayer)
          refine lost.trans ?_
          refine afterDrop_keeps ?_ stage id
          exact busy

theorem resumeMatch_keeps (place id : Nat) (busy : state.gameIn? other = some game) :
    state.tables.Keeps place (state.resumeMatch id other game).tables := by
  have present := Match.gathered_setActive id true game
  unfold resumeMatch
  dsimp only
  generalize game.setActive id true = returned at present
  cases goesOn : (if returned.allActive then returned.resume? else none) with
  | some resumed =>
      have same : resumed.gathered = game.gathered := by
        split at goesOn
        · exact (Match.gathered_resume? goesOn).trans present
        · cases goesOn
      simp only [Option.getD_some, Option.isSome_some, if_true]
      rw [broadcast_tables, showView_tables, reply_tables]
      refine .trans (setGame_keeps place busy same) (foldl_keeps _ _ fun state seat => ?_)
      exact modifySession_keeps place seat.session state fun session =>
        session.sameButStatus_endPause.samePlayer
  | none =>
      have waiting := setGame_keeps place busy present
      simp only [Option.getD_none, Option.isSome_none, Bool.false_eq_true, if_false]
      rw [showView_tables, reply_tables]
      split
      · exact waiting.trans (modifySession_keeps place id _ fun session => ⟨rfl, rfl, rfl⟩)
      · exact waiting

theorem resume_keeps (busy : state.gameIn? place = some game) (id : Nat) :
    state.tables.Keeps place (state.resume id).tables := by
  unfold resume
  split
  · next nothing =>
      have apart : state.roomOf? id ≠ some place := by
        intro noted
        rw [matchOf?, noted, Option.bind_some, busy] at nothing
        cases nothing
      unfold resumeOutside
      split
      · exact .refl place _
      · rw [reply_tables]
        exact modifySession_keeps_of_apart apart _
  · next other played located =>
      obtain ⟨_, _, there⟩ := Option.bind_eq_some_iff.1 located
      obtain ⟨_, found, same⟩ := Option.map_eq_some_iff.1 there
      cases same
      exact resumeMatch_keeps place id found

theorem rebind_keeps (busy : state.gameIn? place = some game) (id connection : Nat) (now : Time) :
    let back := (state.modifySession id (Session.rebind connection now)).reply id .reconnected
      "Reconnected"
    state.tables.Keeps place (back.resume id).tables := by
  intro back
  have bound : state.tables.Keeps place back.tables :=
    modifySession_keeps place id state fun _ => ⟨rfl, rfl, rfl⟩
  have occupied : back.gameIn? place = some game := busy
  exact bound.trans (resume_keeps occupied id)

theorem loginAgain_keeps (busy : state.gameIn? place = some game)
    (apart : state.roomOf? id ≠ some place) (now : Time) (connection : Nat)
    (nick token : String) :
    state.tables.Keeps place (state.loginAgain now id connection nick token).state.tables := by
  unfold loginAgain
  split
  · exact .refl place _
  · next existing _ =>
      split
      · exact .refl place _
      · split
        · exact .refl place _
        · split
          · exact .refl place _
          · generalize freed : (if existing = id then state else state.release id now) = vacated
            have released : state.tables.Keeps place vacated.tables := by
              rw [← freed]
              split
              · exact .refl place _
              · exact modifySession_keeps_of_apart apart _
            have occupied : vacated.gameIn? place = some game := by
              rw [← freed]
              split <;> exact busy
            exact released.trans (rebind_keeps occupied existing connection now)

theorem onLogin_keeps (busy : state.gameIn? place = some game)
    (apart : state.roomOf? id ≠ some place) (moment : Moment) (connection : Nat)
    (frame : Frame) :
    state.tables.Keeps place (state.onLogin moment id connection frame).state.tables := by
  unfold onLogin
  split
  · split
    · exact .refl place _
    · unfold loginNew
      split
      · exact .refl place _
      · exact modifySession_keeps_of_apart apart _
    · exact loginAgain_keeps busy apart moment.now connection _ _
  · exact modifySession_keeps_of_apart apart _
  · exact .refl place _

/-! ## Frames -/

theorem onLobby_keeps (coherent : state.tables.Coherent) (busy : state.gameIn? place = some game)
    (apart : state.roomOf? id ≠ some place) (now : Time) (frame : Frame) :
    state.tables.Keeps place (state.onLobby now id frame).2.tables := by
  unfold onLobby
  split
  · split <;> exact .refl place _
  · dsimp only
    exact createRoom_keeps busy apart frame.payload
  · dsimp only
    exact joinRoom_keeps coherent busy apart frame.payload
  · exact modifySession_keeps_of_apart apart _
  · exact modifySession_keeps_of_apart apart _

theorem keeps_leaveRoom (apart : state.roomOf? id ≠ some place) (change : Session → Session) :
    state.tables.Keeps place ((state.leaveRoom id).modifySession id change).tables :=
  keeps_modifySession (leaveRoom_keeps apart) apart change

theorem onRoom_keeps (coherent : state.tables.Coherent) (config : Config) (moment : Moment)
    (noted : state.roomOf? id = some other) (different : place ≠ other) (frame : Frame) :
    state.tables.Keeps place (state.onRoom config moment id frame).2.tables := by
  have apart : state.roomOf? id ≠ some place := by
    rw [noted]
    exact fun same => different (Option.some.inj same).symm
  simp only [onRoom, findRoom_eq_self coherent, noted]
  split
  · exact keeps_leaveRoom apart _
  · exact getReady_keeps different id frame.payload state
  · exact startForOwner_keeps different config moment.shuffle id state
  · exact keeps_leaveRoom apart _
  · exact .refl place _

theorem onMatchDone_keeps (coherent : state.tables.Coherent) (config : Config) (moment : Moment)
    (noted : state.roomOf? id = some other) (different : place ≠ other) (frame : Frame) :
    state.tables.Keeps place (state.onMatchDone config moment id frame).2.tables := by
  have apart : state.roomOf? id ≠ some place := by
    rw [noted]
    exact fun same => different (Option.some.inj same).symm
  simp only [onMatchDone, findRoom_eq_self coherent, noted]
  split
  · exact playAgain_keeps different config moment.shuffle id frame.payload state
  · show (state.broadcast other .lobby "Back to lobby" none).tables.Keeps place _
    refine closeRoom_keeps ?_ different
    exact coherent
  · exact keeps_leaveRoom apart _
  · exact keeps_leaveRoom apart _
  · exact .refl place _

theorem onTurn_keeps (coherent : state.tables.Coherent) (shuffle : Shuffle) (frame : Frame)
    (spared : state.roomOf? id = some place → frame.type.isMove = false) :
    state.tables.Keeps place (state.onTurn shuffle id frame).2.tables := by
  unfold onTurn
  split
  · next moves =>
      refine playMove_keeps coherent (fun here => ?_) shuffle frame.type frame.payload
      rw [spared here] at moves
      cases moves
  · exact .refl place _

/-- A frame disturbs no match, unless it is a move in that match. -/
theorem dispatch_keeps {session : Session} (coherent : state.tables.Coherent)
    (busy : state.gameIn? place = some game) (held : state.sessions.get? id = some session)
    (connected : session.isConnected) (config : Config) (moment : Moment) (connection : Nat)
    (frame : Frame)
    (spared : session.room = some place → session.status = .onTurn →
      frame.type.isMove = false) :
    state.tables.Keeps place
      (Tables.dispatch config moment id connection frame session.status state).state.tables := by
  have here : state.roomOf? id = session.room := by
    rw [roomOf?, held]
    rfl
  cases coherent.standing held connected with
  | unknown nowhere unknown =>
      have apart : state.roomOf? id ≠ some place := by simp [here, nowhere]
      rw [unknown.status]
      exact onLogin_keeps busy apart moment connection frame
  | lobby nowhere lobby status =>
      have apart : state.roomOf? id ≠ some place := by simp [here, nowhere]
      rw [status]
      exact onLobby_keeps coherent busy apart moment.now frame
  | @resting other room noted found idle known status =>
      have different : place ≠ other := by
        refine ne_of_gameIn? busy ?_
        rw [gameIn?, ← tables_rooms, found]
        exact idle
      rw [status, Room.idleStatus]
      split
      · exact onMatchDone_keeps coherent config moment (here.trans noted) different frame
      · exact onRoom_keeps coherent config moment (here.trans noted) different frame
  | seated noted found played known playing =>
      cases status : session.status with
      | onTurn =>
          exact onTurn_keeps coherent moment.shuffle frame fun noted =>
            spared (here.symm.trans noted) status
      | onWait =>
          exact (state.onWait_tables id frame).symm ▸ .refl place _
      | paused =>
          exact (state.onPaused_tables id frame).symm ▸ .refl place _
      | disconnected | connected | inRoom | matchDone =>
          rw [status] at playing
          cases playing

/-! ## Sweeps -/

theorem evict_keeps (coherent : state.tables.Coherent) (busy : state.gameIn? place = some game)
    (stage : game.status = .playing ∨ game.status = .paused) (id : Nat) (now : Time) :
    state.tables.Keeps place (state.evict id now).tables := by
  unfold evict
  split
  · exact .refl place _
  · next connection _ =>
      let told : Transition :=
        { state with
          outbox :=
            (state.outbox.push connection .lobby "Connection lost (heartbeat)").close connection }
      have coherent : told.tables.Coherent := coherent
      exact disconnect_keeps coherent busy stage id connection now

end Transition

namespace Tables

def sitsAt (place slot : Nat) (tables : Tables) : Bool :=
  (tables.rooms.get? place).any fun room => room.isMember slot

def evicted (config : Config) (now : Time) (tables : Tables) : Transition :=
  let state := (Transition.start tables).pingAll
  (state.sessions.timedOut config.heartbeatTimeout now).foldl
    (fun state id => state.evict id now) state

def forgotten (config : Config) (now : Time) (tables : Tables) : List Nat :=
  (tables.evicted config now).sessions.expired config.reconnectTimeout now

variable {tables before after : Tables} {place : Nat} {game : Match}

theorem sweep_tables (config : Config) (now : Time) (tables : Tables) :
    (tables.sweep config now).tables =
      ((tables.forgotten config now).foldl (fun state id => state.expire id now)
        (tables.evicted config now)).tables :=
  rfl

theorem Coherent.stage {state : Transition} (coherent : state.tables.Coherent)
    (busy : state.gameIn? place = some game) :
    game.status = .playing ∨ game.status = .paused := by
  obtain ⟨room, found, played⟩ := Option.bind_eq_some_iff.1 busy
  obtain ⟨_, _, isOf⟩ := (coherent.sound found).busy played
  exact isOf.stage.imp And.left And.left

theorem Keeps.busy {state later : Transition} (kept : state.tables.Keeps place later.tables)
    (busy : state.gameIn? place = some game) :
    ∃ after, later.gameIn? place = some after := by
  have played (state : Transition) : (state.gameIn? place).isSome =
      (((state.rooms.get? place).map Room.gathered).bind Room.game).isSome := by
    cases found : state.rooms.get? place <;> simp [Transition.gameIn?, found, Room.gathered]
  have same : (later.gameIn? place).isSome = (state.gameIn? place).isSome := by
    rw [played, played]
    exact congrArg (fun room => (room.bind Room.game).isSome) kept.room
  rw [busy, Option.isSome_some] at same
  exact Option.isSome_iff_exists.1 same

theorem Keeps.sitsAt_eq (kept : before.Keeps place after) (slot : Nat) :
    after.sitsAt place slot = before.sitsAt place slot := by
  have members (tables : Tables) : tables.sitsAt place slot =
      ((tables.rooms.get? place).map Room.gathered).any fun room => room.isMember slot := by
    rw [sitsAt, Option.any_map]
    rfl
  rw [members, members, kept.room]

/-- Steps that each keep the room as long as the tables agree. -/
theorem foldl_keeps_coherent {state : Transition} {step : Transition → Nat → Transition}
    {ids : List Nat} (coherent : state.tables.Coherent) (busy : state.gameIn? place = some game)
    (agreed : ∀ {state : Transition}, state.tables.Coherent → ∀ id,
      (step state id).tables.Coherent)
    (kept : ∀ {later : Transition} {game : Match} {id : Nat},
      state.tables.Keeps place later.tables → later.tables.Coherent →
        later.gameIn? place = some game → id ∈ ids →
          later.tables.Keeps place (step later id).tables) :
    state.tables.Keeps place (ids.foldl step state).tables ∧
      (ids.foldl step state).tables.Coherent := by
  refine List.foldlRecOn (motive := fun later : Transition =>
    state.tables.Keeps place later.tables ∧ later.tables.Coherent) ids step
    ⟨.refl place _, coherent⟩ ?_
  rintro later ⟨sofar, agrees⟩ id member
  obtain ⟨after, played⟩ := sofar.busy busy
  exact ⟨sofar.trans (kept sofar agrees played member), agreed agrees id⟩

theorem evicted_keeps (coherent : tables.Coherent)
    (busy : (Transition.start tables).gameIn? place = some game) (config : Config) (now : Time) :
    tables.Keeps place (tables.evicted config now).tables ∧
      (tables.evicted config now).tables.Coherent := by
  have pinged : (Transition.start tables).pingAll.tables.Coherent := coherent
  exact foldl_keeps_coherent pinged busy
    (fun coherent id => Transition.evict_coherent coherent id now)
    fun _ agrees played _ => Transition.evict_keeps agrees played (agrees.stage played) _ now

end Tables

namespace Transition

variable {state : Transition} {id place : Nat}

theorem roomOf?_ne_of_sitsAt (coherent : state.tables.Coherent)
    (absent : state.tables.sitsAt place id = false) :
    state.roomOf? id ≠ some place := by
  intro noted
  obtain ⟨session, held, here⟩ := Option.bind_eq_some_iff.1 noted
  obtain ⟨room, found⟩ := coherent.noted held here
  have member := (coherent.member found held here).1
  rw [Tables.sitsAt, found, Option.any_some, Room.isMember_iff.2 member] at absent
  cases absent

theorem expire_keeps (coherent : state.tables.Coherent)
    (absent : state.tables.sitsAt place id = false) (now : Time) :
    state.tables.Keeps place (state.expire id now).tables := by
  have apart := roomOf?_ne_of_sitsAt coherent absent
  unfold expire
  refine keeps_modifySession ?_ apart _
  split
  · exact .refl place _
  · next other room located =>
      obtain ⟨_, noted, there⟩ := Option.bind_eq_some_iff.1 located
      obtain ⟨_, found, same⟩ := Option.map_eq_some_iff.1 there
      cases same
      have different : place ≠ other := by
        rintro rfl
        exact apart noted
      rw [abandonRoom_tables]
      refine .trans (.foldl_of_apart ((coherent.sound found).distinct.filter _) ?_)
        (.of_rooms rfl (RoomTable.eqExcept_set_none other _) different)
      intro slot session held here member
      exact coherent.not_mem_of_room found held here different (Room.mem_others.1 member).1

end Transition

namespace Tables

variable {tables : Tables} {place : Nat} {game : Match} {config : Config}

/-- A sweep that forgets no member of a room. -/
theorem sweep_keeps {now : Time} (coherent : tables.Coherent)
    (busy : (Transition.start tables).gameIn? place = some game)
    (spared : ∀ slot ∈ tables.forgotten config now, tables.sitsAt place slot = false) :
    tables.Keeps place (tables.sweep config now).tables := by
  obtain ⟨dropped, agrees⟩ := evicted_keeps coherent busy config now
  obtain ⟨later, played⟩ := dropped.busy busy
  rw [sweep_tables]
  refine dropped.trans (And.left (foldl_keeps_coherent agrees played
    (fun coherent id => Transition.expire_coherent coherent id now) ?_))
  intro later game slot sofar agrees _ member
  refine Transition.expire_keeps agrees ?_ now
  rw [sofar.sitsAt_eq, dropped.sitsAt_eq]
  exact spared slot member

theorem accept_keeps (coherent : tables.Coherent) (place : Nat) (now : Time) (connection : Nat) :
    tables.Keeps place (tables.accept now connection).2.tables := by
  unfold accept
  split
  · next slot sessions allocated =>
      obtain ⟨session, held, free, rfl⟩ := SessionTable.allocate?_eq_some allocated
      simp only [Session.isFree, Bool.and_eq_true, Option.isNone_iff_eq_none] at free
      have nowhere := coherent.room_of_unnamed held free.2
      refine .modify fun {other} there here => ?_
      obtain rfl : session = other := Option.some.inj (held.symm.trans there)
      rw [nowhere] at here
      cases here
  · exact .refl place _

theorem handleFrame_keeps (coherent : tables.Coherent)
    (busy : (Transition.start tables).gameIn? place = some game) (config : Config)
    (moment : Moment) (slot connection : Nat) (frame : Frame)
    (spared : ∀ {session}, tables.sessions.get? slot = some session →
      session.room = some place → session.status = .onTurn → frame.type.isMove = false) :
    tables.Keeps place
      (tables.handleFrame config moment slot connection frame).step.tables := by
  unfold handleFrame
  split
  · exact .refl place _
  · next session held =>
      split
      · exact .refl place _
      · next bound =>
          have connected : session.isConnected := by
            rw [Session.isConnected, Decidable.not_not.1 bound]
            rfl
          have heard : (Transition.start tables).tables.Keeps place
              ((Transition.start tables).modifySession slot (Session.touch moment.now)).tables :=
            Transition.modifySession_keeps place slot _ fun _ => ⟨rfl, rfl, rfl⟩
          simp only
          split
          · exact heard
          · refine heard.trans ?_
            exact Transition.dispatch_keeps (heard_coherent coherent moment.now slot) busy
              (get?_heard held moment.now) connected config moment connection frame
              fun here turn => spared held here turn

/-- Whether an event neither moves in the match at a place nor gives up one of its players. -/
def Event.spares (config : Config) (place : Nat) (tables : Tables) : Event → Bool
  | .accept .. | .disconnect .. => true
  | .frame _ slot _ sent =>
      !(tables.sitsAt place slot && sent.type.isMove &&
        (tables.sessions.get? slot).any fun session => session.status == .onTurn)
  | .sweep now => !(tables.forgotten config now).any fun slot => tables.sitsAt place slot

def spared (config : Config) (place : Nat) : List Event → Tables → Bool
  | [], _ => true
  | event :: events, tables =>
      event.spares config place tables && spared config place events (tables.after config event)

theorem after_keeps (coherent : tables.Coherent)
    (busy : (Transition.start tables).gameIn? place = some game) {event : Event}
    (spares : event.spares config place tables = true) :
    tables.Keeps place (tables.after config event) := by
  cases event with
  | accept now connection =>
      exact accept_keeps coherent place now connection
  | frame moment slot connection frame =>
      refine handleFrame_keeps coherent busy config moment slot connection frame ?_
      intro session held here turn
      obtain ⟨room, found⟩ := coherent.noted held here
      have member := Room.isMember_iff.2 (coherent.member found held here).1
      simpa [Event.spares, sitsAt, found, member, held, turn] using spares
  | disconnect now slot connection =>
      have agrees : (Transition.start tables).tables.Coherent := coherent
      exact Transition.disconnect_keeps agrees busy (agrees.stage busy) slot connection now
  | sweep now =>
      refine sweep_keeps coherent busy ?_
      simpa [Event.spares] using spares

/-! ## Any run -/

/-- No event that spares the match at a place disturbs it, and so nor do all of them. -/
theorem keeps_of_spared {events : List Event} (coherent : tables.Coherent)
    (busy : (Transition.start tables).gameIn? place = some game)
    (spares : spared config place events tables = true) :
    tables.Keeps place (events.foldl (after config) tables) := by
  induction events generalizing tables game with
  | nil =>
      exact .refl place tables
  | cons event events inductionHypothesis =>
      rw [spared, Bool.and_eq_true] at spares
      have kept : (Transition.start tables).tables.Keeps place
          (Transition.start (tables.after config event)).tables :=
        after_keeps coherent busy spares.1
      obtain ⟨later, played⟩ := kept.busy busy
      exact kept.trans
        (inductionHypothesis (after_coherent coherent config event) played spares.2)

end Tables

@[simp]
theorem Room.memberIds_gathered (room : Room) : room.gathered.memberIds = room.memberIds :=
  rfl

theorem Room.gathered_eq_self {place : Nat} {room : Room} {game : Match}
    (sound : room.IsSound place) (busy : room.game = some game)
    (playing : game.status = .playing) :
    room.gathered = room := by
  obtain ⟨_, _, isOf⟩ := sound.busy busy
  rcases isOf.stage with ⟨_, reason, active⟩ | ⟨paused, _⟩
  · rw [gathered, busy, Option.map_some, Match.gathered_eq_self playing reason active, ← busy]
  · rw [playing] at paused
    cases paused

namespace Tables

variable {before after : Tables} {place : Nat} {room : Room} {game : Match}

/-- A room whose members are all there is as it was when they were all there. -/
theorem Keeps.room_eq (kept : before.Keeps place after) (coherent : before.Coherent)
    (returned : after.Coherent) (found : before.rooms.get? place = some room)
    (busy : room.game = some game) (playing : game.status = .playing)
    (back : ∀ member ∈ room.memberIds, ∃ session,
      after.sessions.get? member = some session ∧ session.isConnected) :
    after.rooms.get? place = some room := by
  have same := kept.room
  rw [found, Option.map_some] at same
  obtain ⟨later, found', gathered⟩ := Option.map_eq_some_iff.1 same
  have members : later.gathered.memberIds = room.gathered.memberIds := by
    rw [gathered]
  rw [Room.memberIds_gathered, Room.memberIds_gathered] at members
  have games : later.game.map Match.gathered = some game.gathered := by
    have games : later.gathered.game = room.gathered.game := by
      rw [gathered]
    rwa [Room.gathered, Room.gathered, busy] at games
  obtain ⟨resumed, busy', _⟩ := Option.map_eq_some_iff.1 games
  have running : resumed.status = .playing := by
    rw [(returned.matchAgrees found' busy').running, members]
    exact back
  rw [Room.gathered_eq_self (returned.sound found') busy' running,
    Room.gathered_eq_self (coherent.sound found) busy playing] at gathered
  rw [found', gathered]

/-- Whoever plays in a match that runs is on turn or waits for it, as the match says. -/
theorem Coherent.status_eq (coherent : before.Coherent)
    (found : before.rooms.get? place = some room) (busy : room.game = some game)
    (playing : game.status = .playing) {member : Nat} {session : Session}
    (held : before.sessions.get? member = some session) (here : session.room = some place) :
    session.status = game.turnStatus member := by
  have suits := (coherent.member found held here).2.busy busy
  rw [suits.running playing, coherent.numbered held]

/-- However often the players of a running match are dropped and come back, and whatever else
happens meanwhile: once they are all there again, the match, its room and its players are as they
were. -/
theorem run_undisturbed (config : Config) (started : Time) (earlier later : List Event)
    (found : (run config started earlier).rooms.get? place = some room)
    (busy : room.game = some game) (playing : game.status = .playing)
    (spares : spared config place later (run config started earlier) = true)
    (back : ∀ member ∈ room.memberIds, ∃ session,
      (run config started (earlier ++ later)).sessions.get? member = some session ∧
        session.isConnected) :
    (run config started (earlier ++ later)).rooms.get? place = some room ∧
      ∀ member ∈ room.memberIds, ∃ before after,
        (run config started earlier).sessions.get? member = some before ∧
          (run config started (earlier ++ later)).sessions.get? member = some after ∧
          before.room = some place ∧ before.SamePlayer after ∧ after.status = before.status ∧
          (before.status = .onTurn ∨ before.status = .onWait) := by
  have coherent := run_coherent config started earlier
  have returned := run_coherent config started (earlier ++ later)
  have kept : (run config started earlier).Keeps place
      (run config started (earlier ++ later)) := by
    have occupied : (Transition.start (run config started earlier)).gameIn? place = some game :=
      Option.bind_eq_some_iff.2 ⟨room, found, busy⟩
    have kept := keeps_of_spared coherent occupied spares
    rwa [run_append]
  have found' := kept.room_eq coherent returned found busy playing back
  refine ⟨found', fun member present => ?_⟩
  obtain ⟨before, held, here⟩ := coherent.seated found present
  obtain ⟨after, held', same⟩ := kept.players held here
  have status := coherent.status_eq found busy playing held here
  have status' := returned.status_eq found' busy playing held' (same.room.trans here)
  refine ⟨before, after, held, held', here, same, status'.trans status.symm, ?_⟩
  rw [status, Match.turnStatus]
  split
  · exact .inl rfl
  · exact .inr rfl

/-- The second player is dropped while the first one is on turn, the first one is evicted for being
silent, and both come back on new connections. -/
theorem run_undisturbed_twice_dropped :
    let send (now : Time) (slot connection : Nat) (type : MessageType) (payload : String) : Event :=
      .frame { now, token := .nth slot, shuffle := .still } slot connection { type, payload }
    let earlier : List Event :=
      [.accept 0 0, .accept 0 1, send 1 0 0 .login "ann", send 1 1 1 .login "ben",
        send 1 0 0 .createRoom "den", send 1 1 1 .joinRoom "0", send 1 0 0 .ready "1",
        send 1 1 1 .ready "1", send 1 0 0 .start ""]
    let later : List Event :=
      [.disconnect 5 1 1, send 6 0 0 .discard "KS", .sweep (Time.seconds 11),
        .accept (Time.seconds 12) 2, send (Time.seconds 12) 2 2 .login "ben|1000000000",
        .accept (Time.seconds 13) 3, send (Time.seconds 13) 2 3 .login "ann|0000000000"]
    ∃ room game, (run {} 0 earlier).rooms.get? 0 = some room ∧ room.game = some game ∧
      game.status = .playing ∧ room.memberIds = [0, 1] ∧
      spared {} 0 later (run {} 0 earlier) = true ∧
      (run {} 0 (earlier ++ later)).rooms.get? 0 = some room ∧
      ∀ member ∈ room.memberIds, ∃ before after,
        (run {} 0 earlier).sessions.get? member = some before ∧
          (run {} 0 (earlier ++ later)).sessions.get? member = some after ∧
          before.room = some 0 ∧ before.SamePlayer after ∧ after.status = before.status ∧
          (before.status = .onTurn ∨ before.status = .onWait) := by
  intro send earlier later
  have opened : ((run {} 0 earlier).rooms.get? 0).any (fun room =>
      room.memberIds == [0, 1] && room.game.any fun game => game.status == .playing) = true := by
    decide +kernel
  have spares : spared {} 0 later (run {} 0 earlier) = true := by
    decide +kernel
  have connected : ∀ member ∈ [0, 1],
      ((run {} 0 (earlier ++ later)).sessions.get? member).any Session.isConnected = true := by
    decide +kernel
  obtain ⟨room, found, there⟩ := (Option.any_eq_true _ _).1 opened
  rw [Bool.and_eq_true, beq_iff_eq] at there
  obtain ⟨members, played⟩ := there
  obtain ⟨game, busy, playing⟩ := (Option.any_eq_true _ _).1 played
  have back : ∀ member ∈ room.memberIds, ∃ session,
      (run {} 0 (earlier ++ later)).sessions.get? member = some session ∧
        session.isConnected = true := by
    intro member present
    rw [members] at present
    exact (Option.any_eq_true _ _).1 (connected member present)
  exact ⟨room, game, found, busy, beq_iff_eq.1 playing, members, spares,
    run_undisturbed {} 0 earlier later found busy (beq_iff_eq.1 playing) spares back⟩

end Tables

end Cardroom
