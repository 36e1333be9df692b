import Cardroom.Proofs.Server.Expire
import Cardroom.Proofs.Server.Informs
import Cardroom.Proofs.Server.Sendable
import Mathlib.Data.List.Induction

/-!
# Players are shown what changes

Whatever happens to a server, each connected player of a match is shown the table by the same step
that changed it, or it is still the table that the player had. `after_informs` is this for one
event, and `run_lastShown` says what it comes to: the last frame with cards that was queued for a
player shows the match as it is now.
-/

namespace Cardroom

namespace Transition

variable {before : Tables} {state : Transition} {id connection place : Nat} {game : Match}

section

variable {slot : Nat} {session : Session}

/-- A frame that brings nobody back binds nobody to a connection. -/
theorem onLogin_kept (coherent : state.tables.Coherent)
    (held : state.sessions.get? slot = some session) (connected : session.isConnected)
    (moment : Moment) (own : Nat) (frame : Frame)
    (stays : (state.onLogin moment slot own frame).slot = slot) :
    Kept Occupant.connection state.tables.occupants
      (state.onLogin moment slot own frame).state.tables.occupants := by
  have still : Kept Occupant.connection state.tables.occupants state.tables.occupants :=
    fun _ later _ there bound => ⟨later, there, bound⟩
  unfold onLogin at stays ⊢
  split at stays
  · split at stays
    · exact still
    · unfold loginNew
      split
      · exact still
      · rw [reply_tables, modifySession_occupants_set held rfl]
        exact .set fun value has => ⟨_, Tables.getElem?_occupants held, has⟩
    · next nick token _ =>
        rcases loginAgain_cases coherent held connected moment.now own nick token with
          refused | ⟨existing, target, -, -, -, -, different, accepted⟩
        · rw [refused]
          exact still
        · rw [accepted] at stays
          exact absurd stays different
  · rw [release_occupants_set]
    exact Occupant.isOwned_connection.kept_nobody
  · exact still

theorem dispatch_kept (coherent : state.tables.Coherent)
    (held : state.sessions.get? slot = some session) (connected : session.isConnected)
    (config : Config) (moment : Moment) (own : Nat) (frame : Frame)
    (stays : (Tables.dispatch config moment slot own frame session.status state).slot = slot) :
    Kept Occupant.connection state.tables.occupants
      (Tables.dispatch config moment slot own frame session.status
        state).state.tables.occupants := by
  by_cases unknown : session.status = .disconnected
  · rw [unknown] at stays ⊢
    exact onLogin_kept coherent held connected moment own frame stays
  · have handover := dispatch_handover coherent held connected config moment own frame
    generalize (Tables.dispatch config moment slot own frame session.status
      state).state.tables.occupants = after at handover ⊢
    cases handover with
    | still =>
        exact fun _ later _ there bound => ⟨later, there, bound⟩
    | loggedIn _ _ there =>
        exact .set fun value has => ⟨_, there, has⟩
    | returned _ _ there unnamed =>
        obtain rfl := Option.some.inj ((Tables.getElem?_occupants held).symm.trans there)
        have unnamed : session.nick = none := unnamed
        cases coherent.standing held connected with
        | unknown _ stranger =>
            exact absurd stranger.status unknown
        | lobby _ lobby =>
            have named := lobby.known.named
            rw [unnamed] at named
            cases named
        | resting _ _ _ known | seated _ _ _ known =>
            have named := known.named
            rw [unnamed] at named
            cases named
    | quit =>
        exact Occupant.isOwned_connection.kept_nobody

/-- A frame of the player of a slot, on the connection that is bound to it. -/
theorem dispatch_informs {came : List Nat} {own : Nat} (coherent : before.Coherent)
    (once : ConnectedOnce came before.occupants)
    (held : before.sessions.get? slot = some session) (bound : session.connection = some own)
    (config : Config) (moment : Moment) (frame : Frame)
    (plays : (Tables.dispatch config moment slot own frame session.status
      (start before)).state.tables.Plays id connection place game) :
    Informs before (Tables.dispatch config moment slot own frame session.status
      (start before)).state.outbox (frame.type = .login ∧ connection = own) id connection place
      game := by
  have agrees : (start before).tables.Coherent := coherent
  have first : (start before).sessions.get? slot = some session := held
  have connected : session.isConnected := by
    rw [Session.isConnected, bound]
    rfl
  have noted : (start before).roomOf? slot = session.room := by
    rw [roomOf?, first]
    rfl
  have here {room : Nat} (inside : session.room = some room) :
      ∀ other, (start before).roomOf? slot = some other → other = room :=
    fun other same => Option.some.inj (same.symm.trans (noted.trans inside))
  -- What concerns the room of the player only.
  have confined (room : Nat) := coherent.start_confined (· = slot) (· = room)
  have self (room : Nat) : (before.scope (· = slot) (· = room)).people slot := .inl rfl
  have opens (room : Nat) := before.isOpen_scope (· = slot) (· = room)
  by_cases shows : Tables.MayShow frame session.status
      ((Tables.dispatch config moment slot own frame session.status (start before)).slot ≠ slot)
  · cases status : session.status with
    | disconnected =>
        rw [status] at shows plays
        obtain ⟨login, existing, target, awaits, moved, accepted⟩ :=
          onLogin_of_moved agrees shows
        simp only [Tables.dispatch, accepted] at plays ⊢
        exact (resume_informs coherent once held bound awaits.held awaits.away moved plays).imp
          fun own => ⟨login, own⟩
    | inRoom =>
        rw [status] at shows plays
        obtain ⟨room, inside, idle⟩ := coherent.resting held connected (.inl status)
        by_cases same : place = room
        · subst same
          have shows : frame.type = .start := shows
          simp only [Tables.dispatch, onRoom, findRoom_eq_self agrees, noted, inside, shows]
            at plays ⊢
          exact startForOwner_informs coherent once idle config moment.shuffle slot plays
        · exact ((confined room).onRoom agrees (self room) (here inside) (fun _ => opens room)
            config moment).informs_elsewhere coherent once held inside plays same
    | matchDone =>
        rw [status] at shows plays
        obtain ⟨room, inside, idle⟩ := coherent.resting held connected (.inr status)
        by_cases same : place = room
        · subst same
          have shows : frame.type = .playAgain := shows
          simp only [Tables.dispatch, onMatchDone, findRoom_eq_self agrees, noted, inside, shows]
            at plays ⊢
          exact playAgain_informs coherent once idle config moment.shuffle slot frame.payload plays
        · exact ((confined room).onMatchDone agrees (self room) (here inside) (fun _ => opens room)
            config moment).informs_elsewhere coherent once held inside plays same
    | onTurn =>
        rw [status] at shows plays
        obtain ⟨room, played, inside, located⟩ := coherent.matchOf? held connected status
        by_cases same : place = room
        · subst same
          have shows : frame.type.isMove = true := shows
          simp only [Tables.dispatch, onTurn, shows, if_true] at plays ⊢
          exact playMove_informs coherent once located moment.shuffle frame.type frame.payload plays
        · exact ((confined room).onTurn agrees (self room) (here inside) (fun _ => opens room)
            moment.shuffle).informs_elsewhere coherent once held inside plays same
    | connected | onWait | paused =>
        rw [status] at shows
        exact shows.elim
  · have stays : (Tables.dispatch config moment slot own frame session.status
        (start before)).slot = slot := by
      by_contra moved
      cases status : session.status with
      | disconnected =>
          rw [status] at shows moved
          exact shows moved
      | _ =>
          rw [status] at moved
          exact moved rfl
    have quiet := Tables.dispatch_confined (start_quiet before) agrees config moment frame
      session.status
      (fun other there => Option.some.inj (first.symm.trans there) ▸ connected) trivial
      (fun may => absurd may shows) (fun _ _ _ _ => trivial) (fun _ _ => trivial)
      fun _ _ => trivial
    refine quiet.informs (fun earlier busy => .inl ?_) ?_ plays
    · refine dispatch_keeps agrees busy held connected config moment own frame fun _ turn => ?_
      rw [turn] at shows
      exact Bool.eq_false_iff.2 shows
    · exact Tables.connectionOf?_of_kept
        (dispatch_kept agrees held connected config moment own frame stays) plays.connected

end

end Transition

namespace Tables

variable {tables : Tables} {id connection place : Nat} {game : Match} {came : List Nat}

theorem sweep_quiet (config : Config) (now : Time) (tables : Tables) :
    ((tables.forgotten config now).foldl (fun state id => state.expire id now)
      (tables.evicted config now)).Confined .quiet tables := by
  refine Transition.Confined.foldl (fun id _ quiet => quiet.expire trivial (fun _ _ => trivial) now)
    (Transition.Confined.foldl (fun id _ quiet => quiet.evict trivial (fun _ _ => trivial) now) ?_)
  exact (Transition.start_quiet tables).pingAll fun _ _ => trivial

/-- A room in which a match is played is closed when a sweep forgets one of its members. -/
theorem sweep_closes {config : Config} {now : Time} {slot : Nat} (coherent : tables.Coherent)
    (busy : (Transition.start tables).gameIn? place = some game)
    (listed : slot ∈ tables.forgotten config now) (sits : tables.sitsAt place slot = true) :
    (tables.sweep config now).tables.rooms.get? place = none := by
  obtain ⟨dropped, agrees⟩ := evicted_keeps coherent busy config now
  obtain ⟨room, found, member⟩ := (Option.any_eq_true _ _).1 ((dropped.sitsAt_eq slot).trans sits)
  exact Transition.foldl_expire_closes now agrees
    (.inr ⟨room, found, slot, listed, Room.isMember_iff.1 member⟩)

theorem sweep_informs (coherent : tables.Coherent) (config : Config) (now : Time) {returns : Prop}
    (plays : (tables.sweep config now).tables.Plays id connection place game) :
    Informs tables (tables.sweep config now).outbox returns id connection place game := by
  have kept :
      Kept Occupant.connection tables.occupants (tables.sweep config now).tables.occupants :=
    sweep_occupants coherent config now ▸
      Occupant.isOwned_connection.kept_sweep config now tables.sessions
  refine (sweep_quiet config now tables).informs (fun earlier busy => ?_)
    (connectionOf?_of_kept kept plays.connected) plays
  by_cases spared : ∀ slot ∈ tables.forgotten config now, tables.sitsAt place slot = false
  · exact .inl (sweep_keeps coherent busy spared)
  · simp only [not_forall, Bool.not_eq_false] at spared
    obtain ⟨slot, listed, sits⟩ := spared
    exact .inr (congrArg (Option.bind · Room.game) (sweep_closes coherent busy listed sits))

theorem accept_informs (coherent : tables.Coherent) (now : Time) (newcomer : Nat) {returns : Prop}
    (plays : (tables.accept now newcomer).2.tables.Plays id connection place game) :
    Informs tables (tables.accept now newcomer).2.outbox returns id connection place game := by
  obtain ⟨-, session, -, -, held, noted⟩ :=
    (accept_coherent coherent now newcomer).player plays.busy plays.sits
  obtain ⟨_, held', bound⟩ := connectionOf?_eq_some.1 plays.connected
  obtain rfl := Option.some.inj (held.symm.trans held')
  have busy := plays.busy
  unfold accept at held busy ⊢
  split at held
  · next slot sessions allocated =>
      simp only [allocated] at busy ⊢
      obtain ⟨_, -, -, rfl⟩ := SessionTable.allocate?_eq_some allocated
      rw [SessionTable.get?_modify] at held
      split at held
      · obtain ⟨_, -, rfl⟩ := Option.map_eq_some_iff.1 held
        cases noted
      · exact .silent rfl ⟨connectionOf?_eq_some.2 ⟨session, held, bound⟩, busy, plays.sits⟩
          (.refl game)
  · next full =>
      simp only [full] at busy ⊢
      refine .silent ?_ ⟨connectionOf?_eq_some.2 ⟨session, held, bound⟩, busy, plays.sits⟩
        (.refl game)
      show (Outbox.push newcomer .error _ {}).cardsFor connection = []
      rw [Outbox.cardsFor_push]
      simp [MessageType.showsCards, Outbox.cardsFor, Outbox.framesFor]

theorem disconnect_informs (coherent : tables.Coherent) (now : Time) (slot own : Nat)
    {returns : Prop}
    (plays : (tables.handleDisconnect now slot own).tables.Plays id connection place game) :
    Informs tables (tables.handleDisconnect now slot own).outbox returns id connection place
      game := by
  have agrees : (Transition.start tables).tables.Coherent := coherent
  have kept : Kept Occupant.connection tables.occupants
      (tables.handleDisconnect now slot own).tables.occupants := by
    have handover : Handover {} tables (.disconnect now slot own)
        (tables.handleDisconnect now slot own).tables.occupants :=
      after_handover coherent {} (.disconnect now slot own)
    generalize (tables.handleDisconnect now slot own).tables.occupants = after at handover ⊢
    cases handover with
    | still =>
        exact fun _ later _ there bound => ⟨later, there, bound⟩
    | lost held bound =>
        exact Occupant.isOwned_connection.kept_leave (getElem?_occupants held)
  have quiet : ((Transition.start tables).disconnect slot own now).Confined .quiet tables :=
    (Transition.start_quiet tables).disconnect trivial (fun _ _ => trivial) own now
  exact quiet.informs (fun earlier busy =>
    .inl (Transition.disconnect_keeps agrees busy (agrees.stage busy) slot own now))
    (connectionOf?_of_kept kept plays.connected) plays

theorem handleFrame_informs (coherent : tables.Coherent)
    (once : ConnectedOnce came tables.occupants) (config : Config) (moment : Moment)
    (slot own : Nat) (frame : Frame)
    (plays : (tables.handleFrame config moment slot own frame).step.tables.Plays id connection place
      game) :
    Informs tables (tables.handleFrame config moment slot own frame).step.outbox
      (frame.type = .login ∧ connection = own) id connection place game := by
  have still {game : Match} (plays : ((Transition.start tables).modifySession slot
      (Session.touch moment.now)).tables.Plays id connection place game) :
      tables.Plays id connection place game := by
    refine ⟨?_, plays.busy, plays.sits⟩
    rw [← connectionOf?_congr (heard_occupants moment.now slot tables)]
    exact plays.connected
  unfold handleFrame at plays ⊢
  cases held : tables.sessions.get? slot with
  | none =>
      simp only [held] at plays
      exact .silent rfl plays (.refl game)
  | some session =>
      simp only [held] at plays ⊢
      by_cases stale : session.connection ≠ some own
      · rw [if_pos stale] at plays ⊢
        exact .silent rfl plays (.refl game)
      · rw [if_neg stale] at plays ⊢
        by_cases alive : frame.type = .ping ∨ frame.type = .pong
        · rw [if_pos alive] at plays ⊢
          exact .silent rfl (still plays) (.refl game)
        · rw [if_neg alive] at plays ⊢
          have heard := Transition.dispatch_informs (heard_coherent coherent moment.now slot)
            (heard_occupants moment.now slot tables ▸ once) (get?_heard held moment.now)
            (Decidable.not_not.1 stale) config moment frame plays
          cases heard with
          | shown cards shows stage =>
              exact .shown cards shows stage
          | silent cards earlier same =>
              exact .silent cards (still earlier) same

/-- Whatever happens, a player of a match is shown it, or it looks as before. -/
theorem after_informs (coherent : tables.Coherent) (once : ConnectedOnce came tables.occupants)
    (config : Config) (event : Event)
    (plays : (tables.after config event).Plays id connection place game) :
    Informs tables (tables.queued config event) (∃ payload, event.LogsIn connection payload) id
      connection place game := by
  cases event with
  | accept now newcomer =>
      exact accept_informs coherent now newcomer plays
  | frame moment slot own frame =>
      exact (handleFrame_informs coherent once config moment slot own frame plays).imp
        fun login => ⟨frame.payload, login.2.symm, login.1, rfl⟩
  | disconnect now slot own =>
      exact disconnect_informs coherent now slot own plays
  | sweep now =>
      exact sweep_informs coherent config now plays

/-- The event that was the last one to show a player cards, after some events and before others, the
frame, and the match as it was then. -/
structure LastShown (config : Config) (started : Time) (id connection place : Nat)
    (earlier : List Event) (event : Event) (later : List Event) (frame : Frame) (shown : Match) :
    Prop where
  cards : ((run config started earlier).queued config event).cardsFor connection = [frame]
  silent : ∀ before next after, later = before ++ next :: after →
    ((run config started (earlier ++ event :: before)).queued config next).cardsFor connection = []
  plays : (run config started (earlier ++ [event])).Plays id connection place shown
  shows : frame.Shows id shown
  /-- A match that is paused is shown only to a player who returns to it. -/
  stage : shown.status = .playing ∨ ∃ payload, event.LogsIn connection payload

/-- Whatever has happened to a server since it was started, as long as no connection comes twice:
each connected player of a match has been shown it, and it looks as it did then. -/
theorem run_lastShown (config : Config) (started : Time) {events : List Event}
    (fresh : (events.filterMap Event.arrival?).Nodup)
    (plays : (run config started events).Plays id connection place game) :
    ∃ earlier event later frame shown, events = earlier ++ event :: later ∧
      LastShown config started id connection place earlier event later frame shown ∧
      shown.SameFace game := by
  -- By the last event: it has shown the match as it is, or the match looks as it did before it.
  induction events using List.reverseRecOn generalizing game with
  | nil =>
      obtain ⟨room, found, -⟩ := Option.bind_eq_some_iff.1 plays.busy
      have found : (RoomTable.vacant config.maxRooms).get? place = some room := found
      rw [RoomTable.get?_vacant] at found
      cases found
  | append_singleton events event inductionHypothesis =>
      rw [List.filterMap_append] at fresh
      have fresh := fresh.sublist (List.sublist_append_left _ _)
      have next : run config started (events ++ [event]) =
          (run config started events).after config event :=
        run_append config started events [event]
      have informs := after_informs (run_coherent config started events)
        (run_connectedOnce config started fresh) config event (next ▸ plays)
      cases informs with
      | shown cards shows stage =>
          exact ⟨events, event, [], _, game, rfl,
            ⟨cards, by simp, plays, shows, stage⟩, .refl game⟩
      | silent cards before same =>
          obtain ⟨earlier, showing, later, frame, shown, split, last, alike⟩ :=
            inductionHypothesis fresh before
          refine ⟨earlier, showing, later ++ [event], frame, shown, by rw [split]; simp,
            ⟨last.cards, ?_, last.plays, last.shows, last.stage⟩, alike.trans same⟩
          intro first next after parted
          rcases append_singleton_cases parted with ⟨-, rfl, rfl⟩ | ⟨rest, -, old⟩
          · rw [← split]
            exact cards
          · exact last.silent first next rest old

end Tables

end Cardroom
