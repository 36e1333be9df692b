import Cardroom.Proofs.Server.LifeCycle

/-!
# Keeping a name

A player who has logged in keeps the slot, the name and the token, whatever others send, and gets
another connection only by sending both. `run_identityKept` says what one event can do to a slot that
is held by a player.
-/

namespace Cardroom

namespace Session.SameButStatus

theorem refl (session : Session) : session.SameButStatus session :=
  ⟨rfl⟩

theorem trans {first second third : Session} (before : first.SameButStatus second)
    (after : second.SameButStatus third) :
    first.SameButStatus third where
  eq := by
    rw [after.eq, before.eq]

end Session.SameButStatus

/-- The sessions of some slots change in their statuses at most, and the others do not change. -/
theorem SessionTable.get?_foldl_sameButStatus {change : Session → Session}
    (same : ∀ session : Session, session.SameButStatus (change session)) {table : SessionTable}
    {id : Nat} {session : Session} (held : table.get? id = some session) (ids : List Nat) :
    ∃ later, (ids.foldl (fun table id => table.modify id change) table).get? id = some later ∧
      session.SameButStatus later ∧ (id ∉ ids → later = session) := by
  induction ids generalizing table session with
  | nil =>
      exact ⟨session, held, .refl session, fun _ => rfl⟩
  | cons first ids inductionHypothesis =>
      by_cases here : first = id
      · subst here
        have changed : (table.modify first change).get? first = some (change session) := by
          rw [get?_modify, if_pos rfl, held, Option.map_some]
        obtain ⟨later, found, alike, _⟩ := inductionHypothesis changed
        exact ⟨later, found, (same session).trans alike,
          fun absent => absurd List.mem_cons_self absent⟩
      · have still : (table.modify first change).get? id = some session := by
          rw [get?_modify, if_neg here, held]
        obtain ⟨later, found, alike, untouched⟩ := inductionHypothesis still
        exact ⟨later, found, alike,
          fun absent => untouched fun member => absent (List.mem_cons_of_mem first member)⟩

namespace Tables

/-- Only one slot has changed, and no room. -/
structure EqExceptSlot (slot : Nat) (before after : Tables) : Prop where
  rooms : after.rooms = before.rooms
  others : ∀ id, id ≠ slot → after.sessions.get? id = before.sessions.get? id

/-- A payload gives the name and the token of a player who is away. -/
structure Awaits (tables : Tables) (payload : String) (existing : Nat) (target : Session) :
    Prop where
  held : tables.sessions.get? existing = some target
  away : target.connection = none
  given : ∃ nick token, target.nick = some nick ∧ target.token = some token ∧
    payload = nick ++ "|" ++ token

/-- A player has come back. Of the others, those who play a match with this player find that
changed. -/
structure Returns (target : Session) (slot existing : Nat) (before after : Tables) : Prop where
  sessions : ∀ other session, before.sessions.get? other = some session → other ≠ slot →
    other ≠ existing → ∃ later, after.sessions.get? other = some later ∧
      session.SameButStatus later ∧
        (target.room = none ∨ session.room ≠ target.room → later = session)
  rooms : ∀ place, target.room ≠ some place → after.rooms.get? place = before.rooms.get? place

namespace EqExceptSlot

variable {before middle after : Tables} {slot : Nat}

theorem refl (slot : Nat) (tables : Tables) : tables.EqExceptSlot slot tables :=
  ⟨rfl, fun _ _ => rfl⟩

theorem trans (first : before.EqExceptSlot slot middle)
    (second : middle.EqExceptSlot slot after) :
    before.EqExceptSlot slot after :=
  ⟨second.rooms.trans first.rooms, fun id different =>
    (second.others id different).trans (first.others id different)⟩

end EqExceptSlot

end Tables

/-! ## A return, as others see it -/

theorem Match.sessions_of_gathered {game after : Match} (same : after.gathered = game.gathered) :
    after.seats.map Seat.session = game.seats.map Seat.session := by
  have seats (game : Match) :
      game.gathered.seats.map Seat.session = game.seats.map Seat.session := by
    rw [gathered, List.map_map]
    rfl
  rw [← seats after, same, seats]

namespace Transition

variable {state : Transition} {id place : Nat}

/-- Coming back to a match changes that match, and statuses of those who sit at it. -/
theorem resumeMatch_tables (id place : Nat) (game : Match) (state : Transition) :
    ∃ (ids : List Nat) (change : Session → Session) (after : Match),
      (∀ other ∈ ids, other = id ∨ other ∈ game.seats.map Seat.session) ∧
      (∀ session : Session, session.SameButStatus (change session)) ∧
      (state.resumeMatch id place game).tables =
        { sessions := ids.foldl (fun table other => table.modify other change) state.sessions
          rooms := state.rooms.modify place fun room => { room with game := some after } } := by
  have present := Match.gathered_setActive id true game
  unfold resumeMatch
  dsimp only
  generalize game.setActive id true = returned at present
  cases goesOn : (if returned.allActive then returned.resume? else none) with
  | some resumed =>
      have same : resumed.gathered = game.gathered := by
        split at goesOn
        · exact (Match.gathered_resume? goesOn).trans present
        · cases goesOn
      simp only [Option.getD_some, Option.isSome_some, if_true]
      rw [broadcast_tables, showView_tables, reply_tables]
      refine ⟨resumed.seats.map Seat.session, Session.endPause, resumed, ?_,
        Session.sameButStatus_endPause, ?_⟩
      · intro other member
        rw [← Match.sessions_of_gathered same]
        exact .inr member
      · rw [foldl_tables Seat.session fun _ => Session.endPause]
        · rfl
        · intro state seat
          rfl
  | none =>
      simp only [Option.getD_none, Option.isSome_none, Bool.false_eq_true, if_false]
      rw [showView_tables, reply_tables]
      split
      · exact ⟨[id], fun session => { session with status := .paused }, returned,
          fun other member => .inl (List.mem_singleton.1 member), fun session => ⟨rfl⟩, rfl⟩
      · exact ⟨[], fun session => session, returned, nofun, fun session => ⟨rfl⟩, rfl⟩

/-- A player comes back, and finds the match again that the player left. -/
theorem resume_returns {existing slot : Nat} {target : Session} (coherent : state.tables.Coherent)
    (there : state.sessions.get? existing = some target) (moved : existing ≠ slot) (now : Time)
    (connection : Nat) :
    state.tables.Returns target slot existing
      ((state.handOver now slot existing connection).resume existing).tables := by
  have still {other : Nat} {session : Session} (held : state.sessions.get? other = some session)
      (stranger : other ≠ slot) (different : other ≠ existing) :=
    get?_handOver_of_ne held stranger different now connection
  have bound := get?_handOver_self there moved now connection
  have noted : (state.handOver now slot existing connection).roomOf? existing = target.room := by
    rw [roomOf?, bound]
    rfl
  have rooms : (state.handOver now slot existing connection).rooms = state.rooms := rfl
  generalize state.handOver now slot existing connection = back at still bound noted rooms
  cases located : back.matchOf? existing with
  | none =>
      have same : (back.resume existing).tables =
          (back.modifySession existing Session.comeBack).tables := by
        simp only [resume, located, resumeOutside, bound, reply_tables]
      rw [same]
      refine ⟨?_, fun place _ => congrArg _ rooms⟩
      intro other session held stranger different
      refine ⟨session, ?_, .refl session, fun _ => rfl⟩
      exact (SessionTable.get?_modify existing other _ _).trans
        ((if_neg (Ne.symm different)).trans (still held stranger different))
  | some seated =>
      obtain ⟨place, game⟩ := seated
      obtain ⟨returned, room, there, here, found, played⟩ := matchOf?_eq_some located
      have seat : target.room = some place := by
        rw [← noted, roomOf?, there]
        exact here
      rw [rooms] at found
      obtain ⟨ids, change, after, listed, alike, tables⟩ :=
        resumeMatch_tables existing place game back
      have resumed : back.resume existing = back.resumeMatch existing place game := by
        simp only [resume, located]
      rw [resumed, tables]
      refine ⟨?_, ?_⟩
      · intro other session held stranger different
        obtain ⟨later, reached, status, untouched⟩ :=
          SessionTable.get?_foldl_sameButStatus alike (still held stranger different) ids
        refine ⟨later, reached, status, fun apart => untouched fun member => ?_⟩
        -- Whoever plays in the match is a member of its room.
        rcases listed other member with equal | plays
        · exact different equal
        · have sits : other ∈ room.memberIds :=
            (coherent.sound found).sessions played ▸ plays
          obtain ⟨same, there, inside⟩ := coherent.seated found sits
          obtain rfl : session = same := Option.some.inj (held.symm.trans there)
          rcases apart with nowhere | apart
          · rw [nowhere] at seat
            cases seat
          · exact apart (inside.trans seat.symm)
      · intro elsewhere away
        have apart : elsewhere ≠ place := by
          rintro rfl
          exact away seat
        rw [rooms]
        exact RoomTable.eqExcept_modify place _ _ elsewhere apart

end Transition

namespace Transition

variable {state : Transition} {slot : Nat} {session : Session}

theorem modifySession_eqExceptSlot (slot : Nat) (change : Session → Session) (state : Transition) :
    state.tables.EqExceptSlot slot (state.modifySession slot change).tables where
  rooms := rfl
  others id different :=
    (SessionTable.get?_modify slot id change state.sessions).trans (if_neg (Ne.symm different))

/-- A login concerns the slot of its sender, unless a player comes back. -/
theorem onLogin_login (coherent : state.tables.Coherent)
    (held : state.sessions.get? slot = some session) (connected : session.isConnected)
    (moment : Moment) (connection : Nat) {frame : Frame} (login : frame.type = .login) :
    let after := (state.onLogin moment slot connection frame).state.tables
    state.tables.EqExceptSlot slot after ∨
      ∃ existing target, existing ≠ slot ∧ state.tables.Awaits frame.payload existing target ∧
        state.tables.Returns target slot existing after := by
  simp only [onLogin, login]
  split
  · exact .inl (.refl slot _)
  · unfold loginNew
    split
    · exact .inl (.refl slot _)
    · exact .inl (modifySession_eqExceptSlot slot _ state)
  · next nick token request =>
      rcases loginAgain_cases coherent held connected moment.now connection nick token with
        refused | ⟨existing, target, there, away, named, agrees, different, accepted⟩
      · exact .inl (refused ▸ .refl slot _)
      · have given := (LoginRequest.ofPayload_eq_reconnect.1 request).1
        refine .inr ⟨existing, target, different,
          ⟨there, away, nick, token, named, agrees, given⟩, ?_⟩
        rw [accepted]
        exact resume_returns coherent there different moment.now connection

theorem dispatch_login (coherent : state.tables.Coherent)
    (held : state.sessions.get? slot = some session) (connected : session.isConnected)
    (config : Config) (moment : Moment) (connection : Nat) {frame : Frame}
    (login : frame.type = .login) :
    let after :=
      (Tables.dispatch config moment slot connection frame session.status state).state.tables
    state.tables.EqExceptSlot slot after ∨
      ∃ existing target, existing ≠ slot ∧ state.tables.Awaits frame.payload existing target ∧
        state.tables.Returns target slot existing after := by
  cases status : session.status with
  | disconnected =>
      exact onLogin_login coherent held connected moment connection login
  | connected =>
      refine .inl ?_
      simp only [Tables.dispatch, onLobby, login]
      exact modifySession_eqExceptSlot slot _ state
  | inRoom =>
      refine .inl ?_
      simp only [Tables.dispatch, onRoom, findRoom_eq_self coherent, login]
      split
      · exact modifySession_eqExceptSlot slot _ state
      · exact .refl slot _
  | onTurn =>
      have still : frame.type.isMove = false := by
        rw [login]
        rfl
      refine .inl ?_
      simp only [Tables.dispatch, onTurn, still]
      exact .refl slot _
  | onWait =>
      exact .inl ((state.onWait_tables slot frame).symm ▸ .refl slot _)
  | paused =>
      exact .inl ((state.onPaused_tables slot frame).symm ▸ .refl slot _)
  | matchDone =>
      refine .inl ?_
      simp only [Tables.dispatch, onMatchDone, findRoom_eq_self coherent, login]
      split
      · exact modifySession_eqExceptSlot slot _ state
      · exact .refl slot _

end Transition

/-! ## One event -/

namespace Tables

def Event.LogsIn (connection : Nat) (payload : String) : Event → Prop
  | .frame _ _ sender sent =>
      sender = connection ∧ sent.type = .login ∧ sent.payload = payload
  | _ => False

/-- The player of a slot quits, on the own connection and outside a running match. -/
def Event.IsQuitOf (slot : Nat) (session : Session) : Event → Prop
  | .frame _ place connection sent =>
      place = slot ∧ session.connection = some connection ∧ sent.type = .quit ∧
        (session.status = .connected ∨ session.status = .inRoom ∨ session.status = .matchDone)
  | _ => False

def Event.GivesUp (config : Config) (session : Session) : Event → Prop
  | .sweep now => session.graceExpired config.reconnectTimeout now
  | _ => False

/-- Who holds the slot of a player with the given name and token after an event. -/
structure HolderKept (config : Config) (event : Event) (slot : Nat) (nick token : String)
    (session : Session) (holder : Occupant) : Prop where
  player : holder.nick = some nick ∧ holder.token = some token ∨
    event.IsQuitOf slot session ∨ event.GivesUp config session
  connection : holder.connection = session.connection ∨ holder.connection = none ∨
    session.connection = none ∧ ∃ connection, holder.connection = some connection ∧
      event.LogsIn connection (nick ++ "|" ++ token)

/-- What an event leaves of the session of a player with the given name and token. -/
structure IdentityKept (config : Config) (before : Tables) (event : Event) (slot : Nat)
    (nick token : String) (session later : Session) : Prop where
  holder : HolderKept config event slot nick token session later.occupant
  /-- Nobody else gets anywhere with the name alone, with a wrong token, or while the player is
  there. -/
  guarded : ∀ connection payload, event.LogsIn connection payload →
    session.connection ≠ some connection →
      (payload = nick ∨ ∃ secret, payload = nick ++ "|" ++ secret ∧
        (secret ≠ token ∨ session.isConnected)) →
        later = session ∧ (before.after config event).rooms = before.rooms
  /-- Nor does anything change when others log in, unless one of them comes back. -/
  bystander : ∀ connection payload, event.LogsIn connection payload →
    session.connection ≠ some connection →
      (∀ existing target, ¬ before.Awaits payload existing target) →
        later = session ∧ (before.after config event).rooms = before.rooms
  /-- Whoever comes back changes the room the player left, and the statuses in it. -/
  returned : ∀ connection payload existing target, event.LogsIn connection payload →
    session.connection ≠ some connection → before.Awaits payload existing target →
      payload ≠ nick ++ "|" ++ token →
        session.SameButStatus later ∧
          (target.room = none ∨ session.room ≠ target.room → later = session) ∧
            ∀ place, target.room ≠ some place →
              (before.after config event).rooms.get? place = before.rooms.get? place

variable {tables : Tables} {config : Config} {event : Event} {id : Nat} {session : Session}
  {nick token : String}

/-- A login changes nothing for those who did not send it, unless a player comes back. -/
theorem after_login (config : Config) (coherent : tables.Coherent) {connection : Nat} {payload : String}
    (login : event.LogsIn connection payload) (held : tables.sessions.get? id = some session)
    (stranger : session.connection ≠ some connection) :
    (tables.after config event).sessions.get? id = some session ∧
        (tables.after config event).rooms = tables.rooms ∨
      ∃ slot existing target, id ≠ slot ∧ tables.Awaits payload existing target ∧
        tables.Returns target slot existing (tables.after config event) := by
  cases event with
  | frame moment slot sender frame =>
      obtain ⟨rfl, type, rfl⟩ := login
      have unchanged : tables.sessions.get? id = some session ∧ tables.rooms = tables.rooms :=
        ⟨held, rfl⟩
      unfold after handleFrame
      dsimp only
      split
      · exact .inl unchanged
      · next sending there =>
          split
          · exact .inl unchanged
          · next bound =>
              have bound : sending.connection = some sender := Decidable.not_not.1 bound
              have connected : sending.isConnected := by
                rw [Session.isConnected, bound]
                rfl
              have different : id ≠ slot := by
                rintro rfl
                obtain rfl : session = sending := Option.some.inj (held.symm.trans there)
                exact stranger bound
              have heard := Transition.modifySession_eqExceptSlot slot (Session.touch moment.now)
                (Transition.start tables)
              rw [if_neg (by simp [type])]
              rcases Transition.dispatch_login (heard_coherent coherent moment.now slot)
                (get?_heard there moment.now) connected config moment sender type with
                same | ⟨existing, target, apart, awaits, returns⟩
              · have whole := heard.trans same
                exact .inl ⟨(whole.others id different).trans held, whole.rooms⟩
              · refine .inr ⟨slot, existing, target, different, ?_, ?_, returns.rooms⟩
                · exact ⟨(heard.others existing apart).symm.trans awaits.held, awaits.away,
                    awaits.given⟩
                · intro other session there stranger
                  exact returns.sessions other session
                    ((heard.others other stranger).trans there) stranger
  | accept | disconnect | sweep =>
      cases login

theorem Handover.holderKept {after : List Occupant}
    (handover : tables.Handover config event after) (coherent : tables.Coherent)
    (held : tables.sessions.get? id = some session) (named : session.nick = some nick)
    (tokened : session.token = some token) :
    ∃ holder, after[id]? = some holder ∧
      HolderKept config event id nick token session holder := by
  have same : HolderKept config event id nick token session session.occupant :=
    ⟨.inl ⟨named, tokened⟩, .inl rfl⟩
  have left (now : Time) : HolderKept config event id nick token session
      (session.occupant.leave now) := by
    have stays : session.occupant.nick.isSome := by simp [Session.occupant, named]
    rw [Occupant.leave, if_pos stays]
    exact ⟨.inl ⟨named, tokened⟩, .inr (.inl rfl)⟩
  -- What happens to a slot that nobody has logged in to does not concern the player's.
  have elsewhere {slot : Nat} {occupant other : Occupant}
      (there : tables.occupants[slot]? = some occupant) (unnamed : occupant.nick = none) :
      (tables.occupants.set slot other)[id]? = some session.occupant := by
    have different : slot ≠ id := by
      rintro rfl
      rw [getElem?_occupants held] at there
      cases there
      rw [show session.nick = none from unnamed] at named
      cases named
    rw [List.getElem?_set_ne different]
    exact getElem?_occupants held
  cases handover with
  | still =>
      exact ⟨_, getElem?_occupants held, same⟩
  | accepted there free =>
      simp only [Session.isFree, Bool.and_eq_true, Option.isNone_iff_eq_none] at free
      exact ⟨_, elsewhere (getElem?_occupants there) free.2, same⟩
  | @heard moment slot connection frame other after there bound handover =>
      cases handover with
      | still =>
          exact ⟨_, getElem?_occupants held, same⟩
      | loggedIn _ _ bare unnamed =>
          exact ⟨_, elsewhere bare unnamed, same⟩
      | @returned existing _ target _ _ login request bare unnamed found away known agrees =>
          by_cases here : existing = id
          · subst here
            have inside := (List.getElem?_eq_some_iff.1 (getElem?_occupants held)).1
            rw [getElem?_occupants held] at found
            cases found
            cases named.symm.trans known
            cases tokened.symm.trans agrees
            refine ⟨_, List.getElem?_set_self (by rwa [List.length_set]), .inl ⟨named, tokened⟩,
              .inr (.inr ⟨away, connection, rfl, rfl, login, ?_⟩)⟩
            exact (LoginRequest.ofPayload_eq_reconnect.1 request).1
          · exact ⟨_, (List.getElem?_set_ne here).trans (elsewhere bare unnamed), same⟩
      | quit quit calm =>
          by_cases here : slot = id
          · subst here
            obtain rfl : session = other := Option.some.inj (held.symm.trans there)
            have inside := (List.getElem?_eq_some_iff.1 (getElem?_occupants held)).1
            have connected : session.isConnected := by
              rw [Session.isConnected, bound]
              rfl
            have status := coherent.status_of_not_inMatch held connected
              (Option.isSome_iff_exists.2 ⟨nick, named⟩) calm
            exact ⟨_, List.getElem?_set_self inside,
              .inr (.inl ⟨rfl, bound, quit, status⟩), .inr (.inl rfl)⟩
          · exact ⟨_, (List.getElem?_set_ne here).trans (getElem?_occupants held), same⟩
  | @lost now slot connection other there bound =>
      by_cases here : slot = id
      · subst here
        obtain rfl : session = other := Option.some.inj (held.symm.trans there)
        have inside := (List.getElem?_eq_some_iff.1 (getElem?_occupants held)).1
        exact ⟨_, List.getElem?_set_self inside, left now⟩
      · exact ⟨_, (List.getElem?_set_ne here).trans (getElem?_occupants held), same⟩
  | @swept now =>
      refine ⟨session.afterSweep config now, ?_, ?_⟩
      · rw [List.getElem?_map]
        exact congrArg _ held
      · unfold Session.afterSweep
        split
        · exact left now
        · split
          · next late =>
              exact ⟨.inr (.inr late), .inr (.inl rfl)⟩
          · exact same

/-- A payload that is awaited is cut into the name and the token. -/
theorem Awaits.cut {payload : String} {existing : Nat} {target : Session}
    (awaits : tables.Awaits payload existing target) (known : KnownOnce tables.occupants) :
    ∃ nick token, target.nick = some nick ∧ target.token = some token ∧
      Text.cut? payload = some (nick, token) := by
  obtain ⟨nick, token, named, tokened, given⟩ := awaits.given
  have seat := getElem?_occupants awaits.held
  exact ⟨nick, token, named, tokened,
    Text.cut?_eq_some.2 ⟨given, (known.name seat named).plain⟩⟩

/-- Only one slot awaits a name. -/
theorem Awaits.eq_of_nick {payload secret : String} {existing : Nat} {target : Session}
    (awaits : tables.Awaits payload existing target) (known : KnownOnce tables.occupants)
    (held : tables.sessions.get? id = some session) (named : session.nick = some nick)
    (cut : Text.cut? payload = some (nick, secret)) :
    existing = id ∧ target = session ∧ session.token = some secret := by
  obtain ⟨name, token, called, tokened, parts⟩ := awaits.cut known
  cases cut.symm.trans parts
  obtain rfl : existing = id :=
    known.distinct _ _ _ _ nick (getElem?_occupants awaits.held) (getElem?_occupants held) called
      named
  obtain rfl : target = session := Option.some.inj (awaits.held.symm.trans held)
  exact ⟨rfl, rfl, tokened⟩

/-! ## At all times -/

/-- Whatever has happened to a server, and whatever happens next: a player who has logged in keeps
the slot, the name and the token, and nobody gets hold of them who does not give both. -/
theorem run_identityKept (config : Config) (started : Time) (events : List Event) (event : Event)
    {slot : Nat} {session : Session} {nick token : String}
    (held : (run config started events).sessions.get? slot = some session)
    (named : session.nick = some nick) (tokened : session.token = some token) :
    ∃ later, ((run config started events).after config event).sessions.get? slot = some later ∧
      IdentityKept config (run config started events) event slot nick token session later := by
  have coherent := run_coherent config started events
  have known := run_knownOnce config started events
  generalize run config started events = before at held coherent known
  obtain ⟨holder, there, kept⟩ :=
    (after_handover coherent config event).holderKept coherent held named tokened
  obtain ⟨later, found, rfl⟩ := exists_session there
  have plain := (known.name (getElem?_occupants held) named).plain
  have bystander : ∀ connection payload, event.LogsIn connection payload →
      session.connection ≠ some connection →
        (∀ existing target, ¬ before.Awaits payload existing target) →
          later = session ∧ (before.after config event).rooms = before.rooms := by
    intro connection payload login stranger nobody
    rcases after_login config coherent login held stranger with
      ⟨same, rooms⟩ | ⟨_, existing, target, _, awaits, _⟩
    · exact ⟨Option.some.inj (found.symm.trans same), rooms⟩
    · exact absurd awaits (nobody existing target)
  refine ⟨later, found, kept, ?_, bystander, ?_⟩
  · intro connection payload login stranger wrong
    refine bystander connection payload login stranger fun existing target awaits => ?_
    rcases wrong with rfl | ⟨secret, rfl, wrong⟩
    · obtain ⟨_, _, _, _, parts⟩ := awaits.cut known
      rw [Text.cut?_eq_none.2 plain] at parts
      cases parts
    · obtain ⟨_, rfl, right⟩ :=
        awaits.eq_of_nick known held named (Text.cut?_eq_some.2 ⟨rfl, plain⟩)
      rcases wrong with other | connected
      · exact other (Option.some.inj (right.symm.trans tokened))
      · rw [Session.isConnected, awaits.away] at connected
        cases connected
  · intro connection payload existing target login stranger awaits different
    rcases after_login config coherent login held stranger with
      ⟨same, rooms⟩ | ⟨sender, other, returning, apart, awaits', returns⟩
    · obtain rfl := Option.some.inj (found.symm.trans same)
      exact ⟨.refl _, fun _ => rfl, fun place _ => by rw [rooms]⟩
    · obtain ⟨name, secret, called, agrees, parts⟩ := awaits.cut known
      obtain ⟨rfl, rfl, _⟩ := awaits'.eq_of_nick known awaits.held called parts
      have elsewhere : slot ≠ other := by
        rintro rfl
        obtain rfl : session = returning := Option.some.inj (held.symm.trans awaits.held)
        cases named.symm.trans called
        cases tokened.symm.trans agrees
        exact different (Text.cut?_eq_some.1 parts).1
      obtain ⟨after, there, alike, untouched⟩ :=
        returns.sessions slot session held apart elsewhere
      obtain rfl := Option.some.inj (found.symm.trans there)
      exact ⟨alike, untouched, returns.rooms⟩

/-- A player has been dropped, and a stranger tries another token. -/
theorem identityKept_of_wrong_token :
    let send (now : Time) (slot : Nat) (type : MessageType) (payload : String) : Event :=
      .frame { now, token := .nth slot, shuffle := .still } slot slot { type, payload }
    let events : List Event :=
      [.accept 0 0, .accept 0 1, send 1 0 .login "ann", .disconnect 5 0 0]
    let event := send 6 1 .login "ann|1000000000"
    ∃ session, (run {} 0 events).sessions.get? 0 = some session ∧ session.nick = some "ann" ∧
      session.token = some "0000000000" ∧ session.connection = none ∧
        ∃ later, ((run {} 0 events).after {} event).sessions.get? 0 = some later ∧
          IdentityKept {} (run {} 0 events) event 0 "ann" "0000000000" session later := by
  intro send events event
  have away : ((run {} 0 events).sessions.get? 0).any (fun session =>
      session.nick == some "ann" && (session.token == some "0000000000" &&
        session.connection == none)) = true := by
    decide +kernel
  obtain ⟨session, held, known⟩ := (Option.any_eq_true _ _).1 away
  simp only [Bool.and_eq_true, beq_iff_eq] at known
  obtain ⟨named, tokened, unbound⟩ := known
  exact ⟨session, held, named, tokened, unbound,
    run_identityKept {} 0 events event held named tokened⟩

/-- A login on another connection can change the session and the room of a player who is there: two
players play a match, one of them is dropped, and comes back. The other is on turn again, and
the match goes on. -/
theorem login_of_opponent_resumes :
    let send (now : Time) (slot : Nat) (type : MessageType) (payload : String) : Event :=
      .frame { now, token := .nth slot, shuffle := .still } slot slot { type, payload }
    let events : List Event :=
      [.accept 0 0, .accept 0 1, send 1 0 .login "ann", send 1 1 .login "ben",
        send 1 0 .createRoom "den", send 1 1 .joinRoom "0", send 1 0 .ready "1",
        send 1 1 .ready "1", send 1 0 .start "", .disconnect 5 1 1, .accept 6 2]
    let before := run {} 0 events
    let after := before.after {} (send 6 2 .login "ben|1000000000")
    (∃ session later, before.sessions.get? 0 = some session ∧
      after.sessions.get? 0 = some later ∧ session.nick = some "ann" ∧
      session.token = some "0000000000" ∧ session.connection = some 0 ∧
      session.status = .paused ∧ later.status = .onTurn) ∧
    (∃ room later, before.rooms.get? 0 = some room ∧ after.rooms.get? 0 = some later ∧
      room.game.map Match.status = some .paused ∧ later.game.map Match.status = some .playing) := by
  intro send events before after
  have sessions : (before.sessions.get? 0).any (fun session =>
      (after.sessions.get? 0).any fun later =>
        session.nick == some "ann" && (session.token == some "0000000000" &&
          (session.connection == some 0 && (session.status == .paused &&
            later.status == .onTurn)))) = true := by
    decide +kernel
  have rooms : (before.rooms.get? 0).any (fun room => (after.rooms.get? 0).any fun later =>
      room.game.map Match.status == some .paused &&
        later.game.map Match.status == some .playing) = true := by
    decide +kernel
  simp only [Option.any_eq_true, Bool.and_eq_true, beq_iff_eq] at sessions rooms
  obtain ⟨session, held, later, held', named, tokened, bound, paused, resumed⟩ := sessions
  obtain ⟨room, found, changed, found', waiting, playing⟩ := rooms
  exact ⟨⟨session, later, held, held', named, tokened, bound, paused, resumed⟩,
    ⟨room, changed, found, found', waiting, playing⟩⟩

end Tables

end Cardroom
