import Cardroom.Proofs.Server.Interruption
import Cardroom.Proofs.Server.Occupants

/-!
# How the holders of slots change

`Handover` lists all that an event can do to the holders of the slots: a connection is given a free
slot, somebody logs in, comes back, quits or is lost, or a sweep gives up connections and players.
`after_handover` says that there is nothing else.
-/

namespace Cardroom

namespace Session

def afterSweep (config : Config) (now : Time) (session : Session) : Occupant :=
  if session.isTimedOut config.heartbeatTimeout now then session.occupant.leave now
  else if session.graceExpired config.reconnectTimeout now then .nobody
  else session.occupant

end Session

namespace Occupant

def isOverdue (timeout now : Time) (occupant : Occupant) : Bool :=
  !occupant.connection.isSome && occupant.nick.isSome &&
    match occupant.awaySince with
    | some moment => timeout < Time.since moment now
    | none => false

def lose (now : Time) (occupant : Occupant) : Occupant :=
  if occupant.connection.isSome then occupant.leave now else occupant

/-- Nobody is overdue at the moment of leaving. -/
theorem isOverdue_leave (timeout now : Time) (occupant : Occupant) :
    (occupant.leave now).isOverdue timeout now = false := by
  unfold leave
  split
  · simp [isOverdue, Time.since]
  · rfl

end Occupant

theorem Session.isOverdue_occupant (timeout now : Time) (session : Session) :
    session.occupant.isOverdue timeout now = session.graceExpired timeout now :=
  rfl

namespace SessionTable

variable {table : SessionTable}

/-- The slots whose sessions are of some kind. -/
theorem mem_ids_filter (numbered : ∀ {id session}, table.get? id = some session → session.id = id)
    (kind : Session → Bool) (id : Nat) :
    id ∈ (table.slots.filter kind).map Session.id ↔
      ∃ session, table.get? id = some session ∧ kind session := by
  rw [List.mem_map]
  constructor
  · rintro ⟨session, member, same⟩
    obtain ⟨present, ofKind⟩ := List.mem_filter.1 member
    obtain ⟨place, held⟩ := List.mem_iff_getElem?.1 present
    have here := numbered held
    rw [same] at here
    exact ⟨session, here ▸ held, ofKind⟩
  · rintro ⟨session, held, ofKind⟩
    exact ⟨session, List.mem_filter.2 ⟨List.mem_of_getElem? held, ofKind⟩, numbered held⟩

theorem nodup_ids_filter
    (numbered : ∀ {id session}, table.get? id = some session → session.id = id)
    (kind : Session → Bool) :
    ((table.slots.filter kind).map Session.id).Nodup := by
  have all : table.slots.map Session.id = List.range table.slots.length := by
    apply List.ext_getElem?
    intro id
    rw [List.getElem?_map]
    cases held : table.slots[id]? with
    | none =>
        rw [List.getElem?_eq_none]
        · rfl
        · rw [List.length_range]
          exact List.getElem?_eq_none_iff.1 held
    | some session =>
        obtain ⟨bound, _⟩ := List.getElem?_eq_some_iff.1 held
        rw [List.getElem?_range bound, Option.map_some, numbered held]
  have distinct : (table.slots.map Session.id).Nodup := by
    rw [all]
    exact List.nodup_range
  exact distinct.sublist (List.filter_sublist.map Session.id)

end SessionTable

/-- Of all who are connected, only those have this status who have not logged in. -/
theorem Tables.Coherent.nick_eq_none {tables : Tables} {id : Nat} {session : Session}
    (coherent : tables.Coherent) (held : tables.sessions.get? id = some session)
    (connected : session.isConnected) (status : session.status = .disconnected) :
    session.nick = none := by
  cases coherent.standing held connected with
  | unknown _ unknown =>
      exact unknown.named
  | lobby _ _ lobby =>
      rw [status] at lobby
      cases lobby
  | @resting _ room _ _ _ _ resting =>
      rw [status, Room.idleStatus] at resting
      split at resting <;> cases resting
  | seated _ _ _ _ playing =>
      rw [status] at playing
      cases playing

/-- Whoever has logged in and plays no running match is in one of three places. -/
theorem Tables.Coherent.status_of_not_inMatch {tables : Tables} {id : Nat} {session : Session}
    (coherent : tables.Coherent) (held : tables.sessions.get? id = some session)
    (connected : session.isConnected) (named : session.nick.isSome)
    (calm : session.status.inMatch = false) :
    session.status = .connected ∨ session.status = .inRoom ∨ session.status = .matchDone := by
  cases status : session.status with
  | disconnected =>
      rw [coherent.nick_eq_none held connected status] at named
      cases named
  | onTurn | onWait | paused =>
      rw [status] at calm
      cases calm
  | connected | inRoom | matchDone =>
      simp

namespace SessionTable

variable {table : SessionTable} {nick : String}

theorem findByNick?_eq_none (unknown : table.findByNick? nick = none) :
    ∀ occupant ∈ table.occupants, occupant.nick ≠ some nick := by
  intro occupant member same
  obtain ⟨session, present, rfl⟩ := List.mem_map.1 member
  have absent := List.find?_eq_none.1 (Option.map_eq_none_iff.1 unknown) session present
  exact absent (beq_iff_eq.2 same)

theorem findByNick?_eq_some {existing : Nat} (known : table.findByNick? nick = some existing)
    (numbered : ∀ {id session}, table.get? id = some session → session.id = id) :
    ∃ session, table.get? existing = some session ∧ session.nick = some nick := by
  obtain ⟨session, found, same⟩ := Option.map_eq_some_iff.1 known
  obtain ⟨place, held⟩ := List.mem_iff_getElem?.1 (List.mem_of_find?_eq_some found)
  have here := numbered held
  rw [same] at here
  have named := List.find?_some found
  exact ⟨session, here ▸ held, beq_iff_eq.1 named⟩

end SessionTable

/-- What a frame does to the holders of the slots, by the status of the player who sent it. -/
inductive FrameHandover (before : List Occupant) (moment : Moment) (slot connection : Nat)
    (frame : Frame) (status : Session.Status) : List Occupant → Prop
  | still : FrameHandover before moment slot connection frame status before
  | loggedIn {occupant : Occupant} {nick : String} :
      frame.type = .login → LoginRequest.ofPayload frame.payload = .ok (.new nick) →
      before[slot]? = some occupant → occupant.nick = none →
      (∀ other ∈ before, other.nick ≠ some nick) →
      FrameHandover before moment slot connection frame status
        (before.set slot (occupant.logIn nick moment.token.text))
  | returned {existing : Nat} {occupant target : Occupant} {nick token : String} :
      frame.type = .login → LoginRequest.ofPayload frame.payload = .ok (.reconnect nick token) →
      before[slot]? = some occupant → occupant.nick = none →
      before[existing]? = some target → target.connection = none →
      target.nick = some nick → target.token = some token →
      FrameHandover before moment slot connection frame status
        ((before.set slot .nobody).set existing (target.comeBack connection))
  | quit :
      frame.type = .quit → status.inMatch = false →
      FrameHandover before moment slot connection frame status (before.set slot .nobody)

namespace Transition

variable {state : Transition} {id slot : Nat} {session : Session}

theorem modifySession_occupants_set {occupant : Occupant} {change : Session → Session}
    (held : state.sessions.get? id = some session)
    (becomes : (change session).occupant = occupant) :
    (state.modifySession id change).tables.occupants =
      state.tables.occupants.set id occupant := by
  rw [List.set_eq_modify]
  refine SessionTable.occupants_modify fun other there => ?_
  obtain rfl : session = other := Option.some.inj (held.symm.trans there)
  exact becomes

theorem release_occupants_set (id : Nat) (now : Time) (state : Transition) :
    (state.release id now).tables.occupants = state.tables.occupants.set id .nobody := by
  rw [release_occupants, List.set_eq_modify]

theorem loginNew_handover (held : state.sessions.get? slot = some session)
    (unnamed : session.nick = none) (moment : Moment) (connection : Nat) {frame : Frame}
    {nick : String} (login : frame.type = .login)
    (request : LoginRequest.ofPayload frame.payload = .ok (.new nick)) (status : Session.Status) :
    FrameHandover state.tables.occupants moment slot connection frame status
      (state.loginNew moment slot nick).state.tables.occupants := by
  unfold loginNew
  split
  · exact .still
  · next unknown =>
      have fresh := SessionTable.findByNick?_eq_none (by simpa using unknown)
      dsimp only
      rw [reply_tables, modifySession_occupants_set held rfl]
      exact .loggedIn login request (Tables.getElem?_occupants held) unnamed fresh

def handOver (now : Time) (slot existing connection : Nat) (state : Transition) : Transition :=
  ((state.release slot now).modifySession existing (Session.rebind connection now)).reply existing
    .reconnected "Reconnected"

section

variable {existing : Nat} {target : Session}

theorem get?_release_of_ne (there : state.sessions.get? existing = some target)
    (different : existing ≠ slot) (now : Time) :
    (state.release slot now).sessions.get? existing = some target :=
  (SessionTable.get?_modify slot existing _ _).trans ((if_neg (Ne.symm different)).trans there)

theorem get?_handOver_self (there : state.sessions.get? existing = some target)
    (different : existing ≠ slot) (now : Time) (connection : Nat) :
    (state.handOver now slot existing connection).sessions.get? existing =
      some (target.rebind connection now) :=
  (SessionTable.get?_modify existing existing _ _).trans
    ((if_pos rfl).trans (congrArg _ (get?_release_of_ne there different now)))

theorem get?_handOver_of_ne {other : Nat} {session : Session}
    (held : state.sessions.get? other = some session) (stranger : other ≠ slot)
    (different : other ≠ existing) (now : Time) (connection : Nat) :
    (state.handOver now slot existing connection).sessions.get? other = some session :=
  (SessionTable.get?_modify existing other _ _).trans
    ((if_neg (Ne.symm different)).trans (get?_release_of_ne held stranger now))

theorem handOver_occupants (there : state.sessions.get? existing = some target)
    (different : existing ≠ slot) (now : Time) (connection : Nat) :
    (state.handOver now slot existing connection).tables.occupants =
      (state.tables.occupants.set slot .nobody).set existing
        (target.occupant.comeBack connection) := by
  rw [handOver, reply_tables,
    modifySession_occupants_set (get?_release_of_ne there different now) rfl, release_occupants_set]
  rfl

end

theorem loginAgain_eq {existing : Nat} {target : Session} {nick token : String}
    (known : state.sessions.findByNick? nick = some existing)
    (there : state.sessions.get? existing = some target) (away : target.connection = none)
    (agrees : target.token = some token) (different : existing ≠ slot) (now : Time)
    (connection : Nat) :
    state.loginAgain now slot connection nick token =
      { flow := .proceed, slot := existing,
        state := (state.handOver now slot existing connection).resume existing } := by
  have gone : ¬ target.isConnected := by simp [Session.isConnected, away]
  simp only [loginAgain, known, there]
  rw [if_neg gone, if_neg (not_not_intro agrees), if_neg different]
  rfl

/-- A player who was dropped is given the connection back, or nothing happens. -/
theorem loginAgain_cases (coherent : state.tables.Coherent)
    (held : state.sessions.get? slot = some session) (connected : session.isConnected)
    (now : Time) (connection : Nat) (nick token : String) :
    (state.loginAgain now slot connection nick token).state.tables = state.tables ∨
    ∃ existing target, state.sessions.get? existing = some target ∧ target.connection = none ∧
      target.nick = some nick ∧ target.token = some token ∧ existing ≠ slot ∧
      state.loginAgain now slot connection nick token =
        { flow := .proceed, slot := existing,
          state := (state.handOver now slot existing connection).resume existing } := by
  cases known : state.sessions.findByNick? nick with
  | none =>
      simp only [loginAgain, known]
      exact .inl rfl
  | some existing =>
      obtain ⟨target, there, named⟩ :=
        SessionTable.findByNick?_eq_some known coherent.numbered
      cases away : target.connection with
      | some other =>
          have present : target.isConnected := by simp [Session.isConnected, away]
          simp only [loginAgain, known, there, if_pos present]
          exact .inl rfl
      | none =>
          have different : existing ≠ slot := by
            rintro rfl
            obtain rfl : session = target := Option.some.inj (held.symm.trans there)
            simp [Session.isConnected, away] at connected
          by_cases agrees : target.token = some token
          · exact .inr ⟨existing, target, there, away, named, agrees, different,
              loginAgain_eq known there away agrees different now connection⟩
          · have gone : ¬ target.isConnected := by simp [Session.isConnected, away]
            simp only [loginAgain, known, there, if_neg gone, ne_eq, agrees, not_false_iff,
              if_true]
            exact .inl rfl

theorem loginAgain_handover (coherent : state.tables.Coherent)
    (held : state.sessions.get? slot = some session) (connected : session.isConnected)
    (unnamed : session.nick = none) (moment : Moment) (connection : Nat) {frame : Frame}
    {nick token : String} (login : frame.type = .login)
    (request : LoginRequest.ofPayload frame.payload = .ok (.reconnect nick token))
    (status : Session.Status) :
    FrameHandover state.tables.occupants moment slot connection frame status
      (state.loginAgain moment.now slot connection nick token).state.tables.occupants := by
  rcases loginAgain_cases coherent held connected moment.now connection nick token with
    refused | ⟨existing, target, there, away, named, agrees, different, accepted⟩
  · rw [refused]
    exact .still
  · rw [accepted, resume_occupants, handOver_occupants there different]
    exact .returned login request (Tables.getElem?_occupants held) unnamed (Tables.getElem?_occupants there)
      away named agrees

theorem onLogin_handover (coherent : state.tables.Coherent)
    (held : state.sessions.get? slot = some session) (connected : session.isConnected)
    (unnamed : session.nick = none) (moment : Moment) (connection : Nat) (frame : Frame) :
    FrameHandover state.tables.occupants moment slot connection frame .disconnected
      (state.onLogin moment slot connection frame).state.tables.occupants := by
  unfold onLogin
  split
  · next login =>
      split
      · exact .still
      · next nick request =>
          exact loginNew_handover held unnamed moment connection login request _
      · next nick token request =>
          exact loginAgain_handover coherent held connected unnamed moment connection login request
            _
  · next quit =>
      dsimp only
      rw [release_occupants_set]
      exact .quit quit rfl
  · exact .still

/-! ## Frames of players -/

/-- Whatever a player asks for, nothing of this changes, unless the player quits. -/
theorem onLobby_handover (moment : Moment) (slot connection : Nat) (frame : Frame)
    (state : Transition) :
    FrameHandover state.tables.occupants moment slot connection frame .connected
      (state.onLobby moment.now slot frame).2.tables.occupants := by
  unfold onLobby
  split
  · split <;> exact .still
  · dsimp only
    rw [createRoom_occupants]
    exact .still
  · dsimp only
    rw [joinRoom_occupants]
    exact .still
  · next quit =>
      dsimp only
      rw [release_occupants_set]
      exact .quit quit rfl
  · dsimp only
    rw [modifySession_occupants]
    · exact .still
    · exact fun session => rfl

theorem setStatus_occupants (id : Nat) (status : Session.Status) (state : Transition) :
    (state.setStatus id status).tables.occupants = state.tables.occupants :=
  modifySession_occupants fun _ => rfl

theorem onRoom_handover (config : Config) (moment : Moment) (slot connection : Nat)
    (frame : Frame) (state : Transition) :
    FrameHandover state.tables.occupants moment slot connection frame .inRoom
      (state.onRoom config moment slot frame).2.tables.occupants := by
  rw [← findRoom_occupants slot state]
  unfold onRoom
  dsimp only
  generalize state.findRoom slot = state
  split
  · rw [reply_tables, setStatus_occupants]
    exact .still
  · split
    · dsimp only
      rw [reply_tables, setStatus_occupants, leaveRoom_occupants]
      exact .still
    · dsimp only
      rw [getReady_occupants]
      exact .still
    · dsimp only
      rw [startForOwner_occupants]
      exact .still
    · next quit =>
        dsimp only
        rw [release_occupants_set, leaveRoom_occupants]
        exact .quit quit rfl
    · exact .still

theorem onMatchDone_handover (config : Config) (moment : Moment) (slot connection : Nat)
    (frame : Frame) (state : Transition) :
    FrameHandover state.tables.occupants moment slot connection frame .matchDone
      (state.onMatchDone config moment slot frame).2.tables.occupants := by
  rw [← findRoom_occupants slot state]
  unfold onMatchDone
  dsimp only
  generalize state.findRoom slot = state
  split
  · rw [reply_tables, setStatus_occupants]
    exact .still
  · split
    · dsimp only
      rw [playAgain_occupants]
      exact .still
    · dsimp only
      rw [closeRoom_occupants, broadcast_tables]
      exact .still
    · dsimp only
      rw [reply_tables, setStatus_occupants, leaveRoom_occupants]
      exact .still
    · next quit =>
        dsimp only
        rw [release_occupants_set, leaveRoom_occupants]
        exact .quit quit rfl
    · exact .still

theorem onTurn_occupants (shuffle : Shuffle) (slot : Nat) (frame : Frame) (state : Transition) :
    (state.onTurn shuffle slot frame).2.tables.occupants = state.tables.occupants := by
  unfold onTurn
  split
  · exact playMove_occupants shuffle slot frame.type frame.payload state
  · rfl

theorem dispatch_handover (coherent : state.tables.Coherent)
    (held : state.sessions.get? slot = some session) (connected : session.isConnected)
    (config : Config) (moment : Moment) (connection : Nat) (frame : Frame) :
    FrameHandover state.tables.occupants moment slot connection frame session.status
      (Tables.dispatch config moment slot connection frame session.status
        state).state.tables.occupants := by
  cases status : session.status with
  | disconnected =>
      exact onLogin_handover coherent held connected
        (coherent.nick_eq_none held connected status) moment connection frame
  | connected =>
      exact onLobby_handover moment slot connection frame state
  | inRoom =>
      exact onRoom_handover config moment slot connection frame state
  | onTurn =>
      exact (onTurn_occupants moment.shuffle slot frame state).symm ▸ .still
  | onWait =>
      exact (state.onWait_tables slot frame).symm ▸ .still
  | paused =>
      exact (state.onPaused_tables slot frame).symm ▸ .still
  | matchDone =>
      exact onMatchDone_handover config moment slot connection frame state

theorem disconnect_eq_self {connection : Nat} (held : state.sessions.get? id = some session)
    (stale : session.connection ≠ some connection) (now : Time) :
    state.disconnect id connection now = state := by
  simp only [disconnect, held]
  exact if_pos stale

theorem disconnect_occupants {connection : Nat} (held : state.sessions.get? id = some session)
    (bound : session.connection = some connection) (now : Time) :
    (state.disconnect id connection now).tables.occupants =
      state.tables.occupants.set id (session.occupant.leave now) := by
  have left : session.isLoggedIn = true → session.occupant.leave now =
      { session.occupant with connection := none, awaySince := some now } := fun named =>
    if_pos named
  simp only [disconnect, held]
  rw [if_neg (fun stale => stale bound)]
  split
  · next unnamed =>
      rw [release_occupants_set]
      rw [Occupant.leave, if_neg]
      simpa [Session.isLoggedIn, Session.occupant] using unnamed
  · next named =>
      have isBound : state.sessions.isBound id connection := by
        simp [SessionTable.isBound, held, bound]
      rw [afterDrop_occupants, left (by simpa using named),
        SessionTable.detach_of_isBound isBound]
      have lost : (({ state with sessions := state.sessions.modify id (Session.unbind now) } :
          Transition).modifySession id Session.drop).tables.occupants =
            (state.modifySession id (Session.lost now)).tables.occupants := by
        simp only [modifySession, SessionTable.modify_modify]
        rfl
      rw [lost]
      refine modifySession_occupants_set held ?_
      exact (Session.sameButStatus_drop _).occupant_eq

theorem evict_occupants (id : Nat) (now : Time) (state : Transition) :
    (state.evict id now).tables.occupants =
      state.tables.occupants.modify id (Occupant.lose now) := by
  rw [List.modify_eq_set_getElem?]
  unfold evict
  cases held : state.sessions.get? id with
  | none =>
      have absent : state.tables.occupants[id]? = none :=
        (SessionTable.getElem?_occupants id state.sessions).trans (congrArg _ held)
      rw [absent]
      rfl
  | some session =>
      have seat : state.tables.occupants[id]? = some session.occupant :=
        Tables.getElem?_occupants held
      rw [seat]
      cases bound : session.connection with
      | none =>
          have same : session.occupant.lose now = session.occupant := by
            rw [Occupant.lose, if_neg]
            simp [Session.occupant, bound]
          obtain ⟨inside, here⟩ := List.getElem?_eq_some_iff.1 seat
          simp only [Option.bind_some, bound]
          show _ = state.tables.occupants.set id (session.occupant.lose now)
          rw [same, ← here, List.set_getElem_self]
      | some connection =>
          have left : session.occupant.lose now = session.occupant.leave now := by
            rw [Occupant.lose, if_pos]
            simp [Session.occupant, bound]
          simp only [Option.bind_some, bound]
          show _ = state.tables.occupants.set id (session.occupant.lose now)
          rw [left]
          let told : Transition :=
            { state with
              outbox :=
                (state.outbox.push connection .lobby "Connection lost (heartbeat)").close connection }
          have there : told.sessions.get? id = some session := held
          exact disconnect_occupants there bound now

theorem expire_occupants (id : Nat) (now : Time) (state : Transition) :
    (state.expire id now).tables.occupants =
      state.tables.occupants.modify id fun _ => .nobody := by
  unfold expire
  dsimp only
  rw [release_occupants]
  split
  · rfl
  · rw [abandonRoom, foldl_occupants]
    · rfl
    · intro state other
      exact modifySession_occupants fun _ => rfl

/-- Steps that each change the holder of one slot, which is a different one each time. -/
theorem getElem?_foldl_occupants {step : Transition → Nat → Transition}
    {update : Occupant → Occupant}
    (one : ∀ state id, (step state id).tables.occupants = state.tables.occupants.modify id update)
    {ids : List Nat} (distinct : ids.Nodup) (state : Transition) (other : Nat) :
    (ids.foldl step state).tables.occupants[other]? =
      if other ∈ ids then state.tables.occupants[other]?.map update
      else state.tables.occupants[other]? := by
  induction ids generalizing state with
  | nil =>
      simp
  | cons id ids inductionHypothesis =>
      obtain ⟨absent, distinct⟩ := List.nodup_cons.1 distinct
      rw [List.foldl_cons, inductionHypothesis distinct, one, List.getElem?_modify]
      by_cases here : id = other
      · subst here
        simp [absent]
      · simp [here, Ne.symm here]

end Transition

namespace Tables

variable {tables : Tables} {config : Config} {now : Time}

theorem getElem?_occupants_evicted (coherent : tables.Coherent) (config : Config) (now : Time)
    (id : Nat) :
    (tables.evicted config now).tables.occupants[id]? =
      (tables.sessions.get? id).map fun session =>
        if session.isTimedOut config.heartbeatTimeout now then session.occupant.leave now
        else session.occupant := by
  have start (id : Nat) : (Transition.start tables).pingAll.tables.occupants[id]? =
      (tables.sessions.get? id).map Session.occupant :=
    SessionTable.getElem?_occupants id tables.sessions
  have distinct : (tables.sessions.timedOut config.heartbeatTimeout now).Nodup :=
    SessionTable.nodup_ids_filter coherent.numbered _
  have listed : id ∈ tables.sessions.timedOut config.heartbeatTimeout now ↔ _ :=
    SessionTable.mem_ids_filter coherent.numbered
      (fun session => session.isTimedOut config.heartbeatTimeout now) id
  refine (Transition.getElem?_foldl_occupants (fun state id => state.evict_occupants id now)
    distinct _ id).trans ?_
  rw [start]
  cases held : tables.sessions.get? id with
  | none =>
      simp
  | some session =>
      by_cases silent : session.isTimedOut config.heartbeatTimeout now
      · have member := listed.2 ⟨session, held, silent⟩
        have connected : session.occupant.connection.isSome := by
          simp only [Session.isTimedOut, Bool.and_eq_true] at silent
          exact silent.1
        simp [member, silent, Occupant.lose, connected]
      · have absent : id ∉ tables.sessions.timedOut config.heartbeatTimeout now := by
          intro member
          obtain ⟨other, there, quiet⟩ := listed.1 member
          obtain rfl : session = other := Option.some.inj (held.symm.trans there)
          exact silent quiet
        simp [absent, silent]

theorem evicted_coherent (coherent : tables.Coherent) (config : Config) (now : Time) :
    (tables.evicted config now).tables.Coherent := by
  have pinged : (Transition.start tables).pingAll.tables.Coherent := coherent
  exact Transition.foldl_coherent (fun coherent id => Transition.evict_coherent coherent id now) _
    pinged

/-- A sweep forgets those who have stayed away for too long when it begins. Nobody is dropped and
forgotten by the same one. -/
theorem mem_forgotten (coherent : tables.Coherent) (config : Config) (now : Time) (id : Nat) :
    id ∈ tables.forgotten config now ↔
      ∃ session, tables.sessions.get? id = some session ∧
        session.graceExpired config.reconnectTimeout now := by
  have agrees : (tables.evicted config now).tables.Coherent := evicted_coherent coherent config now
  have listed : id ∈ tables.forgotten config now ↔ _ :=
    SessionTable.mem_ids_filter agrees.numbered
      (fun session => session.graceExpired config.reconnectTimeout now) id
  have overdue : id ∈ tables.forgotten config now ↔
      ∃ occupant, (tables.evicted config now).tables.occupants[id]? = some occupant ∧
        occupant.isOverdue config.reconnectTimeout now := by
    rw [listed, occupants, SessionTable.getElem?_occupants]
    simp only [Option.map_eq_some_iff]
    constructor
    · rintro ⟨session, held, late⟩
      exact ⟨_, ⟨session, held, rfl⟩, late⟩
    · rintro ⟨_, ⟨session, held, rfl⟩, late⟩
      exact ⟨session, held, late⟩
  rw [overdue, getElem?_occupants_evicted coherent config now id]
  cases held : tables.sessions.get? id with
  | none =>
      simp
  | some session =>
      simp only [Option.map_some, Option.some.injEq, exists_eq_left']
      by_cases silent : session.isTimedOut config.heartbeatTimeout now
      · have connected : session.isConnected := (Bool.and_eq_true_iff.1 silent).1
        simp [silent, Occupant.isOverdue_leave, Session.graceExpired, connected]
      · simp [silent, Session.isOverdue_occupant]

/-- Who holds which slot after a sweep. -/
theorem sweep_occupants (coherent : tables.Coherent) (config : Config) (now : Time) :
    (tables.sweep config now).tables.occupants =
      tables.sessions.slots.map (Session.afterSweep config now) := by
  have agrees : (tables.evicted config now).tables.Coherent := evicted_coherent coherent config now
  have distinct : (tables.forgotten config now).Nodup :=
    SessionTable.nodup_ids_filter agrees.numbered _
  apply List.ext_getElem?
  intro id
  have overdue := mem_forgotten coherent config now id
  have later : (tables.sessions.slots.map (Session.afterSweep config now))[id]? =
      (tables.sessions.get? id).map (Session.afterSweep config now) :=
    List.getElem?_map
  rw [sweep_tables, Transition.getElem?_foldl_occupants
    (fun state id => state.expire_occupants id now) distinct,
    getElem?_occupants_evicted coherent config now id, later]
  cases held : tables.sessions.get? id with
  | none =>
      simp
  | some session =>
      simp only [held, Option.some.injEq, exists_eq_left'] at overdue
      simp only [Option.map_some, overdue, Session.afterSweep]
      by_cases silent : session.isTimedOut config.heartbeatTimeout now
      · have connected : session.isConnected := (Bool.and_eq_true_iff.1 silent).1
        simp [silent, Session.graceExpired, connected]
      · simp only [silent, Bool.false_eq_true, if_false]
        split <;> rfl

/-! ## Any event -/

/-- What an event does to the holders of the slots. -/
inductive Handover (config : Config) (tables : Tables) : Event → List Occupant → Prop
  | still {event : Event} : Handover config tables event tables.occupants
  | accepted {now : Time} {connection slot : Nat} {session : Session} :
      tables.sessions.get? slot = some session → session.isFree →
      Handover config tables (.accept now connection)
        (tables.occupants.set slot (.stranger connection))
  | heard {moment : Moment} {slot connection : Nat} {frame : Frame} {session : Session}
      {after : List Occupant} :
      tables.sessions.get? slot = some session → session.connection = some connection →
      FrameHandover tables.occupants moment slot connection frame session.status after →
      Handover config tables (.frame moment slot connection frame) after
  | lost {now : Time} {slot connection : Nat} {session : Session} :
      tables.sessions.get? slot = some session → session.connection = some connection →
      Handover config tables (.disconnect now slot connection)
        (tables.occupants.set slot (session.occupant.leave now))
  | swept {now : Time} :
      Handover config tables (.sweep now)
        (tables.sessions.slots.map (Session.afterSweep config now))

theorem heard_occupants (now : Time) (slot : Nat) (tables : Tables) :
    ((Transition.start tables).modifySession slot (Session.touch now)).tables.occupants =
      tables.occupants :=
  Transition.modifySession_occupants fun _ => rfl

theorem handleFrame_handover (coherent : tables.Coherent) (config : Config) (moment : Moment)
    (slot connection : Nat) (frame : Frame) :
    Handover config tables (.frame moment slot connection frame)
      (tables.handleFrame config moment slot connection frame).step.tables.occupants := by
  unfold handleFrame
  split
  · exact .still
  · next session held =>
      split
      · exact .still
      · next bound =>
          have bound : session.connection = some connection := Decidable.not_not.1 bound
          have connected : session.isConnected := by
            rw [Session.isConnected, bound]
            rfl
          have same := heard_occupants moment.now slot tables
          dsimp only
          split
          · exact same.symm ▸ .still
          · have outcome := Transition.dispatch_handover (heard_coherent coherent moment.now slot)
              (get?_heard held moment.now) connected config moment connection frame
            rw [same] at outcome
            exact .heard held bound outcome

theorem after_handover (coherent : tables.Coherent) (config : Config) (event : Event) :
    Handover config tables event (tables.after config event).occupants := by
  cases event with
  | accept now connection =>
      show Handover config tables _ (tables.accept now connection).2.tables.occupants
      unfold accept
      split
      · next slot sessions allocated =>
          obtain ⟨session, held, free, rfl⟩ := SessionTable.allocate?_eq_some allocated
          show Handover config tables _
            ((Transition.start tables).modifySession slot _).tables.occupants
          rw [Transition.modifySession_occupants_set held rfl]
          exact .accepted held free
      · exact .still
  | frame moment slot connection frame =>
      exact handleFrame_handover coherent config moment slot connection frame
  | disconnect now slot connection =>
      show Handover config tables _
        ((Transition.start tables).disconnect slot connection now).tables.occupants
      cases held : (Transition.start tables).sessions.get? slot with
      | none =>
          simp only [Transition.disconnect, held]
          exact .still
      | some session =>
          by_cases bound : session.connection = some connection
          · rw [Transition.disconnect_occupants held bound]
            exact .lost held bound
          · rw [Transition.disconnect_eq_self held bound]
            exact .still
  | sweep now =>
      exact (sweep_occupants coherent config now).symm ▸ .swept

end Tables

end Cardroom
