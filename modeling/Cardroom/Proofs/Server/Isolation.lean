import Cardroom.Proofs.Server.Confined
import Cardroom.Proofs.Server.LifeCycle

/-!
# Rooms are kept apart

What a player does concerns the player and the room that the player is in. `run_isolated` says this
of every frame and of every lost connection, in every state that a server can get into: rooms that
nobody involved is in stay as they are, and so do the sessions of those who are in no room with
somebody involved, and these are told nothing.
-/

namespace Cardroom

def Tables.SitsIn (tables : Tables) (id place : Nat) : Prop :=
  ∃ room, tables.rooms.get? place = some room ∧ id ∈ room.memberIds

instance (tables : Tables) (id place : Nat) : Decidable (tables.SitsIn id place) :=
  decidable_of_iff (∃ room ∈ tables.rooms.get? place, id ∈ room.memberIds) Iff.rfl

/-- Somebody involved is in the room at a place, before a step or after it. -/
def Concerned (involved : Nat → Prop) (before after : Tables) (place : Nat) : Prop :=
  ∃ id, involved id ∧ (before.SitsIn id place ∨ after.SitsIn id place)

/-- A player is not involved, and is in no room with somebody who is. -/
structure Bystander (involved : Nat → Prop) (before after : Tables) (id : Nat) : Prop where
  apart : ¬involved id
  earlier : ∀ place, Concerned involved before after place → ¬before.SitsIn id place
  later : ∀ place, Concerned involved before after place → ¬after.SitsIn id place

/-- A step is a matter of those involved and of the rooms that they are in. -/
structure Step.Isolated (involved : Nat → Prop) (before : Tables) (step : Step) : Prop where
  rooms : ∀ place, ¬Concerned involved before step.tables place →
    step.tables.rooms.get? place = before.rooms.get? place
  sessions : ∀ id, Bystander involved before step.tables id →
    step.tables.sessions.get? id = before.sessions.get? id
  silent : ∀ id session connection frame, Bystander involved before step.tables id →
    before.sessions.get? id = some session → session.connection = some connection →
      (connection, frame) ∉ step.outbox.frames

/-- The people whom a step concerns: those involved, and who was in a room with them. -/
def Tables.peopleIn (before : Tables) (involved places : Nat → Prop) (id : Nat) : Prop :=
  involved id ∨ ∃ place, places place ∧ before.SitsIn id place

def Tables.scope (before : Tables) (involved places : Nat → Prop) : Scope where
  people := before.peopleIn involved places
  places := places
  ears connection := ∃ id session, before.peopleIn involved places id ∧
    before.sessions.get? id = some session ∧ session.connection = some connection
  eyes _ := True
  deals := True

section

variable {tables : Tables} {involved places : Nat → Prop}

theorem Tables.isOpen_scope (tables : Tables) (involved places : Nat → Prop) :
    (tables.scope involved places).IsOpen :=
  ⟨fun _ _ => trivial, trivial⟩

theorem Tables.Coherent.sitsIn (coherent : tables.Coherent) {id place : Nat} {session : Session}
    (held : tables.sessions.get? id = some session) (noted : session.room = some place) :
    tables.SitsIn id place := by
  obtain ⟨room, found⟩ := coherent.noted held noted
  exact ⟨room, found, (coherent.member found held noted).1⟩

/-- Nothing has happened yet, and only those who are concerned are in the rooms of the scope. -/
theorem Tables.Coherent.start_confined (coherent : tables.Coherent)
    (involved places : Nat → Prop) :
    (Transition.start tables).Confined (tables.scope involved places) tables where
  sessions _ _ := rfl
  rooms _ _ := rfl
  among place room here found := by
    have members : ∀ member ∈ room.memberIds, tables.peopleIn involved places member :=
      fun member listed => .inr ⟨place, here, room, found, listed⟩
    refine ⟨members, fun game busy session listed => members session ?_⟩
    rwa [← (coherent.sound found).sessions busy]
  bound id session connection own held bound := ⟨id, session, own, held, bound⟩
  idle _ _ nothing := nothing
  frames := nofun

/-- A step that stays within its scope is isolated, as nobody shares a connection. -/
theorem Transition.Confined.isolated {state : Transition} {came : List Nat}
    (once : ConnectedOnce came tables.occupants)
    (confined : state.Confined
      (tables.scope involved (Concerned involved tables state.finish.tables)) tables) :
    state.finish.Isolated involved tables := by
  have stranger : ∀ id, Bystander involved tables state.finish.tables id →
      ¬tables.peopleIn involved (Concerned involved tables state.finish.tables) id := by
    rintro id bystander (own | ⟨place, concerned, sits⟩)
    · exact bystander.apart own
    · exact bystander.earlier place concerned sits
  refine ⟨confined.rooms, fun id bystander => confined.sessions id (stranger id bystander), ?_⟩
  intro id session connection frame bystander held bound queued
  obtain ⟨⟨other, found, own, there, same⟩, -⟩ := confined.frames _ queued
  have shared : id = other := once.distinct id other _ _ connection
    (Tables.getElem?_occupants held) (Tables.getElem?_occupants there) bound same
  exact stranger other (shared ▸ bystander) own

end

/-! ## Frames -/

namespace Transition

variable {state : Transition} {slot : Nat}

/-- A room that was opened has its first member. -/
theorem createRoom_sitsIn {name : String} {room : Nat} {rooms : RoomTable}
    (granted : state.rooms.create (Text.trim name) slot = .ok (room, rooms)) :
    (state.createRoom slot name).tables.SitsIn slot room := by
  obtain ⟨-, -, opened⟩ := RoomTable.create_eq_ok granted
  simp only [createRoom, granted, sendRoomInfo_tables, reply_tables]
  exact ⟨_, opened, List.mem_singleton.2 rfl⟩

/-- A newcomer is a member of the room. -/
theorem joinRoom_sitsIn {payload : String} {room : Nat} {rooms : RoomTable}
    (numbered : Text.number? (Text.trim payload) = some room)
    (granted : state.rooms.join room slot = .ok rooms) :
    (state.joinRoom slot payload).tables.SitsIn slot room := by
  obtain ⟨_, joined, -, -, -, -, -, -, there, -, members, -⟩ := RoomTable.join_eq_ok granted
  simp only [joinRoom, numbered, granted, sendRoomInfo_tables, reply_tables]
  exact ⟨joined, there, members ▸ List.mem_append_right _ (List.mem_singleton.2 rfl)⟩

theorem loginNew_slot (moment : Moment) (nick : String) :
    (state.loginNew moment slot nick).slot = slot := by
  unfold loginNew
  split <;> rfl

/-- A player gets back the old slot for the name and the token. -/
theorem loginAgain_of_moved (coherent : state.tables.Coherent) {now : Time} {connection : Nat}
    {nick token : String} (moved : (state.loginAgain now slot connection nick token).slot ≠ slot) :
    ∃ existing target, state.sessions.get? existing = some target ∧ target.connection = none ∧
      target.nick = some nick ∧ target.token = some token ∧ existing ≠ slot ∧
      state.loginAgain now slot connection nick token =
        { flow := .proceed, slot := existing,
          state := (state.handOver now slot existing connection).resume existing } := by
  unfold loginAgain at moved
  cases known : state.sessions.findByNick? nick with
  | none =>
      simp [known] at moved
  | some existing =>
      obtain ⟨target, there, named⟩ := SessionTable.findByNick?_eq_some known coherent.numbered
      simp only [known, there] at moved
      by_cases present : target.isConnected
      · simp [present] at moved
      · by_cases agrees : target.token = some token
        · have away : target.connection = none := by
            simpa [Session.isConnected] using present
          simp only [present, agrees, ne_eq, not_true_eq_false, if_false, Bool.false_eq_true]
            at moved
          exact ⟨existing, target, there, away, named, agrees, moved,
            loginAgain_eq known there away agrees moved now connection⟩
        · simp [present, agrees] at moved

/-- A connection goes over to another slot only when its player is expected there. -/
theorem onLogin_of_moved (coherent : state.tables.Coherent) {moment : Moment} {connection : Nat}
    {frame : Frame} (moved : (state.onLogin moment slot connection frame).slot ≠ slot) :
    frame.type = .login ∧
      ∃ existing target, state.tables.Awaits frame.payload existing target ∧ existing ≠ slot ∧
        state.onLogin moment slot connection frame =
          { flow := .proceed, slot := existing,
            state := (state.handOver moment.now slot existing connection).resume existing } := by
  unfold onLogin at moved ⊢
  cases type : frame.type with
  | login =>
      simp only [type] at moved ⊢
      refine ⟨trivial, ?_⟩
      cases asked : LoginRequest.ofPayload frame.payload with
      | error error =>
          simp only [asked] at moved
          exact absurd rfl moved
      | ok request =>
          simp only [asked] at moved ⊢
          cases request with
          | new nick =>
              exact absurd (loginNew_slot moment nick) moved
          | reconnect nick token =>
              obtain ⟨existing, target, there, away, named, agrees, different, accepted⟩ :=
                loginAgain_of_moved coherent moved
              have given := (LoginRequest.ofPayload_eq_reconnect.1 asked).1
              exact ⟨existing, target, ⟨there, away, nick, token, named, agrees, given⟩, different,
                accepted⟩
  | _ =>
      simp only [type] at moved
      exact absurd rfl moved

end Transition

namespace Tables

variable {tables : Tables}

/-- Whether a frame may have cards shown or a match dealt: one with which a player comes back, or
one that starts a match, or a move. -/
def MayShow (frame : Frame) : Session.Status → (moved : Prop) → Prop
  | .disconnected, moved => moved
  | .inRoom, _ => frame.type = .start
  | .matchDone, _ => frame.type = .playAgain
  | .onTurn, _ => frame.type.isMove = true
  | _, _ => False

/-- A frame is a matter of the player who sends it and of the one who comes back with it. -/
theorem dispatch_confined {scope : Scope} {before : Tables} {state : Transition} {slot : Nat}
    (confined : state.Confined scope before) (coherent : state.tables.Coherent) (config : Config)
    (moment : Moment) {connection : Nat} (frame : Frame) (status : Session.Status)
    (connected : ∀ session, state.sessions.get? slot = some session → session.isConnected)
    (ear : scope.ears connection)
    (sees : MayShow frame status
      ((dispatch config moment slot connection frame status state).slot ≠ slot) → scope.IsOpen)
    (here : ∀ id room, id = slot ∨ id =
        (dispatch config moment slot connection frame status state).slot →
      state.roomOf? id = some room → scope.places room)
    (own : ∀ id, id = slot ∨ id =
        (dispatch config moment slot connection frame status state).slot →
      scope.people id)
    (after : ∀ room,
      (dispatch config moment slot connection frame status state).state.tables.SitsIn slot
        room → scope.places room) :
    (dispatch config moment slot connection frame status state).state.Confined scope
      before := by
  have self := own slot (.inl rfl)
  have there := fun room => here slot room (.inl rfl)
  cases status with
  | disconnected =>
      exact confined.onLogin self connected ear sees (own _ (.inr rfl)) fun room =>
        here _ room (.inr rfl)
  | connected =>
      refine confined.onLobby self ?_ ?_ moment.now
      · intro room rooms asked granted
        refine after room ?_
        simp only [dispatch, Transition.onLobby, asked]
        exact Transition.createRoom_sitsIn granted
      · intro room rooms asked numbered granted
        refine after room ?_
        simp only [dispatch, Transition.onLobby, asked]
        exact Transition.joinRoom_sitsIn numbered granted
  | inRoom =>
      exact confined.onRoom coherent self there sees config moment
  | onTurn =>
      exact confined.onTurn coherent self there sees moment.shuffle
  | onWait =>
      exact confined.onWait self frame
  | paused =>
      exact confined.onPaused self frame
  | matchDone =>
      exact confined.onMatchDone coherent self there sees config moment

theorem dispatch_slot {state : Transition} {slot connection : Nat} {config : Config}
    {moment : Moment} {frame : Frame} {status : Session.Status} (coherent : state.tables.Coherent)
    (moved : (dispatch config moment slot connection frame status state).slot ≠ slot) :
    frame.type = .login ∧ ∃ target, state.tables.Awaits frame.payload
      (dispatch config moment slot connection frame status state).slot target := by
  cases status with
  | disconnected =>
      obtain ⟨login, existing, target, awaits, -, accepted⟩ :=
        Transition.onLogin_of_moved coherent moved
      refine ⟨login, target, ?_⟩
      rw [dispatch, accepted]
      exact awaits
  | _ =>
      exact absurd rfl moved

/-- The players whom a frame involves: the one who sends it, and the one who comes back with it. -/
def Handled.Involves (slot : Nat) (handled : Handled) (id : Nat) : Prop :=
  id = slot ∨ id = handled.slot

/-- Nothing comes of what a stale connection sends. -/
theorem handleFrame_of_not_isBound {slot connection : Nat}
    (stale : tables.sessions.isBound slot connection = false) (config : Config) (moment : Moment)
    (frame : Frame) :
    tables.handleFrame config moment slot connection frame =
      { flow := .disconnect, slot, step := { tables, outbox := {} } } := by
  unfold handleFrame
  cases held : tables.sessions.get? slot with
  | none =>
      rfl
  | some session =>
      have other : session.connection ≠ some connection := by
        simpa [SessionTable.isBound, held] using stale
      exact if_pos other

theorem handleDisconnect_of_not_isBound {slot connection : Nat}
    (stale : tables.sessions.isBound slot connection = false) (now : Time) :
    tables.handleDisconnect now slot connection = { tables, outbox := {} } := by
  have same : (Transition.start tables).disconnect slot connection now =
      Transition.start tables := by
    unfold Transition.disconnect
    cases held : (Transition.start tables).sessions.get? slot with
    | none =>
        rfl
    | some session =>
        have held : tables.sessions.get? slot = some session := held
        have other : session.connection ≠ some connection := by
          simpa [SessionTable.isBound, held] using stale
        exact if_pos other
  rw [handleDisconnect, same]
  rfl

theorem exists_of_isBound {slot connection : Nat}
    (bound : tables.sessions.isBound slot connection) :
    ∃ session, tables.sessions.get? slot = some session ∧
      session.connection = some connection := by
  unfold SessionTable.isBound at bound
  cases held : tables.sessions.get? slot with
  | none =>
      rw [held] at bound
      cases bound
  | some session =>
      rw [held] at bound
      exact ⟨session, rfl, by simpa using bound⟩

theorem handleFrame_isolated {came : List Nat} (coherent : tables.Coherent)
    (once : ConnectedOnce came tables.occupants) {slot connection : Nat}
    (bound : tables.sessions.isBound slot connection) (config : Config) (moment : Moment)
    (frame : Frame) :
    (tables.handleFrame config moment slot connection frame).step.Isolated
      ((tables.handleFrame config moment slot connection frame).Involves slot) tables := by
  obtain ⟨session, held, same⟩ := exists_of_isBound bound
  unfold handleFrame
  simp only [held]
  rw [if_neg (not_not_intro same)]
  have coherentHeard := heard_coherent coherent moment.now slot
  have noted := Transition.Confined.roomOf?_modifySession
    (fun session : Session => show (session.touch moment.now).room = session.room from rfl)
  split
  · refine Transition.Confined.isolated once ?_
    exact (coherent.start_confined _ _).modifySession (.inl (.inl rfl)) fun _ => rfl
  · dsimp only
    refine Transition.Confined.isolated once ?_
    refine dispatch_confined ?_ coherentHeard config moment frame session.status ?_ ?_
      (fun _ => isOpen_scope _ _ _) ?_ ?_ ?_
    · exact (coherent.start_confined _ _).modifySession (.inl (.inl rfl)) fun _ => rfl
    · intro other there
      obtain rfl := Option.some.inj ((get?_heard held moment.now).symm.trans there)
      simp [Session.isConnected, Session.touch, same]
    · exact ⟨slot, session, .inl (.inl rfl), held, same⟩
    · intro id room involved there
      rw [noted] at there
      obtain ⟨other, found, inside⟩ := Option.bind_eq_some_iff.1 there
      exact ⟨id, involved, .inl (coherent.sitsIn found inside)⟩
    · exact fun id involved => .inl involved
    · exact fun room sits => ⟨slot, .inl rfl, .inr sits⟩

theorem handleDisconnect_isolated {came : List Nat} (coherent : tables.Coherent)
    (once : ConnectedOnce came tables.occupants) (slot connection : Nat) (now : Time) :
    (tables.handleDisconnect now slot connection).Isolated (· = slot) tables := by
  refine Transition.Confined.isolated once ?_
  have self (places : Nat → Prop) : (tables.scope (· = slot) places).people slot := .inl rfl
  refine (coherent.start_confined _ _).disconnect (self _) ?_ connection now
  intro room there
  obtain ⟨other, found, inside⟩ := Option.bind_eq_some_iff.1 there
  exact ⟨slot, rfl, .inl (coherent.sitsIn found inside)⟩

/-- What a frame or a lost connection may do to a server. -/
structure KeepsApart (config : Config) (tables : Tables) (slot connection : Nat) : Prop where
  frame : tables.sessions.isBound slot connection → ∀ moment frame,
    let handled := tables.handleFrame config moment slot connection frame
    handled.step.Isolated (handled.Involves slot) tables ∧
      (handled.slot ≠ slot →
        frame.type = .login ∧ ∃ target, tables.Awaits frame.payload handled.slot target)
  disconnect : tables.sessions.isBound slot connection → ∀ now,
    (tables.handleDisconnect now slot connection).Isolated (· = slot) tables
  stale : tables.sessions.isBound slot connection = false → ∀ moment frame now,
    (tables.handleFrame config moment slot connection frame).step = { tables, outbox := {} } ∧
      tables.handleDisconnect now slot connection = { tables, outbox := {} }

theorem handleFrame_slot {slot connection : Nat} {config : Config} {moment : Moment}
    {frame : Frame} (coherent : tables.Coherent)
    (moved : (tables.handleFrame config moment slot connection frame).slot ≠ slot) :
    frame.type = .login ∧ ∃ target, tables.Awaits frame.payload
      (tables.handleFrame config moment slot connection frame).slot target := by
  unfold handleFrame at moved ⊢
  cases held : tables.sessions.get? slot with
  | none =>
      simp [held] at moved
  | some session =>
      simp only [held] at moved ⊢
      by_cases stale : session.connection ≠ some connection
      · simp [stale] at moved
      · by_cases alive : frame.type = .ping ∨ frame.type = .pong
        · simp [stale, alive] at moved
        · simp only [stale, alive, if_false] at moved ⊢
          obtain ⟨login, target, awaits⟩ :=
            dispatch_slot (heard_coherent coherent moment.now slot) moved
          refine ⟨login, target, ?_, awaits.away, awaits.given⟩
          have elsewhere := (SessionTable.get?_modify slot _ _ _).symm.trans awaits.held
          rwa [if_neg (Ne.symm moved)] at elsewhere

/-- Whatever has happened to a server since it was started, as long as no connection comes twice:
what a player does changes nothing for those who are in no room with the player, and they are told
nothing. A connection that is not bound to the slot does nothing at all. -/
theorem run_isolated (config : Config) (started : Time) {events : List Event}
    (fresh : (events.filterMap Event.arrival?).Nodup) (slot connection : Nat) :
    (run config started events).KeepsApart config slot connection := by
  have coherent := run_coherent config started events
  have once := run_connectedOnce config started fresh
  constructor
  · intro bound moment frame
    exact ⟨handleFrame_isolated coherent once bound config moment frame, handleFrame_slot coherent⟩
  · intro bound now
    exact handleDisconnect_isolated coherent once slot connection now
  · intro stale moment frame now
    rw [handleFrame_of_not_isBound stale config moment frame,
      handleDisconnect_of_not_isBound stale now]
    exact ⟨rfl, rfl⟩

/-- Two players each have met in two rooms, and the match in one of them is started. -/
theorem isolated_of_start :
    let moment : Moment := { now := 1, token := .nth 0, shuffle := .still }
    let send (slot : Nat) (type : MessageType) (payload : String) : Event :=
      .frame moment slot slot { type, payload }
    let events : List Event :=
      [.accept 0 0, .accept 0 1, .accept 0 2, .accept 0 3, send 0 .login "ann",
        send 1 .login "ben", send 2 .login "cas", send 3 .login "dee",
        send 0 .createRoom "den", send 2 .createRoom "hut", send 1 .joinRoom "0",
        send 3 .joinRoom "1", send 0 .ready "1", send 1 .ready "1"]
    let tables := run {} 0 events
    let handled := tables.handleFrame {} moment 0 0 { type := .start, payload := "" }
    (events.filterMap Event.arrival?).Nodup ∧ tables.sessions.isBound 0 0 ∧
      handled.step.tables.rooms.get? 0 ≠ tables.rooms.get? 0 ∧
      (tables.rooms.get? 1).isSome ∧ handled.step.tables.rooms.get? 1 = tables.rooms.get? 1 := by
  intro moment send events tables handled
  have fresh : (events.filterMap Event.arrival?).Nodup := by decide
  have bound : tables.sessions.isBound 0 0 := by decide +kernel
  have started : handled.step.tables.rooms.get? 0 ≠ tables.rooms.get? 0 := by decide +kernel
  have apart : ¬Concerned (handled.Involves 0) tables handled.step.tables 1 := by
    have absent : ¬tables.SitsIn 0 1 ∧ ¬handled.step.tables.SitsIn 0 1 := by decide +kernel
    have same : handled.slot = 0 := by decide +kernel
    rintro ⟨id, involved, sits⟩
    have alone : id = 0 := involved.elim (fun own => own) fun back => back.trans same
    subst alone
    exact sits.elim absent.1 absent.2
  have kept : tables.KeepsApart {} 0 0 := run_isolated {} 0 fresh 0 0
  have isolated : handled.step.Isolated (handled.Involves 0) tables := (kept.frame bound moment _).1
  exact ⟨fresh, bound, started, by decide +kernel, isolated.rooms 1 apart⟩

end Tables

end Cardroom
