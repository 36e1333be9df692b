import Cardroom.Proofs.Server.Expire

/-!
# What a sweep does

A sweep drops the players who have been silent and gives up those who have stayed away. While it
drops the first ones, rooms and statuses change that it looks at later. `run_swept` says what has
become of every slot in the end, and what everybody was told.
-/

namespace Cardroom

namespace Tables

variable {tables : Tables} {config : Config} {now : Time} {id other connection place : Nat}
  {session : Session} {room : Room}

theorem mem_timedOut (coherent : tables.Coherent) (config : Config) (now : Time) (id : Nat) :
    id ∈ tables.sessions.timedOut config.heartbeatTimeout now ↔
      ∃ session, tables.sessions.get? id = some session ∧
        session.isTimedOut config.heartbeatTimeout now :=
  SessionTable.mem_ids_filter coherent.numbered _ id

theorem connectionOf?_evicted (config : Config) (now : Time) (id : Nat) (tables : Tables) :
    (tables.evicted config now).tables.connectionOf? id =
      if id ∈ tables.sessions.timedOut config.heartbeatTimeout now then none
      else tables.connectionOf? id :=
  Transition.connectionOf?_foldl_evict now _ id (Transition.start tables).pingAll

theorem framesFor_pinged (only : tables.IsOnly connection id) :
    (Transition.start tables).pingAll.outbox.framesFor connection = [Transition.lifeRequest] := by
  have first : (Transition.start tables).tables.IsOnly connection id := only
  exact Transition.framesFor_pingAll first

theorem framesFor_evicted_of_spared (only : tables.IsOnly connection id)
    (spared : id ∉ tables.sessions.timedOut config.heartbeatTimeout now) :
    ∃ added, (tables.evicted config now).outbox.framesFor connection =
        Transition.lifeRequest :: added ∧
      ∀ frame ∈ added, frame.type.tellsOfDrop := by
  have others : ∀ other ∈ tables.sessions.timedOut config.heartbeatTimeout now,
      (Transition.start tables).pingAll.tables.connectionOf? other ≠ some connection := by
    intro other listed bound
    exact spared ((only other).1 bound ▸ listed)
  obtain ⟨added, frames, allowed⟩ := Transition.foldl_evict_of_spared now others
  rw [framesFor_pinged only] at frames
  exact ⟨added, frames, allowed⟩

theorem framesFor_evicted_of_lost (only : tables.IsOnly connection id)
    (lost : id ∈ tables.sessions.timedOut config.heartbeatTimeout now) :
    connection ∈ (tables.evicted config now).outbox.closing ∧
      ∃ added, (tables.evicted config now).outbox.framesFor connection =
          Transition.lifeRequest :: (added ++ [Transition.lossNotice]) ∧
        ∀ frame ∈ added, frame.type.tellsOfDrop := by
  have first : (Transition.start tables).pingAll.tables.IsOnly connection id := only
  obtain ⟨closed, added, frames, allowed⟩ := Transition.foldl_evict_of_lost now first lost
  rw [framesFor_pinged only] at frames
  exact ⟨closed, added, frames.trans (by simp), allowed⟩

/-- The room of a player who has stayed away keeps its members while others are dropped. -/
theorem exists_room_evicted (coherent : tables.Coherent)
    (held : tables.sessions.get? id = some session) (away : session.isConnected = false)
    (found : tables.rooms.get? place = some room) (member : id ∈ room.memberIds) (config : Config)
    (now : Time) :
    ∃ later, (tables.evicted config now).rooms.get? place = some later ∧
      later.memberIds = room.memberIds := by
  obtain ⟨own, there, -, suits⟩ := coherent.suits found member
  obtain rfl : session = own := Option.some.inj (held.symm.trans there)
  cases played : room.game with
  | none =>
      rw [(suits.idle played).1] at away
      cases away
  | some game =>
      have busy : (Transition.start tables).gameIn? place = some game :=
        Option.bind_eq_some_iff.2 ⟨room, found, played⟩
      have same := (evicted_keeps coherent busy config now).1.room
      rw [found, Option.map_some] at same
      obtain ⟨later, found', gathered⟩ := Option.map_eq_some_iff.1 same
      refine ⟨later, found', ?_⟩
      rw [← later.memberIds_gathered, gathered, room.memberIds_gathered]

theorem shareRoom_evicted (coherent : tables.Coherent)
    (held : tables.sessions.get? id = some session) (away : session.isConnected = false)
    (shared : tables.ShareRoom id other) (config : Config) (now : Time) :
    (tables.evicted config now).tables.ShareRoom id other := by
  obtain ⟨place, room, found, member, listed⟩ := shared
  obtain ⟨later, found', same⟩ := exists_room_evicted coherent held away found member config now
  exact ⟨place, later, found', same ▸ member, same ▸ listed⟩

/-- Everything but a player and whoever sits in a room with the player. -/
def scopeWithout (id : Nat) (tables : Tables) : Scope where
  people other := other ≠ id ∧ ¬tables.ShareRoom other id
  places place := ∀ room, tables.rooms.get? place = some room → id ∉ room.memberIds
  ears _ := True
  eyes _ := True
  deals := True

theorem Coherent.start_without (coherent : tables.Coherent) (id : Nat) :
    (Transition.start tables).Confined (tables.scopeWithout id) tables where
  sessions _ _ := rfl
  rooms _ _ := rfl
  among place room inside found := by
    have absent := inside room found
    have members : ∀ member ∈ room.memberIds, (tables.scopeWithout id).people member := by
      intro member listed
      refine ⟨?_, fun shared => absent ((coherent.shareRoom_iff_mem found listed).1 shared)⟩
      rintro rfl
      exact absent listed
    refine ⟨members, fun game busy => ?_⟩
    rw [Match.Among, (coherent.sound found).sessions busy]
    exact members
  bound _ _ _ _ _ _ := trivial
  idle closed := absurd trivial closed
  frames := nofun

/-- The room of somebody else is not the room of the player, however far things have gone. -/
theorem places_of_people {state : Transition} (agrees : state.tables.Coherent)
    (confined : state.Confined (tables.scopeWithout id) tables)
    (stranger : (tables.scopeWithout id).people other)
    (noted : state.roomOf? other = some place) : (tables.scopeWithout id).places place := by
  intro room found member
  have outside : ¬(tables.scopeWithout id).places place := fun inside => inside room found member
  have still : state.rooms.get? place = some room := (confined.rooms place outside).trans found
  obtain ⟨session, held, here⟩ := Option.bind_eq_some_iff.1 noted
  exact stranger.2 ⟨place, room, found, (agrees.member still held here).1, member⟩

theorem foldl_without {state : Transition} {step : Transition → Nat → Transition} {ids : List Nat}
    (agreed : ∀ {state : Transition}, state.tables.Coherent → ∀ id,
      (step state id).tables.Coherent)
    (kept : ∀ {state : Transition} {other : Nat},
      state.Confined (tables.scopeWithout id) tables → (tables.scopeWithout id).people other →
        (∀ place, state.roomOf? other = some place → (tables.scopeWithout id).places place) →
          (step state other).Confined (tables.scopeWithout id) tables)
    (strangers : ∀ other ∈ ids, (tables.scopeWithout id).people other)
    (coherent : state.tables.Coherent)
    (confined : state.Confined (tables.scopeWithout id) tables) :
    (ids.foldl step state).Confined (tables.scopeWithout id) tables := by
  refine And.right (List.foldlRecOn (motive := fun state : Transition =>
    state.tables.Coherent ∧ state.Confined (tables.scopeWithout id) tables) ids step
    ⟨coherent, confined⟩ ?_)
  rintro state ⟨agrees, confined⟩ other listed
  exact ⟨agreed agrees other, kept confined (strangers other listed) fun place noted =>
    places_of_people agrees confined (strangers other listed) noted⟩

/-- A player is as before who has neither been silent nor away, and sits in a room with nobody who
has. -/
theorem sweep_of_apart (coherent : tables.Coherent)
    (apart : ∀ other session, tables.sessions.get? other = some session →
      session.isTimedOut config.heartbeatTimeout now ∨
        session.graceExpired config.reconnectTimeout now →
      other ≠ id ∧ ¬tables.ShareRoom other id) :
    (tables.sweep config now).tables.sessions.get? id = tables.sessions.get? id := by
  have pinged : (Transition.start tables).pingAll.tables.Coherent := coherent
  have evicted : (tables.evicted config now).Confined (tables.scopeWithout id) tables := by
    refine foldl_without (fun coherent id => Transition.evict_coherent coherent id now)
      (fun confined own here => confined.evict own here now) (fun other listed => ?_) pinged
      ((coherent.start_without id).pingAll fun _ _ => trivial)
    obtain ⟨session, held, silent⟩ := (mem_timedOut coherent config now other).1 listed
    exact apart other session held (.inl silent)
  have swept : ((tables.forgotten config now).foldl (fun state id => state.expire id now)
      (tables.evicted config now)).Confined (tables.scopeWithout id) tables := by
    refine foldl_without (fun coherent id => Transition.expire_coherent coherent id now)
      (fun confined own here => confined.expire own here now) (fun other listed => ?_)
      (evicted_coherent coherent config now) evicted
    obtain ⟨session, held, late⟩ := (mem_forgotten coherent config now other).1 listed
    exact apart other session held (.inr late)
  exact swept.sessions id fun inside => inside.1 rfl

/-! ## What everybody is told -/

theorem sweep_outbox (config : Config) (now : Time) (tables : Tables) :
    (tables.sweep config now).outbox =
      ((tables.forgotten config now).foldl (fun state id => state.expire id now)
        (tables.evicted config now)).outbox :=
  rfl

/-- Whoever is dropped is told so last of all. -/
theorem framesFor_sweep_of_lost (coherent : tables.Coherent)
    (only : tables.IsOnly connection id)
    (lost : id ∈ tables.sessions.timedOut config.heartbeatTimeout now) :
    connection ∈ (tables.sweep config now).outbox.closing ∧
      ∃ added, (tables.sweep config now).outbox.framesFor connection =
          Transition.lifeRequest :: (added ++ [Transition.lossNotice]) ∧
        ∀ frame ∈ added, frame.type.tellsOfDrop := by
  have agrees := evicted_coherent coherent config now
  have unheard : ¬(tables.evicted config now).tables.IsHeard connection := by
    rintro ⟨other, bound⟩
    rw [connectionOf?_evicted] at bound
    split at bound
    · cases bound
    · next spared =>
        exact spared ((only other).1 bound ▸ lost)
  obtain ⟨closed, added, frames, allowed⟩ := framesFor_evicted_of_lost only lost
  rw [sweep_outbox, Transition.foldl_expire_closing now agrees,
    Transition.foldl_expire_of_unheard now agrees _ unheard]
  exact ⟨closed, added, frames, allowed⟩

theorem isOnly_evicted (only : tables.IsOnly connection id)
    (spared : id ∉ tables.sessions.timedOut config.heartbeatTimeout now) :
    (tables.evicted config now).tables.IsOnly connection id := by
  intro other
  rw [connectionOf?_evicted]
  split
  · next lost =>
      exact ⟨nofun, fun same => absurd (same ▸ lost) spared⟩
  · exact only other

/-- Whoever is given up was away. -/
theorem away_of_graceExpired (late : session.graceExpired config.reconnectTimeout now) :
    session.isConnected = false := by
  simp only [Session.graceExpired, Bool.and_eq_true, Bool.not_eq_true'] at late
  exact late.1.1

/-- Whoever is neither dropped nor given up is told what has become of the room, and that it is
closed if it is. -/
theorem framesFor_sweep_of_spared (coherent : tables.Coherent)
    (only : tables.IsOnly connection id)
    (spared : id ∉ tables.sessions.timedOut config.heartbeatTimeout now)
    (kept : id ∉ tables.forgotten config now) :
    ∃ added notice, (tables.sweep config now).outbox.framesFor connection =
        Transition.lifeRequest :: (added ++ notice) ∧
      (∀ frame ∈ added, frame.type.tellsOfDrop) ∧
      (notice = [] ∨ notice = [Transition.closeNotice]) ∧
      ∀ other ∈ tables.forgotten config now, tables.ShareRoom other id →
        notice = [Transition.closeNotice] := by
  have agrees := evicted_coherent coherent config now
  have only' := isOnly_evicted only spared
  obtain ⟨session, held, -⟩ := connectionOf?_eq_some.1 ((only' id).2 rfl)
  obtain ⟨added, frames, allowed⟩ := framesFor_evicted_of_spared only spared
  by_cases shared : ∃ other ∈ tables.forgotten config now,
      (tables.evicted config now).tables.ShareRoom other id
  · obtain ⟨other, listed, shared⟩ := shared
    obtain ⟨-, told⟩ := Transition.foldl_expire_of_shared now agrees kept held listed shared
    refine ⟨added, [Transition.closeNotice], ?_, allowed, .inr rfl, fun _ _ _ => rfl⟩
    rw [sweep_outbox, told connection only', frames]
    rfl
  · have apart : ∀ other ∈ tables.forgotten config now,
        ¬(tables.evicted config now).tables.ShareRoom other id :=
      fun other listed together => shared ⟨other, listed, together⟩
    obtain ⟨-, told⟩ := Transition.foldl_expire_of_apart now agrees kept held apart
    refine ⟨added, [], ?_, allowed, .inl rfl, fun other listed together => ?_⟩
    · rw [sweep_outbox, told connection only', frames, List.append_nil]
    · obtain ⟨own, there, late⟩ := (mem_forgotten coherent config now other).1 listed
      exact absurd (shareRoom_evicted coherent there (away_of_graceExpired late) together config
        now) (apart other listed)

theorem afterSweep_of_timedOut (silent : session.isTimedOut config.heartbeatTimeout now) :
    session.afterSweep config now = session.occupant.leave now :=
  if_pos silent

theorem afterSweep_of_expired (late : session.graceExpired config.reconnectTimeout now) :
    session.afterSweep config now = .nobody := by
  have spared : session.isTimedOut config.heartbeatTimeout now = false := by
    rw [Session.isTimedOut, away_of_graceExpired late, Bool.false_and]
  rw [Session.afterSweep, spared, if_neg Bool.false_ne_true, if_pos late]

theorem afterSweep_of_spared (spared : session.isTimedOut config.heartbeatTimeout now = false)
    (kept : session.graceExpired config.reconnectTimeout now = false) :
    session.afterSweep config now = session.occupant := by
  rw [Session.afterSweep, spared, kept, if_neg Bool.false_ne_true, if_neg Bool.false_ne_true]

theorem exists_swept (coherent : tables.Coherent) (held : tables.sessions.get? id = some session)
    (config : Config) (now : Time) :
    ∃ later, (tables.sweep config now).tables.sessions.get? id = some later ∧
      later.occupant = session.afterSweep config now ∧
      later.HasShape (tables.sweep config now).tables.rooms
        (session.afterSweep config now).shape := by
  have swept : (tables.sweep config now).tables.occupants[id]? =
      some (session.afterSweep config now) := by
    rw [sweep_occupants coherent, List.getElem?_map]
    exact congrArg (Option.map _) held
  obtain ⟨later, there, same⟩ := exists_session swept
  exact ⟨later, there, same, same ▸ (sweep_coherent coherent config now).hasShape there⟩

/-- Whoever sits in a room with somebody who is given up is sent to the lobby, as what is left after
others have been dropped. -/
theorem sweep_of_shared (coherent : tables.Coherent)
    (held : tables.sessions.get? id = some session)
    (late : session.graceExpired config.reconnectTimeout now)
    (shared : tables.ShareRoom id other) (kept : other ∉ tables.forgotten config now) :
    ∃ companion, (tables.evicted config now).tables.sessions.get? other = some companion ∧
      (tables.sweep config now).tables.sessions.get? other = some companion.toLobby := by
  have agrees := evicted_coherent coherent config now
  have away := away_of_graceExpired late
  have together := shareRoom_evicted coherent held away shared config now
  have ⟨place, room, found, _, listed⟩ := together
  obtain ⟨companion, there, -⟩ := agrees.seated found listed
  have given : id ∈ tables.forgotten config now :=
    (mem_forgotten coherent config now id).2 ⟨session, held, late⟩
  exact ⟨companion, there,
    (Transition.foldl_expire_of_shared now agrees kept there given together).1⟩

/-! ## All that a sweep does -/

/-- What has become of the tables in a sweep, and what the players were told. -/
structure Swept (config : Config) (now : Time) (before : Tables) (step : Step) : Prop where
  /-- Everybody who was connected was asked once for a sign of life. -/
  asked : ∀ id session connection, before.sessions.get? id = some session →
    session.connection = some connection →
      (step.outbox.framesFor connection).filter (fun frame => frame.type == .ping) =
        [Transition.lifeRequest]
  /-- The slot of somebody who was silent and had not logged in is free. -/
  forgotten : ∀ id session, before.sessions.get? id = some session →
    session.isTimedOut config.heartbeatTimeout now → session.nick = none →
      ∃ later, step.tables.sessions.get? id = some later ∧ later.isFree
  /-- A player who was silent has lost the connection and nothing else, and was told so last. -/
  dropped : ∀ id session, before.sessions.get? id = some session →
    session.isTimedOut config.heartbeatTimeout now → session.nick.isSome →
      (∃ later, step.tables.sessions.get? id = some later ∧ later.nick = session.nick ∧
        later.token = session.token ∧ later.connection = none ∧ later.status = .disconnected ∧
          later.disconnectedAt = some now) ∧
        ∃ connection, session.connection = some connection ∧
          connection ∈ step.outbox.closing ∧
          (step.outbox.framesFor connection).getLast? = some Transition.lossNotice
  /-- The slot of a player who has stayed away is free, and the room is closed. -/
  expired : ∀ id session, before.sessions.get? id = some session →
    session.graceExpired config.reconnectTimeout now →
      (∃ later, step.tables.sessions.get? id = some later ∧ later.isFree) ∧
        ∀ place room, before.rooms.get? place = some room → id ∈ room.memberIds →
          step.tables.rooms.get? place = none
  /-- The others in the room of such a player are sent to the lobby, and told so once. -/
  companions : ∀ id session other companion, before.sessions.get? id = some session →
    session.graceExpired config.reconnectTimeout now → before.ShareRoom id other →
      before.sessions.get? other = some companion →
        companion.graceExpired config.reconnectTimeout now = false →
          ∃ later, step.tables.sessions.get? other = some later ∧ later.room = none ∧
            later.lastStatus = .connected ∧
            ∀ connection, companion.connection = some connection →
              companion.isTimedOut config.heartbeatTimeout now = false →
                later.status = .connected ∧
                  (step.outbox.framesFor connection).filter (fun frame => frame.type == .lobby) =
                    [Transition.closeNotice]
  /-- Nobody else loses the connection. -/
  connected : ∀ id session, before.sessions.get? id = some session →
    session.isTimedOut config.heartbeatTimeout now = false →
      ∃ later, step.tables.sessions.get? id = some later ∧ later.connection = session.connection
  /-- Nobody else loses name and token. -/
  known : ∀ id session, before.sessions.get? id = some session →
    session.graceExpired config.reconnectTimeout now = false →
      ∃ later, step.tables.sessions.get? id = some later ∧ later.nick = session.nick ∧
        later.token = session.token
  /-- Whoever sits in a room with none of them does not notice. -/
  apart : ∀ id session, before.sessions.get? id = some session →
    (∀ other companion, before.sessions.get? other = some companion →
      companion.isTimedOut config.heartbeatTimeout now ∨
        companion.graceExpired config.reconnectTimeout now →
      other ≠ id ∧ ¬before.ShareRoom other id) →
      step.tables.sessions.get? id = some session

theorem filter_tellsOfDrop {added : List Frame} (type : MessageType)
    (allowed : ∀ frame ∈ added, frame.type.tellsOfDrop) (other : type.tellsOfDrop = false) :
    added.filter (fun frame => frame.type == type) = [] := by
  refine List.filter_eq_nil_iff.2 fun frame listed same => ?_
  have told := allowed frame listed
  rw [beq_iff_eq.1 same, other] at told
  cases told

theorem sweep_asks (coherent : tables.Coherent) (only : tables.IsOnly connection id)
    (config : Config) (now : Time) :
    ((tables.sweep config now).outbox.framesFor connection).filter
        (fun frame => frame.type == .ping) = [Transition.lifeRequest] := by
  by_cases lost : id ∈ tables.sessions.timedOut config.heartbeatTimeout now
  · obtain ⟨-, added, frames, allowed⟩ := framesFor_sweep_of_lost coherent only lost
    have none := filter_tellsOfDrop .ping allowed rfl
    rw [frames, List.filter_cons_of_pos rfl, List.filter_append, none]
    rfl
  · have kept : id ∉ tables.forgotten config now := by
      intro listed
      obtain ⟨session, held, late⟩ := (mem_forgotten coherent config now id).1 listed
      have connected := (only id).2 rfl
      rw [connectionOf?, held, Option.bind_some] at connected
      have away := away_of_graceExpired late
      rw [Session.isConnected, connected] at away
      cases away
    obtain ⟨added, notice, frames, allowed, sort, -⟩ :=
      framesFor_sweep_of_spared coherent only lost kept
    have none := filter_tellsOfDrop .ping allowed rfl
    rw [frames, List.filter_cons_of_pos rfl, List.filter_append, none]
    rcases sort with rfl | rfl <;> rfl

theorem isFree_of_nobody (nobody : session.occupant = .nobody) : session.isFree := by
  have unbound : session.connection = none := congrArg Occupant.connection nobody
  have unnamed : session.nick = none := congrArg Occupant.nick nobody
  rw [Session.isFree, unbound, unnamed]
  rfl

theorem sweep_forgets (coherent : tables.Coherent) (held : tables.sessions.get? id = some session)
    (silent : session.isTimedOut config.heartbeatTimeout now) (unnamed : session.nick = none) :
    ∃ later, (tables.sweep config now).tables.sessions.get? id = some later ∧ later.isFree := by
  obtain ⟨later, there, same, -⟩ := exists_swept coherent held config now
  have nobody : session.occupant.leave now = .nobody :=
    if_neg (by simp [Session.occupant, unnamed])
  refine ⟨later, there, isFree_of_nobody ?_⟩
  rw [same, afterSweep_of_timedOut silent, nobody]

theorem sweep_drops (coherent : tables.Coherent) (held : tables.sessions.get? id = some session)
    (silent : session.isTimedOut config.heartbeatTimeout now) (named : session.nick.isSome) :
    ∃ later, (tables.sweep config now).tables.sessions.get? id = some later ∧
      later.nick = session.nick ∧ later.token = session.token ∧ later.connection = none ∧
        later.status = .disconnected ∧ later.disconnectedAt = some now := by
  obtain ⟨later, there, same, shaped⟩ := exists_swept coherent held config now
  have left : session.afterSweep config now =
      { session.occupant with connection := none, awaySince := some now } :=
    (afterSweep_of_timedOut silent).trans (if_pos named)
  have away : (session.afterSweep config now).shape = .away := by
    obtain ⟨nick, known⟩ := Option.isSome_iff_exists.1 named
    rw [left]
    simp only [Occupant.shape, Session.occupant, known]
  rw [left] at same
  rw [away] at shaped
  obtain ⟨-, -, -, -, status, -⟩ := shaped
  exact ⟨later, there, congrArg Occupant.nick same, congrArg Occupant.token same,
    congrArg Occupant.connection same, status, congrArg Occupant.awaySince same⟩

theorem sweep_notices (coherent : tables.Coherent) (only : tables.IsOnly connection id)
    (held : tables.sessions.get? id = some session)
    (silent : session.isTimedOut config.heartbeatTimeout now) :
    connection ∈ (tables.sweep config now).outbox.closing ∧
      ((tables.sweep config now).outbox.framesFor connection).getLast? =
        some Transition.lossNotice := by
  have lost := (mem_timedOut coherent config now id).2 ⟨session, held, silent⟩
  obtain ⟨closed, added, frames, -⟩ := framesFor_sweep_of_lost coherent only lost
  refine ⟨closed, ?_⟩
  rw [frames, ← List.cons_append, List.getLast?_concat]

theorem sweep_gives_up (coherent : tables.Coherent)
    (held : tables.sessions.get? id = some session)
    (late : session.graceExpired config.reconnectTimeout now) :
    (∃ later, (tables.sweep config now).tables.sessions.get? id = some later ∧ later.isFree) ∧
      ∀ place room, tables.rooms.get? place = some room → id ∈ room.memberIds →
        (tables.sweep config now).tables.rooms.get? place = none := by
  obtain ⟨later, there, same, -⟩ := exists_swept coherent held config now
  refine ⟨⟨later, there, isFree_of_nobody ?_⟩, fun place room found member => ?_⟩
  · rw [same, afterSweep_of_expired late]
  · have listed : id ∈ tables.forgotten config now :=
      (mem_forgotten coherent config now id).2 ⟨session, held, late⟩
    obtain ⟨still, found', members⟩ := exists_room_evicted coherent held
      (away_of_graceExpired late) found member config now
    exact Transition.foldl_expire_closes now (evicted_coherent coherent config now)
      (.inr ⟨still, found', id, listed, members ▸ member⟩)

/-- Somebody else in the room of a player who is given up. -/
theorem sweep_sends_to_lobby (coherent : tables.Coherent)
    (held : tables.sessions.get? id = some session)
    (late : session.graceExpired config.reconnectTimeout now)
    (shared : tables.ShareRoom id other) {companion : Session}
    (there : tables.sessions.get? other = some companion)
    (kept : companion.graceExpired config.reconnectTimeout now = false) :
    ∃ later, (tables.sweep config now).tables.sessions.get? other = some later ∧
      later.room = none ∧ later.lastStatus = .connected ∧
      ∀ connection, tables.IsOnly connection other →
        companion.isTimedOut config.heartbeatTimeout now = false →
          later.status = .connected ∧
            ((tables.sweep config now).outbox.framesFor connection).filter
              (fun frame => frame.type == .lobby) = [Transition.closeNotice] := by
  have absent : other ∉ tables.forgotten config now := by
    intro listed
    obtain ⟨own, there', expired⟩ := (mem_forgotten coherent config now other).1 listed
    rw [← Option.some.inj (there.symm.trans there'), kept] at expired
    cases expired
  obtain ⟨before, -, sent⟩ := sweep_of_shared coherent held late shared absent
  refine ⟨before.toLobby, sent, rfl, rfl, fun connection only spared => ?_⟩
  have awake : other ∉ tables.sessions.timedOut config.heartbeatTimeout now := by
    intro listed
    obtain ⟨own, there', silent⟩ := (mem_timedOut coherent config now other).1 listed
    rw [← Option.some.inj (there.symm.trans there'), spared] at silent
    cases silent
  constructor
  · obtain ⟨later, found, same, -⟩ := exists_swept coherent there config now
    obtain rfl : before.toLobby = later := Option.some.inj (sent.symm.trans found)
    have bound : companion.connection = some connection := by
      have connected := (only other).2 rfl
      rwa [connectionOf?, there, Option.bind_some] at connected
    rw [afterSweep_of_spared spared kept] at same
    have connected : before.connection = some connection :=
      (congrArg Occupant.connection same).trans bound
    have here : before.isConnected := by
      rw [Session.isConnected, connected]
      rfl
    exact if_pos here
  · obtain ⟨added, notice, frames, allowed, -, told⟩ :=
      framesFor_sweep_of_spared coherent only awake absent
    have given : id ∈ tables.forgotten config now :=
      (mem_forgotten coherent config now id).2 ⟨session, held, late⟩
    have none := filter_tellsOfDrop .lobby allowed rfl
    rw [frames, told id given shared, List.filter_cons_of_neg (by decide), List.filter_append, none]
    rfl

theorem sweep_keeps_connection (coherent : tables.Coherent)
    (held : tables.sessions.get? id = some session)
    (spared : session.isTimedOut config.heartbeatTimeout now = false) :
    ∃ later, (tables.sweep config now).tables.sessions.get? id = some later ∧
      later.connection = session.connection := by
  obtain ⟨later, there, same, -⟩ := exists_swept coherent held config now
  refine ⟨later, there, ?_⟩
  by_cases late : session.graceExpired config.reconnectTimeout now
  · have away := away_of_graceExpired late
    rw [Session.isConnected, Option.isSome_eq_false_iff, Option.isNone_iff_eq_none] at away
    rw [away]
    exact congrArg Occupant.connection (same.trans (afterSweep_of_expired late))
  · exact congrArg Occupant.connection
      (same.trans (afterSweep_of_spared spared (Bool.eq_false_iff.2 late)))

/-- Nobody has a token without a name. -/
theorem Coherent.token_of_unnamed (coherent : tables.Coherent)
    (held : tables.sessions.get? id = some session) (unnamed : session.nick = none) :
    session.token = none := by
  have shaped := coherent.hasShape held
  cases bound : session.connection <;>
    simp only [Occupant.shape, Session.occupant, unnamed, bound, Session.HasShape] at shaped
  · exact shaped.2.2.1
  · exact shaped.2.2.1

theorem sweep_keeps_identity (coherent : tables.Coherent)
    (held : tables.sessions.get? id = some session)
    (kept : session.graceExpired config.reconnectTimeout now = false) :
    ∃ later, (tables.sweep config now).tables.sessions.get? id = some later ∧
      later.nick = session.nick ∧ later.token = session.token := by
  by_cases silent : session.isTimedOut config.heartbeatTimeout now
  · by_cases named : session.nick.isSome
    · obtain ⟨later, there, nick, token, -⟩ := sweep_drops coherent held silent named
      exact ⟨later, there, nick, token⟩
    · have unnamed : session.nick = none := by
        simpa using named
      obtain ⟨later, there, same, -⟩ := exists_swept coherent held config now
      have nobody : session.occupant.leave now = .nobody := if_neg named
      rw [afterSweep_of_timedOut silent, nobody] at same
      rw [unnamed, coherent.token_of_unnamed held unnamed]
      exact ⟨later, there, congrArg Occupant.nick same, congrArg Occupant.token same⟩
  · obtain ⟨later, there, same, -⟩ := exists_swept coherent held config now
    rw [afterSweep_of_spared (Bool.eq_false_iff.2 silent) kept] at same
    exact ⟨later, there, congrArg Occupant.nick same, congrArg Occupant.token same⟩

theorem Coherent.swept (coherent : tables.Coherent) {came : List Nat}
    (once : ConnectedOnce came tables.occupants) (config : Config) (now : Time) :
    tables.Swept config now (tables.sweep config now) where
  asked id session connection held bound :=
    sweep_asks coherent (isOnly_of_connectedOnce once
      (connectionOf?_eq_some.2 ⟨session, held, bound⟩)) config now
  forgotten id session held silent unnamed := sweep_forgets coherent held silent unnamed
  dropped id session held silent named := by
    obtain ⟨connection, bound⟩ := Option.isSome_iff_exists.1 (Bool.and_eq_true_iff.1 silent).1
    have only := isOnly_of_connectedOnce once
      (connectionOf?_eq_some.2 ⟨session, held, bound⟩)
    exact ⟨sweep_drops coherent held silent named, connection, bound,
      sweep_notices coherent only held silent⟩
  expired id session held late := sweep_gives_up coherent held late
  companions id session other companion held late shared there kept := by
    obtain ⟨later, found, outside, last, present⟩ :=
      sweep_sends_to_lobby coherent held late shared there kept
    refine ⟨later, found, outside, last, fun connection bound spared => ?_⟩
    exact present connection (isOnly_of_connectedOnce once
      (connectionOf?_eq_some.2 ⟨companion, there, bound⟩)) spared
  connected id session held spared := sweep_keeps_connection coherent held spared
  known id session held kept := sweep_keeps_identity coherent held kept
  apart id session held apart := (sweep_of_apart coherent apart).trans held

/-- Whatever has happened to a server since it was started, as long as no connection comes twice, a
sweep at any time does this and no more. -/
theorem run_swept (config : Config) (started : Time) {events : List Event}
    (fresh : (events.filterMap Event.arrival?).Nodup) (now : Time) :
    (run config started events).Swept config now ((run config started events).sweep config now) :=
  (run_coherent config started events).swept (run_connectedOnce config started fresh) config now

/-- Of two players in a match one has stayed away and the other one is there, and two others have
been silent, one of whom has not logged in. -/
theorem swept_of_four :
    let now : Time := Time.seconds 200
    let send (slot : Nat) (type : MessageType) (payload : String) : Event :=
      .frame { now := 1, token := .nth slot, shuffle := .still } slot slot { type, payload }
    let alive : Event :=
      .frame { now := now - 1, token := .nth 0, shuffle := .still } 0 0
        { type := .pong, payload := "" }
    let events : List Event :=
      [.accept 0 0, .accept 0 1, .accept 0 2, .accept 0 3,
        send 0 .login "ann", send 1 .login "ben", send 2 .login "cal",
        send 0 .createRoom "den", send 1 .joinRoom "0", send 0 .ready "1", send 1 .ready "1",
        send 0 .start "", .disconnect 5 1 1, alive]
    let tables := run {} 0 events
    (events.filterMap Event.arrival?).Nodup ∧
      tables.sessions.timedOut ({} : Config).heartbeatTimeout now = [2, 3] ∧
      tables.sessions.expired ({} : Config).reconnectTimeout now = [1] ∧
      (tables.rooms.get? 0).map Room.memberIds = some [0, 1] ∧
      tables.Swept {} now (tables.sweep {} now) := by
  intro now send alive events tables
  have fresh : (events.filterMap Event.arrival?).Nodup := by decide
  have silent : tables.sessions.timedOut ({} : Config).heartbeatTimeout now = [2, 3] := by
    decide +kernel
  have late : tables.sessions.expired ({} : Config).reconnectTimeout now = [1] := by
    decide +kernel
  have shared : (tables.rooms.get? 0).map Room.memberIds = some [0, 1] := by
    decide +kernel
  exact ⟨fresh, silent, late, shared, run_swept {} 0 fresh now⟩

end Tables

end Cardroom
