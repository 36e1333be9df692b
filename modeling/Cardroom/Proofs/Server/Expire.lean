import Cardroom.Proofs.Server.Evict

/-!
# What giving up players does to the others

When a player is given up, everybody else in the room is sent to the lobby and told so once, and
nobody elsewhere notices. When several players are given up one after the other, it makes no
difference whether one of them or more sat in a room.
-/

namespace Cardroom

def Tables.ShareRoom (first second : Nat) (tables : Tables) : Prop :=
  ∃ place room, tables.rooms.get? place = some room ∧
    first ∈ room.memberIds ∧ second ∈ room.memberIds

namespace Tables

variable {tables : Tables} {first second third place : Nat} {room : Room}

/-- Nobody sits in two rooms. -/
theorem Coherent.shareRoom_iff_mem (coherent : tables.Coherent)
    (found : tables.rooms.get? place = some room) (member : first ∈ room.memberIds) :
    tables.ShareRoom first second ↔ second ∈ room.memberIds := by
  constructor
  · rintro ⟨other, elsewhere, found', member', listed⟩
    obtain ⟨session, held, noted⟩ := coherent.seated found member
    obtain ⟨session', held', noted'⟩ := coherent.seated found' member'
    obtain rfl : session = session' := Option.some.inj (held.symm.trans held')
    obtain rfl : place = other := Option.some.inj (noted.symm.trans noted')
    obtain rfl : room = elsewhere := Option.some.inj (found.symm.trans found')
    exact listed
  · exact fun listed => ⟨place, room, found, member, listed⟩

theorem ShareRoom.symm (shared : tables.ShareRoom first second) :
    tables.ShareRoom second first := by
  obtain ⟨place, room, found, member, listed⟩ := shared
  exact ⟨place, room, found, listed, member⟩

theorem Coherent.shareRoom_trans (coherent : tables.Coherent)
    (sooner : tables.ShareRoom first second) (later : tables.ShareRoom second third) :
    tables.ShareRoom first third := by
  obtain ⟨place, room, found, member, listed⟩ := sooner
  exact ⟨place, room, found, member, (coherent.shareRoom_iff_mem found listed).1 later⟩

end Tables

namespace Transition

def closeNotice : Frame where
  type := .lobby
  payload := "Opponent did not reconnect in time"

variable {state : Transition} {id other connection place : Nat} {ids : List Nat} {room : Room}
  {session : Session} (now : Time)

theorem roomOf?_of_mem (coherent : state.tables.Coherent)
    (found : state.rooms.get? place = some room) (member : id ∈ room.memberIds) :
    state.roomOf? id = some place := by
  obtain ⟨session, held, noted⟩ := coherent.seated found member
  have held : state.sessions.get? id = some session := held
  rw [roomOf?, held]
  exact noted

/-- A player who is given up sat in no room, or in one that is closed. -/
theorem expire_cases (coherent : state.tables.Coherent) (id : Nat) :
    (state.expire id now = state.release id now ∧ ∀ other, ¬state.tables.ShareRoom id other) ∨
      ∃ place room, state.rooms.get? place = some room ∧ id ∈ room.memberIds ∧
        state.expire id now = (state.abandonRoom id place room).release id now := by
  unfold expire
  split
  · next nowhere =>
      refine .inl ⟨rfl, ?_⟩
      rintro other ⟨place, room, found, member, -⟩
      have found : state.rooms.get? place = some room := found
      rw [roomOf?_of_mem coherent found member, Option.bind_some, found] at nowhere
      cases nowhere
  · next place room located =>
      obtain ⟨_, noted, there⟩ := Option.bind_eq_some_iff.1 located
      obtain ⟨_, found, same⟩ := Option.map_eq_some_iff.1 there
      cases same
      obtain ⟨session, held, noted⟩ := Option.bind_eq_some_iff.1 noted
      exact .inr ⟨place, room, found, (coherent.member found held noted).1, rfl⟩

/-- The room of a player who is given up is closed, and no other one. -/
theorem get?_rooms_expire (coherent : state.tables.Coherent) (id place : Nat) :
    (state.expire id now).rooms.get? place =
      if state.roomOf? id = some place then none else state.rooms.get? place := by
  rcases expire_cases now coherent id with ⟨equal, alone⟩ | ⟨home, room, found, member, equal⟩
  · rw [equal, if_neg]
    · rfl
    · intro noted
      obtain ⟨session, held, noted⟩ := Option.bind_eq_some_iff.1 noted
      obtain ⟨room, found⟩ := coherent.noted held noted
      have member := (coherent.member found held noted).1
      exact alone id ⟨place, room, found, member, member⟩
  · have rooms : (state.abandonRoom id home room).rooms = state.rooms.remove home :=
      congrArg Tables.rooms (abandonRoom_tables id home room state)
    rw [equal, roomOf?_of_mem coherent found member]
    show (state.abandonRoom id home room).rooms.get? place = _
    rw [rooms, RoomTable.remove, RoomTable.get?_set_none]
    simp only [Option.some.injEq]

theorem connectionOf?_expire (id other : Nat) (state : Transition) :
    (state.expire id now).tables.connectionOf? other =
      if id = other then none else state.tables.connectionOf? other := by
  rw [Tables.connectionOf?_eq, Tables.connectionOf?_eq, expire_occupants, List.getElem?_modify]
  cases state.tables.occupants[other]? with
  | none =>
      simp
  | some occupant =>
      split <;> rfl

theorem isOnly_expire (only : state.tables.IsOnly connection other) (different : id ≠ other) :
    (state.expire id now).tables.IsOnly connection other := by
  intro next
  rw [connectionOf?_expire]
  split
  · next here =>
      exact ⟨nofun, fun same => absurd (here.trans same) different⟩
  · exact only next

theorem get?_abandonRoom (distinct : room.memberIds.Nodup) (different : id ≠ other) :
    ((state.abandonRoom id place room).release id now).sessions.get? other =
      if other ∈ room.memberIds then (state.sessions.get? other).map Session.toLobby
      else state.sessions.get? other := by
  have sessions : (state.abandonRoom id place room).sessions = (room.others id).foldl
      (fun table other => table.modify other Session.toLobby) state.sessions :=
    congrArg Tables.sessions (abandonRoom_tables id place room state)
  have sent := SessionTable.get?_foldl_modify (distinct.filter (· != id)) other
    (fun _ => Session.toLobby) state.sessions
  rw [release, SessionTable.release, SessionTable.get?_modify, if_neg different, sessions]
  refine sent.trans ?_
  simp [different.symm]

/-- Who sat in the room is sent to the lobby. -/
theorem get?_expire_of_shared (coherent : state.tables.Coherent)
    (shared : state.tables.ShareRoom id other) (different : id ≠ other) :
    (state.expire id now).sessions.get? other =
      (state.sessions.get? other).map Session.toLobby := by
  rcases expire_cases now coherent id with ⟨-, alone⟩ | ⟨place, room, found, member, equal⟩
  · exact absurd shared (alone other)
  · have listed := (coherent.shareRoom_iff_mem found member).1 shared
    rw [equal, get?_abandonRoom now (coherent.sound found).distinct different, if_pos listed]

theorem get?_expire_of_apart (coherent : state.tables.Coherent)
    (apart : ¬state.tables.ShareRoom id other) (different : id ≠ other) :
    (state.expire id now).sessions.get? other = state.sessions.get? other := by
  rcases expire_cases now coherent id with ⟨equal, -⟩ | ⟨place, room, found, member, equal⟩
  · rw [equal, release, SessionTable.release, SessionTable.get?_modify, if_neg different]
  · have absent := mt (coherent.shareRoom_iff_mem found member).2 apart
    rw [equal, get?_abandonRoom now (coherent.sound found).distinct different, if_neg absent]

theorem sendToLobby_framesFor (connection other : Nat) (state : Transition) :
    ((state.modifySession other Session.toLobby).reply other .lobby
        closeNotice.payload).outbox.framesFor connection =
      state.outbox.framesFor connection ++
        if state.tables.connectionOf? other = some connection then [closeNotice] else [] := by
  have same : (state.modifySession other Session.toLobby).tables.occupants =
      state.tables.occupants :=
    modifySession_occupants fun _ => rfl
  rw [framesFor_reply, Tables.connectionOf?_congr same]
  rfl

theorem sendToLobby_occupants (other : Nat) (state : Transition) :
    ((state.modifySession other Session.toLobby).reply other .lobby
        closeNotice.payload).tables.occupants = state.tables.occupants :=
  modifySession_occupants fun _ => rfl

theorem abandonRoom_framesFor_of_mem (distinct : room.memberIds.Nodup)
    (listed : other ∈ room.others id) (only : state.tables.IsOnly connection other) :
    (state.abandonRoom id place room).outbox.framesFor connection =
      state.outbox.framesFor connection ++ [closeNotice] := by
  refine listen_foldl (Outbox.framesFor connection) (fun other => other) (fun _ => [closeNotice])
    (fun state other => sendToLobby_framesFor connection other state)
    (fun state other => sendToLobby_occupants other state) ?_ ?_ only
  · rw [List.map_id']
    exact distinct.filter _
  · rw [List.map_id']
    exact listed

theorem abandonRoom_framesFor_of_absent
    (absent : ∀ other ∈ room.others id, state.tables.connectionOf? other ≠ some connection) :
    (state.abandonRoom id place room).outbox.framesFor connection =
      state.outbox.framesFor connection :=
  listen_foldl_of_absent (Outbox.framesFor connection) (fun other => other)
    (fun _ => [closeNotice]) (fun state other => sendToLobby_framesFor connection other state)
    (fun state other => sendToLobby_occupants other state) absent

/-- Who sat in the room is told so once. -/
theorem expire_framesFor_of_shared (coherent : state.tables.Coherent)
    (shared : state.tables.ShareRoom id other) (different : id ≠ other)
    (only : state.tables.IsOnly connection other) :
    (state.expire id now).outbox.framesFor connection =
      state.outbox.framesFor connection ++ [closeNotice] := by
  rcases expire_cases now coherent id with ⟨-, alone⟩ | ⟨place, room, found, member, equal⟩
  · exact absurd shared (alone other)
  · have listed := (coherent.shareRoom_iff_mem found member).1 shared
    rw [equal]
    exact abandonRoom_framesFor_of_mem (coherent.sound found).distinct
      (Room.mem_others.2 ⟨listed, different.symm⟩) only

theorem expire_framesFor_of_apart (coherent : state.tables.Coherent)
    (apart : ∀ other, state.tables.ShareRoom id other → id ≠ other →
      state.tables.connectionOf? other ≠ some connection) :
    (state.expire id now).outbox.framesFor connection = state.outbox.framesFor connection := by
  rcases expire_cases now coherent id with ⟨equal, -⟩ | ⟨place, room, found, member, equal⟩
  · rw [equal]
    rfl
  · rw [equal]
    refine abandonRoom_framesFor_of_absent fun other listed => ?_
    obtain ⟨listed, different⟩ := Room.mem_others.1 listed
    exact apart other ((coherent.shareRoom_iff_mem found member).2 listed) different.symm

theorem expire_closing (coherent : state.tables.Coherent) (id : Nat) :
    (state.expire id now).outbox.closing = state.outbox.closing := by
  rcases expire_cases now coherent id with ⟨equal, -⟩ | ⟨place, room, -, -, equal⟩
  · rw [equal]
    rfl
  · have told : (state.abandonRoom id place room).Tells (· == .lobby) state := by
      refine Tells.foldl _ (fun other sofar => Tells.reply ?_ rfl other)
        ((Tells.refl state).withRooms _)
      exact sofar.modifySession other fun _ => rfl
    rw [equal]
    exact told.queued.closing

theorem shareRoom_expire (coherent : state.tables.Coherent) (id first second : Nat) :
    (state.expire id now).tables.ShareRoom first second ↔
      state.tables.ShareRoom first second ∧ ¬state.tables.ShareRoom id first := by
  constructor
  · rintro ⟨place, room, found, member, listed⟩
    rw [tables_rooms, get?_rooms_expire now coherent] at found
    split at found
    · cases found
    · next elsewhere =>
        refine ⟨⟨place, room, found, member, listed⟩, fun shared => elsewhere ?_⟩
        have here := (coherent.shareRoom_iff_mem found member).1 shared.symm
        exact roomOf?_of_mem coherent found here
  · rintro ⟨⟨place, room, found, member, listed⟩, apart⟩
    refine ⟨place, room, ?_, member, listed⟩
    rw [tables_rooms, get?_rooms_expire now coherent, if_neg]
    · exact found
    · intro noted
      obtain ⟨session, held, noted⟩ := Option.bind_eq_some_iff.1 noted
      exact apart ⟨place, room, found, (coherent.member found held noted).1, member⟩

/-- Who sat in no room with any of them does not notice. -/
theorem foldl_expire_of_apart (coherent : state.tables.Coherent) (spared : other ∉ ids)
    (held : state.sessions.get? other = some session)
    (apart : ∀ id ∈ ids, ¬state.tables.ShareRoom id other) :
    let after := ids.foldl (fun state id => state.expire id now) state
    after.sessions.get? other = some session ∧
      ∀ connection, state.tables.IsOnly connection other →
        after.outbox.framesFor connection = state.outbox.framesFor connection := by
  induction ids generalizing state with
  | nil =>
      exact ⟨held, fun _ _ => rfl⟩
  | cons id ids inductionHypothesis =>
      rw [List.mem_cons, not_or] at spared
      have alone := apart id List.mem_cons_self
      have later : ∀ next ∈ ids, ¬(state.expire id now).tables.ShareRoom next other := by
        intro next listed shared
        exact apart next (List.mem_cons_of_mem id listed)
          ((shareRoom_expire now coherent id next other).1 shared).1
      obtain ⟨still, silent⟩ := inductionHypothesis (expire_coherent coherent id now) spared.2
        ((get?_expire_of_apart now coherent alone (Ne.symm spared.1)).trans held) later
      refine ⟨still, fun connection only => ?_⟩
      refine (silent connection (isOnly_expire now only (Ne.symm spared.1))).trans ?_
      refine expire_framesFor_of_apart now coherent fun next together _ bound => ?_
      exact alone ((only next).1 bound ▸ together)

/-- Who sat in a room with one of them is sent to the lobby, and told so once. -/
theorem foldl_expire_of_shared (coherent : state.tables.Coherent) (spared : other ∉ ids)
    (held : state.sessions.get? other = some session) (listed : id ∈ ids)
    (shared : state.tables.ShareRoom id other) :
    let after := ids.foldl (fun state id => state.expire id now) state
    after.sessions.get? other = some session.toLobby ∧
      ∀ connection, state.tables.IsOnly connection other →
        after.outbox.framesFor connection =
          state.outbox.framesFor connection ++ [closeNotice] := by
  induction ids generalizing state with
  | nil =>
      cases listed
  | cons first ids inductionHypothesis =>
      rw [List.mem_cons, not_or] at spared
      have different : first ≠ other := Ne.symm spared.1
      have agrees := expire_coherent coherent first now
      by_cases here : state.tables.ShareRoom first other
      -- The room goes with the first one, and nobody shares it any more.
      · have sent : (state.expire first now).sessions.get? other = some session.toLobby := by
          rw [get?_expire_of_shared now coherent here different, held, Option.map_some]
        have gone : ∀ next ∈ ids, ¬(state.expire first now).tables.ShareRoom next other := by
          intro next _ shared
          obtain ⟨shared, apart⟩ := (shareRoom_expire now coherent first next other).1 shared
          exact apart (coherent.shareRoom_trans here shared.symm)
        obtain ⟨still, silent⟩ := foldl_expire_of_apart now agrees spared.2 sent gone
        refine ⟨still, fun connection only => ?_⟩
        rw [List.foldl_cons, silent connection (isOnly_expire now only different),
          expire_framesFor_of_shared now coherent here different only]
      · have later : id ∈ ids := by
          refine (List.mem_cons.1 listed).resolve_left ?_
          rintro rfl
          exact here shared
        have held' : (state.expire first now).sessions.get? other = some session :=
          (get?_expire_of_apart now coherent here different).trans held
        have shared' : (state.expire first now).tables.ShareRoom id other := by
          refine (shareRoom_expire now coherent first id other).2 ⟨shared, fun together => ?_⟩
          exact here (coherent.shareRoom_trans together shared)
        obtain ⟨sent, told⟩ := inductionHypothesis agrees spared.2 held' later shared'
        refine ⟨sent, fun connection only => ?_⟩
        refine (told connection (isOnly_expire now only different)).trans
          (congrArg (· ++ [closeNotice]) ?_)
        refine expire_framesFor_of_apart now coherent fun next together _ bound => ?_
        exact here ((only next).1 bound ▸ together)

/-- Nothing more is said to a connection that is not bound to any slot. -/
theorem foldl_expire_of_unheard (coherent : state.tables.Coherent) (ids : List Nat)
    (unheard : ¬state.tables.IsHeard connection) :
    (ids.foldl (fun state id => state.expire id now) state).outbox.framesFor connection =
      state.outbox.framesFor connection := by
  induction ids generalizing state with
  | nil =>
      rfl
  | cons id ids inductionHypothesis =>
      have still : ¬(state.expire id now).tables.IsHeard connection := by
        rintro ⟨other, bound⟩
        rw [connectionOf?_expire] at bound
        split at bound
        · cases bound
        · exact unheard ⟨other, bound⟩
      rw [List.foldl_cons, inductionHypothesis (expire_coherent coherent id now) still]
      exact expire_framesFor_of_apart now coherent fun other _ _ bound => unheard ⟨other, bound⟩

theorem foldl_expire_closing (coherent : state.tables.Coherent) (ids : List Nat) :
    (ids.foldl (fun state id => state.expire id now) state).outbox.closing =
      state.outbox.closing := by
  induction ids generalizing state with
  | nil =>
      rfl
  | cons id ids inductionHypothesis =>
      rw [List.foldl_cons, inductionHypothesis (expire_coherent coherent id now),
        expire_closing now coherent id]

/-- A room is closed when any of its members is given up. -/
theorem foldl_expire_closes (coherent : state.tables.Coherent)
    (ended : state.rooms.get? place = none ∨
      ∃ room, state.rooms.get? place = some room ∧ ∃ id ∈ ids, id ∈ room.memberIds) :
    (ids.foldl (fun state id => state.expire id now) state).rooms.get? place = none := by
  induction ids generalizing state with
  | nil =>
      simpa using ended
  | cons first ids inductionHypothesis =>
      refine inductionHypothesis (expire_coherent coherent first now) ?_
      rw [get?_rooms_expire now coherent]
      by_cases here : state.roomOf? first = some place
      · exact .inl (if_pos here)
      · rw [if_neg here]
        refine ended.imp_right ?_
        rintro ⟨room, found, id, listed, member⟩
        refine ⟨room, found, id, (List.mem_cons.1 listed).resolve_left ?_, member⟩
        rintro rfl
        exact here (roomOf?_of_mem coherent found member)

end Transition

end Cardroom
