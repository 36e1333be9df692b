import Cardroom.Proofs.Server.Coherent

/-!
# Changes that keep the tables in agreement

Every operation of the server changes a session by itself, or one room together with the sessions of
its members. The theorems say for each kind of change what has to be known of it for the two tables
to agree as before.
-/

namespace Cardroom.Tables.Coherent

variable {before after : Tables} {place : Nat}

/-- One room changes, and with it sessions of players who were in it or in none. -/
theorem update (coherent : before.Coherent) (change : Nat → Session → Session)
    (changed : ∀ id, after.sessions.get? id = (before.sessions.get? id).map (change id))
    (elsewhere : before.rooms.EqExcept place after.rooms)
    (affected : ∀ {id session}, before.sessions.get? id = some session →
      session.room ≠ some place ∧ change id session = session ∨
        (session.room = none ∨ session.room = some place) ∧
          (change id session).id = session.id ∧ (change id session).Sits after.rooms)
    (sound : ∀ {room}, after.rooms.get? place = some room → room.IsSound place)
    (seated : ∀ {room member}, after.rooms.get? place = some room → member ∈ room.memberIds →
      ∃ session, before.sessions.get? member = some session ∧
        (change member session).room = some place) :
    after.Coherent where
  numbered := by
    intro id session held
    rw [changed] at held
    obtain ⟨earlier, there, rfl⟩ := Option.map_eq_some_iff.1 held
    rcases affected there with ⟨_, same⟩ | ⟨_, same, _⟩
    · rw [same]
      exact coherent.numbered there
    · rw [same]
      exact coherent.numbered there
  sits := by
    intro id session held
    rw [changed] at held
    obtain ⟨earlier, there, rfl⟩ := Option.map_eq_some_iff.1 held
    rcases affected there with ⟨apart, same⟩ | ⟨_, _, sits⟩
    · rw [same]
      exact (coherent.sits there).of_eqExcept elsewhere apart
    · exact sits
  sound := by
    intro id room found
    by_cases here : id = place
    · subst here
      exact sound found
    · rw [elsewhere id here] at found
      exact coherent.sound found
  seated := by
    intro id room member found present
    by_cases here : id = place
    · subst here
      obtain ⟨session, held, noted⟩ := seated found present
      exact ⟨_, by rw [changed, held]; rfl, noted⟩
    · rw [elsewhere id here] at found
      obtain ⟨session, held, noted⟩ := coherent.seated found present
      have same : change member session = session := by
        rcases affected held with ⟨_, same⟩ | ⟨nowhere | other, _⟩
        · exact same
        · rw [noted] at nowhere
          cases nowhere
        · rw [noted] at other
          exact absurd (Option.some.inj other) here
      exact ⟨session, by rw [changed, held, Option.map_some, same], noted⟩

/-- A session changes and agrees with the rooms as before. -/
theorem modify {id : Nat} {change : Session → Session} (coherent : before.Coherent)
    (kept : ∀ {session}, before.sessions.get? id = some session →
      (change session).id = session.id ∧ (change session).room = session.room ∧
        (change session).Sits before.rooms) :
    Coherent { before with sessions := before.sessions.modify id change } where
  numbered := by
    intro other session held
    rw [SessionTable.get?_modify] at held
    split at held
    · next here =>
        subst here
        obtain ⟨earlier, there, rfl⟩ := Option.map_eq_some_iff.1 held
        exact (kept there).1.trans (coherent.numbered there)
    · exact coherent.numbered held
  sits := by
    intro other session held
    rw [SessionTable.get?_modify] at held
    split at held
    · next here =>
        subst here
        obtain ⟨earlier, there, rfl⟩ := Option.map_eq_some_iff.1 held
        exact (kept there).2.2
    · exact coherent.sits held
  sound := coherent.sound
  seated := by
    intro room found member there present
    obtain ⟨session, held, noted⟩ := coherent.seated there present
    simp only [SessionTable.get?_modify]
    by_cases here : id = member
    · subst here
      exact ⟨change session, by simp [held], (kept held).2.1.trans noted⟩
    · exact ⟨session, by simp [here, held], noted⟩

/-- A session outside the rooms changes and stays there. -/
theorem modify_outside {id : Nat} {session : Session} {change : Session → Session}
    (coherent : before.Coherent) (held : before.sessions.get? id = some session)
    (nowhere : session.room = none) (same : (change session).id = session.id)
    (still : (change session).room = none) (outside : (change session).IsOutside) :
    Coherent { before with sessions := before.sessions.modify id change } := by
  apply coherent.modify
  intro other there
  obtain rfl : session = other := Option.some.inj (held.symm.trans there)
  exact ⟨same, still.trans nowhere.symm, .outside still outside⟩

/-- A room changes together with the sessions of its members, of whom some may leave. -/
theorem updateMembers {room : Room} (coherent : before.Coherent)
    (found : before.rooms.get? place = some room) (change : Nat → Session → Session)
    (changed : ∀ id, after.sessions.get? id =
      if id ∈ room.memberIds then (before.sessions.get? id).map (change id)
      else before.sessions.get? id)
    (elsewhere : before.rooms.EqExcept place after.rooms)
    (settled : ∀ {id session}, before.sessions.get? id = some session → session.id = id →
      id ∈ room.memberIds → session.room = some place → room.Suits session →
        (change id session).id = session.id ∧ (change id session).Sits after.rooms)
    (later : ∀ {left}, after.rooms.get? place = some left →
      left.IsSound place ∧ ∀ {id}, id ∈ left.memberIds →
        id ∈ room.memberIds ∧ ∀ session, (change id session).room = session.room) :
    after.Coherent := by
  refine coherent.update
    (fun id session => if id ∈ room.memberIds then change id session else session)
    ?_ elsewhere ?_ (fun there => (later there).1) ?_
  · intro id
    rw [changed]
    split
    · rfl
    · rw [Option.map_id']
  · intro id session held
    by_cases here : id ∈ room.memberIds
    · obtain ⟨other, held', noted, fits⟩ := coherent.suits found here
      obtain rfl : session = other := Option.some.inj (held.symm.trans held')
      rw [if_pos here]
      exact .inr ⟨.inr noted, settled held (coherent.numbered held) here noted fits⟩
    · refine .inl ⟨fun noted => here (coherent.member found held noted).1, ?_⟩
      rw [if_neg here]
  · intro left id there present
    obtain ⟨here, same⟩ := (later there).2 present
    obtain ⟨session, held, noted, fits⟩ := coherent.suits found here
    exact ⟨session, held, by rw [if_pos here, same, noted]⟩

/-- A room changes but keeps its members, and their sessions change with it. -/
theorem refit {room refitted : Room} (coherent : before.Coherent)
    (found : before.rooms.get? place = some room) (change : Nat → Session → Session)
    (changed : ∀ id, after.sessions.get? id =
      if id ∈ room.memberIds then (before.sessions.get? id).map (change id)
      else before.sessions.get? id)
    (elsewhere : before.rooms.EqExcept place after.rooms)
    (now : after.rooms.get? place = some refitted)
    (members : refitted.memberIds = room.memberIds)
    (sound : refitted.IsSound place)
    (still : ∀ id session, (change id session).id = session.id ∧
      (change id session).room = session.room)
    (suits : ∀ {id session}, before.sessions.get? id = some session → session.id = id →
      id ∈ room.memberIds → room.Suits session → refitted.Suits (change id session)) :
    after.Coherent := by
  refine coherent.updateMembers found change changed elsewhere ?_ ?_
  · intro id session held numbered here noted fits
    refine ⟨(still id session).1, .inside ((still id session).2.trans noted) now ?_
      (suits held numbered here fits)⟩
    rw [(still id session).1, members, numbered]
    exact here
  · intro left there
    rw [now] at there
    cases there
    rw [members]
    exact ⟨sound, fun here => ⟨here, fun session => (still _ session).2⟩⟩

/-- A room changes but keeps its members, and all sessions stay as they are. -/
theorem refitRoom {room refitted : Room} (coherent : before.Coherent)
    (found : before.rooms.get? place = some room) (sessions : after.sessions = before.sessions)
    (elsewhere : before.rooms.EqExcept place after.rooms)
    (now : after.rooms.get? place = some refitted)
    (members : refitted.memberIds = room.memberIds)
    (sound : refitted.IsSound place)
    (suits : ∀ {session}, room.Suits session → refitted.Suits session) :
    after.Coherent := by
  refine coherent.refit found (fun _ session => session) ?_ elsewhere now members sound
    (fun _ _ => ⟨rfl, rfl⟩) fun _ _ _ fits => suits fits
  intro id
  rw [sessions, Option.map_id', ite_self]

/-- A room is closed, and its members are sent out of it. -/
theorem dissolve {room : Room} (coherent : before.Coherent)
    (found : before.rooms.get? place = some room) (change : Nat → Session → Session)
    (changed : ∀ id, after.sessions.get? id =
      if id ∈ room.memberIds then (before.sessions.get? id).map (change id)
      else before.sessions.get? id)
    (elsewhere : before.rooms.EqExcept place after.rooms)
    (gone : after.rooms.get? place = none)
    (leaves : ∀ {id session}, session.id = id → id ∈ room.memberIds → room.Suits session →
      (change id session).id = session.id ∧ (change id session).room = none ∧
        (change id session).IsOutside) :
    after.Coherent := by
  refine coherent.updateMembers found change changed elsewhere ?_ ?_
  · intro id session held numbered here noted fits
    obtain ⟨same, nowhere, outside⟩ := leaves numbered here fits
    exact ⟨same, .outside nowhere outside⟩
  · intro left there
    rw [gone] at there
    cases there

/-- A member leaves a room without a match, and those who stay behind are seated again. -/
theorem withdraw {room : Room} {leaver : Nat} {depart : Session → Session}
    (coherent : before.Coherent) (found : before.rooms.get? place = some room)
    (idle : room.game = none) (member : leaver ∈ room.memberIds)
    (changed : ∀ id, after.sessions.get? id =
      if id = leaver then (before.sessions.get? id).map depart
      else if id ∈ room.others leaver then (before.sessions.get? id).map Session.reseat
      else before.sessions.get? id)
    (elsewhere : before.rooms.EqExcept place after.rooms)
    (left : (room.others leaver = [] ∧ after.rooms.get? place = none) ∨
      ∃ left, after.rooms.get? place = some left ∧ left.id = room.id ∧
        left.memberIds = room.others leaver ∧ left.game = none ∧
        left.status ≠ .playing ∧ left.status ≠ .finished)
    (departs : ∀ {session}, session.id = leaver → room.Suits session →
      (depart session).id = session.id ∧ (depart session).room = none ∧
        (depart session).IsOutside) :
    after.Coherent := by
  have sound := coherent.sound found
  refine coherent.updateMembers found
    (fun id session => if id = leaver then depart session else session.reseat)
    ?_ elsewhere ?_ ?_
  · intro id
    rw [changed]
    by_cases leaves : id = leaver
    · subst leaves
      simp [member]
    · simp [Room.mem_others, leaves]
  · intro id session held numbered here noted fits
    by_cases leaves : id = leaver
    · obtain ⟨same, nowhere, outside⟩ := departs (numbered.trans leaves) fits
      simp only [leaves, if_true]
      exact ⟨same, .outside nowhere outside⟩
    · have other : id ∈ room.others leaver := Room.mem_others.2 ⟨here, leaves⟩
      rcases left with ⟨empty, _⟩ | ⟨left, now, _, members, resting, _, unfinished⟩
      · rw [empty] at other
        cases other
      · simp only [leaves, if_false]
        have connected := (fits.idle idle).1
        have same := session.sameButStatus_reseat
        refine ⟨same.id_eq, .inside (same.room_eq.trans noted) now ?_
          (.of_idle (same.isKnown fits.known) resting ?_ ?_)⟩
        · rw [same.id_eq, members, numbered]
          exact other
        · rw [same.isConnected_eq]
          exact connected
        · rw [Session.reseat_status connected, Room.idleStatus, if_neg unfinished]
  · intro remaining there
    rcases left with ⟨_, gone⟩ | ⟨left, now, same, members, resting, waiting, _⟩
    · rw [gone] at there
      cases there
    · rw [now] at there
      cases there
      refine ⟨.of_idle (same.trans sound.numbered) ?_ ?_ resting waiting, ?_⟩
      · rw [members]
        exact sound.distinct.filter _
      · rw [members]
        exact Nat.le_trans (List.length_filter_le _ _) sound.space
      · intro id present
        rw [members] at present
        obtain ⟨here, stays⟩ := Room.mem_others.1 present
        refine ⟨here, fun session => ?_⟩
        rw [if_neg stays]
        exact session.sameButStatus_reseat.room_eq

/-- A player from the lobby goes into a room that is new, or that has a free place. -/
theorem welcome {joined : Room} {newcomer : Nat} {session : Session} {members : List Nat}
    (coherent : before.Coherent)
    (earlier : (before.rooms.get? place = none ∧ members = []) ∨
      ∃ room, before.rooms.get? place = some room ∧ room.memberIds = members ∧
        room.game = none ∧ room.status ≠ .finished)
    (held : before.sessions.get? newcomer = some session) (nowhere : session.room = none)
    (known : session.IsKnown) (connected : session.isConnected)
    (sessions : after.sessions = before.sessions.modify newcomer (Session.enter place))
    (elsewhere : before.rooms.EqExcept place after.rooms)
    (now : after.rooms.get? place = some joined)
    (grown : joined.memberIds = members ++ [newcomer])
    (sound : joined.IsSound place)
    (idle : joined.game = none) (unfinished : joined.status ≠ .finished) :
    after.Coherent := by
  have seat : ∀ {session : Session}, session.IsKnown → session.isConnected →
      session.status = .inRoom → joined.Suits session := by
    intro session known connected status
    refine .of_idle known idle connected ?_
    rw [status, Room.idleStatus, if_neg unfinished]
  refine coherent.update
    (fun id session => if newcomer = id then session.enter place else session)
    ?_ elsewhere ?_ ?_ ?_
  · intro id
    rw [sessions, SessionTable.get?_modify]
    split
    · rfl
    · rw [Option.map_id']
  · intro id other there
    by_cases new : newcomer = id
    · subst new
      obtain rfl : session = other := Option.some.inj (held.symm.trans there)
      simp only [if_true]
      refine .inr ⟨.inl nowhere, rfl, .inside rfl now ?_
        (seat ⟨known.named, known.tokened, known.dated⟩ connected rfl)⟩
      rw [grown, ← coherent.numbered held]
      exact List.mem_append_right _ (List.mem_singleton.2 rfl)
    · simp only [new, if_false]
      by_cases noted : other.room = some place
      · refine .inr ⟨.inr noted, trivial, ?_⟩
        rcases earlier with ⟨free, _⟩ | ⟨room, found, same, resting, open_⟩
        · obtain ⟨room, found⟩ := coherent.noted there noted
          rw [free] at found
          cases found
        · obtain ⟨member, fits⟩ := (coherent.sits there).suits noted found
          obtain ⟨connected, status⟩ := fits.idle resting
          refine .inside noted now ?_ (seat fits.known connected ?_)
          · rw [grown, ← same]
            exact List.mem_append_left _ member
          · rw [status, Room.idleStatus, if_neg open_]
      · exact .inl ⟨noted, trivial⟩
  · intro room there
    rw [now] at there
    cases there
    exact sound
  · intro room member there here
    rw [now] at there
    cases there
    rw [grown] at here
    rcases List.mem_append.1 here with old | new
    · rcases earlier with ⟨_, rfl⟩ | ⟨room, found, rfl, _⟩
      · cases old
      · obtain ⟨session, held, noted, _⟩ := coherent.suits found old
        refine ⟨session, held, ?_⟩
        split
        · rfl
        · exact noted
    · obtain rfl := List.mem_singleton.1 new
      exact ⟨session, held, by simp [Session.enter]⟩

end Cardroom.Tables.Coherent
