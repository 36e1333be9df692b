import Cardroom.Proofs.Server.Drop
import Cardroom.Server.Sweep

/-!
# Sweeps keep the tables in agreement

A sweep drops some players and forgets others. When a player is forgotten, the room goes with the
player.
-/

namespace Cardroom

namespace Transition

variable {state : Transition}

theorem evict_coherent (coherent : state.tables.Coherent) (id : Nat) (now : Time) :
    (state.evict id now).tables.Coherent := by
  unfold evict
  split
  · exact coherent
  · refine disconnect_coherent ?_ id _ now
    exact coherent

theorem abandonRoom_tables (id place : Nat) (room : Room) (state : Transition) :
    (state.abandonRoom id place room).tables =
      { sessions := (room.others id).foldl (fun table other => table.modify other Session.toLobby)
          state.sessions
        rooms := state.rooms.remove place } := by
  rw [abandonRoom, foldl_tables (fun other => other) fun _ => Session.toLobby, List.map_id']
  · rfl
  · intro state other
    rfl

/-- A player is forgotten, and the room with the player. -/
theorem expire_coherent (coherent : state.tables.Coherent) (id : Nat) (now : Time) :
    (state.expire id now).tables.Coherent := by
  unfold expire
  split
  · next nowhere =>
      cases held : state.sessions.get? id with
      | none =>
          rw [release_tables, SessionTable.release, SessionTable.modify_eq_self]
          · exact coherent
          · intro session there
            rw [tables_sessions, held] at there
            cases there
      | some session =>
          refine release_coherent coherent now held ?_
          cases noted : session.room with
          | none =>
              rfl
          | some place =>
              obtain ⟨room, found⟩ := coherent.noted held noted
              rw [tables_rooms] at found
              rw [roomOf?, held, Option.bind_some, noted, Option.bind_some, found] at nowhere
              cases nowhere
  · next place room located =>
      obtain ⟨place, noted, there⟩ := Option.bind_eq_some_iff.1 located
      obtain ⟨room, found, same⟩ := Option.map_eq_some_iff.1 there
      cases same
      obtain ⟨session, held, noted⟩ := Option.bind_eq_some_iff.1 noted
      have sound := coherent.sound found
      have member := (coherent.member found held noted).1
      rw [release_tables, abandonRoom_tables]
      refine coherent.dissolve found
        (fun other session => if other = id then Session.vacant id now else session.toLobby) ?_
        (RoomTable.eqExcept_set_none place _)
        ((RoomTable.get?_set_none place place _).trans (if_pos rfl)) ?_
      · intro other
        have sent := SessionTable.get?_foldl_modify (sound.distinct.filter (· != id)) other
          (fun _ => Session.toLobby) state.sessions
        simp only [SessionTable.release, SessionTable.get?_modify]
        rw [Room.others, sent]
        by_cases forgotten : other = id
        · subst forgotten
          simp [member]
        · simp [forgotten, Ne.symm forgotten]
      · rintro _ other rfl here fits
        split
        · next forgotten =>
            exact ⟨forgotten.symm, rfl, .inl ⟨rfl, rfl, rfl, rfl⟩⟩
        · exact ⟨rfl, rfl, .inr
            (Session.inLobby_toLobby fits.known (coherent.status_of_away found here fits))⟩

/-- Steps that each keep the tables in agreement. -/
theorem foldl_coherent {step : Transition → Nat → Transition}
    (kept : ∀ {state : Transition}, state.tables.Coherent → ∀ id,
      (step state id).tables.Coherent)
    (ids : List Nat) (coherent : state.tables.Coherent) :
    (ids.foldl step state).tables.Coherent := by
  induction ids generalizing state with
  | nil =>
      exact coherent
  | cons id ids inductionHypothesis =>
      exact inductionHypothesis (kept coherent id)

end Transition

/-- A sweep at any time. -/
theorem Tables.sweep_coherent {tables : Tables} (coherent : tables.Coherent) (config : Config)
    (now : Time) :
    (tables.sweep config now).tables.Coherent := by
  have pinged : (Transition.start tables).pingAll.tables.Coherent := coherent
  exact Transition.foldl_coherent (fun coherent id => Transition.expire_coherent coherent id now) _
    (Transition.foldl_coherent (fun coherent id => Transition.evict_coherent coherent id now) _
      pinged)

end Cardroom
