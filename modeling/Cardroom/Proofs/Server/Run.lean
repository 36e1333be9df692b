import Cardroom.Proofs.Server.Lobby
import Cardroom.Proofs.Server.Return
import Cardroom.Proofs.Server.Sweep
import Cardroom.Server.Dispatch

/-!
# Runs of the server

Everything that the server can be told, in any order and at any times: connections that come and go,
frames that arrive on them, and sweeps. `after_coherent` is the step: the tables agree after each of
these if they did before. `run_coherent` follows by induction on what has happened since the server
was started.
-/

namespace Cardroom

namespace Tables

variable {tables : Tables}

/-- A new connection takes a slot that nobody holds. -/
theorem accept_coherent (coherent : tables.Coherent) (now : Time) (connection : Nat) :
    (tables.accept now connection).2.tables.Coherent := by
  unfold accept
  split
  · next slot sessions allocated =>
      obtain ⟨session, held, free, rfl⟩ := SessionTable.allocate?_eq_some allocated
      simp only [Session.isFree, Bool.and_eq_true, Option.isNone_iff_eq_none] at free
      exact coherent.modify_outside held (coherent.room_of_unnamed held free.2)
        (coherent.numbered held).symm rfl (.inl ⟨rfl, rfl, rfl, rfl⟩)
  · exact coherent

end Tables

/-- Hearing of a player changes nothing that the rooms know. -/
theorem Session.Sits.touch {rooms : RoomTable} {session : Session} (sits : session.Sits rooms)
    (now : Time) :
    (session.touch now).Sits rooms := by
  cases sits with
  | outside nowhere outside =>
      refine .outside nowhere ?_
      rcases outside with unknown | lobby
      · exact .inl ⟨unknown.named, unknown.tokened, unknown.dated, unknown.status⟩
      · have known := lobby.known
        exact .inr ⟨⟨known.named, known.tokened, known.dated⟩, lobby.here, lobby.away⟩
  | inside noted found member fits =>
      have known := fits.known
      refine .inside noted found member ⟨⟨known.named, known.tokened, known.dated⟩, fits.idle, ?_⟩
      intro game busy
      have suits := fits.busy busy
      exact ⟨suits.active, suits.running, suits.paused⟩

namespace Transition

variable {state : Transition} {id : Nat} {session : Session}

theorem onTurn_coherent (coherent : state.tables.Coherent) (shuffle : Shuffle) (id : Nat)
    (frame : Frame) :
    (state.onTurn shuffle id frame).2.tables.Coherent := by
  unfold onTurn
  split
  · exact playMove_coherent coherent shuffle id frame.type frame.payload
  · exact coherent

theorem onWait_tables (id : Nat) (frame : Frame) (state : Transition) :
    (state.onWait id frame).2.tables = state.tables := by
  unfold onWait
  split <;> rfl

theorem onPaused_tables (id : Nat) (frame : Frame) (state : Transition) :
    (state.onPaused id frame).2.tables = state.tables := by
  unfold onPaused
  split <;> rfl

end Transition

namespace Tables

variable {tables : Tables} {config : Config}

/-- The status of a player tells where the player is, and so which frames make sense. -/
theorem dispatch_coherent {state : Transition} {slot : Nat} {session : Session}
    (coherent : state.tables.Coherent) (held : state.sessions.get? slot = some session)
    (connected : session.isConnected) (config : Config) (moment : Moment) (connection : Nat)
    (frame : Frame) :
    (dispatch config moment slot connection frame session.status state).state.tables.Coherent := by
  cases coherent.standing held connected with
  | unknown nowhere unknown =>
      rw [unknown.status]
      exact Transition.onLogin_coherent coherent held connected unknown moment connection frame
  | lobby nowhere lobby status =>
      rw [status]
      exact Transition.onLobby_coherent coherent held nowhere lobby connected moment.now frame
  | @resting place room noted found idle known status =>
      rw [status, Room.idleStatus]
      split
      · exact Transition.onMatchDone_coherent coherent config moment held noted found idle frame
      · exact Transition.onRoom_coherent coherent config moment held noted found idle frame
  | seated noted found busy known playing =>
      cases status : session.status with
      | onTurn =>
          exact Transition.onTurn_coherent coherent moment.shuffle slot frame
      | onWait =>
          exact (state.onWait_tables slot frame).symm ▸ coherent
      | paused =>
          exact (state.onPaused_tables slot frame).symm ▸ coherent
      | disconnected | connected | inRoom | matchDone =>
          rw [status] at playing
          cases playing

/-- The player of a slot was heard of. -/
theorem heard_coherent (coherent : tables.Coherent) (now : Time) (slot : Nat) :
    ((Transition.start tables).modifySession slot (Session.touch now)).tables.Coherent := by
  refine coherent.modify ?_
  intro session held
  exact ⟨rfl, rfl, (coherent.sits held).touch now⟩

theorem get?_heard {slot : Nat} {session : Session}
    (held : tables.sessions.get? slot = some session)
    (now : Time) :
    ((Transition.start tables).modifySession slot (Session.touch now)).sessions.get? slot =
      some (session.touch now) :=
  (SessionTable.get?_modify slot slot _ _).trans
    ((if_pos rfl).trans (congrArg (Option.map (Session.touch now)) held))

theorem handleFrame_coherent (coherent : tables.Coherent) (config : Config) (moment : Moment)
    (slot connection : Nat) (frame : Frame) :
    (tables.handleFrame config moment slot connection frame).step.tables.Coherent := by
  unfold handleFrame
  split
  · exact coherent
  · next session held =>
      split
      · exact coherent
      · next bound =>
          have connected : session.isConnected := by
            rw [Session.isConnected, Decidable.not_not.1 bound]
            rfl
          have heard := heard_coherent coherent moment.now slot
          simp only
          split
          · exact heard
          · exact dispatch_coherent heard (get?_heard held moment.now) connected config moment
              connection frame

theorem handleDisconnect_coherent (coherent : tables.Coherent) (now : Time)
    (slot connection : Nat) :
    (tables.handleDisconnect now slot connection).tables.Coherent := by
  refine Transition.disconnect_coherent ?_ slot connection now
  exact coherent

inductive Event where
  | accept (now : Time) (connection : Nat)
  | frame (moment : Moment) (slot connection : Nat) (frame : Frame)
  | disconnect (now : Time) (slot connection : Nat)
  | sweep (now : Time)

def after (config : Config) (tables : Tables) : Event → Tables
  | .accept now connection => (tables.accept now connection).2.tables
  | .frame moment slot connection frame =>
      (tables.handleFrame config moment slot connection frame).step.tables
  | .disconnect now slot connection => (tables.handleDisconnect now slot connection).tables
  | .sweep now => (tables.sweep config now).tables

def run (config : Config) (started : Time) (events : List Event) : Tables :=
  events.foldl (after config) (Tables.vacant config started)

theorem after_coherent (coherent : tables.Coherent) (config : Config) (event : Event) :
    (tables.after config event).Coherent := by
  cases event with
  | accept now connection =>
      exact accept_coherent coherent now connection
  | frame moment slot connection frame =>
      exact handleFrame_coherent coherent config moment slot connection frame
  | disconnect now slot connection =>
      exact handleDisconnect_coherent coherent now slot connection
  | sweep now =>
      exact sweep_coherent coherent config now

/-- Nobody is known to a server that was just started, and no room is open. -/
theorem vacant_coherent (config : Config) (started : Time) :
    (Tables.vacant config started).Coherent := by
  have empty : ∀ {id room}, (Tables.vacant config started).rooms.get? id ≠ some room := by
    intro id room found
    rw [vacant, RoomTable.get?_vacant] at found
    cases found
  refine ⟨?_, ?_, fun found => absurd found empty, fun found => absurd found empty⟩
  · intro id session held
    obtain rfl := SessionTable.get?_vacant held
    rfl
  · intro id session held
    obtain rfl := SessionTable.get?_vacant held
    exact .outside rfl (.inl ⟨rfl, rfl, rfl, rfl⟩)

/-- What every event preserves holds of a server at all times. -/
theorem run_preserves {motive : Tables → Prop} (config : Config) (started : Time)
    (start : motive (Tables.vacant config started))
    (step : ∀ tables event, motive tables → motive (tables.after config event))
    (events : List Event) :
    motive (run config started events) := by
  unfold run
  generalize Tables.vacant config started = tables at start
  induction events generalizing tables with
  | nil =>
      exact start
  | cons event events inductionHypothesis =>
      exact inductionHypothesis (tables.after config event) (step tables event start)

/-- The two tables of a server agree at all times. -/
theorem run_coherent (config : Config) (started : Time) (events : List Event) :
    (run config started events).Coherent :=
  run_preserves config started (vacant_coherent config started)
    (fun _ event coherent => after_coherent coherent config event) events

theorem run_append (config : Config) (started : Time) (earlier later : List Event) :
    run config started (earlier ++ later) =
      later.foldl (Tables.after config) (run config started earlier) :=
  List.foldl_append

end Tables

/-- An item of a history that has just grown is the new one, or was there. -/
theorem append_singleton_cases {Item : Type} {items earlier later : List Item} {last item : Item}
    (split : items ++ [last] = earlier ++ item :: later) :
    later = [] ∧ items = earlier ∧ last = item ∨
      ∃ rest, later = rest ++ [last] ∧ items = earlier ++ item :: rest := by
  rcases later.eq_nil_or_concat with rfl | ⟨rest, final, rfl⟩
  · obtain ⟨same, equal⟩ := List.append_inj' split rfl
    exact .inl ⟨rfl, same, List.singleton_inj.1 equal⟩
  · have split : items ++ [last] = (earlier ++ item :: rest) ++ [final] := split.trans (by simp)
    obtain ⟨same, equal⟩ := List.append_inj' split rfl
    obtain rfl := List.singleton_inj.1 equal
    exact .inr ⟨rest, List.concat_eq_append, same⟩

end Cardroom
