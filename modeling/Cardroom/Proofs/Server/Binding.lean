import Cardroom.Proofs.Server.Informs
import Cardroom.Proofs.Server.Isolation

/-!
# Where a connection is bound

A connection remembers the slot to which it is bound, and only its own frames can tell it of another
one. `connectionOf?_handleFrame` says that this is enough: after a frame the connection is bound to
the slot that the handling gave back, if it is bound to any. What other connections do, lost
connections and sweeps bind nobody.
-/

namespace Cardroom

/-- Only a player who comes back binds a connection to another slot. -/
theorem FrameHandover.kept {before after : List Occupant} {moment : Moment} {slot connection : Nat}
    {frame : Frame} {status : Session.Status}
    (handover : FrameHandover before moment slot connection frame status after)
    (stays : ∀ {occupant nick token}, before[slot]? = some occupant → occupant.nick = none →
      LoginRequest.ofPayload frame.payload ≠ .ok (.reconnect nick token)) :
    Kept Occupant.connection before after := by
  cases handover with
  | still =>
      exact .refl
  | loggedIn _ _ held =>
      exact .set fun _ bound => ⟨_, held, bound⟩
  | returned _ request held unnamed =>
      exact absurd request (stays held unnamed)
  | quit =>
      exact Occupant.isOwned_connection.kept_nobody

/-- Whoever is connected and has logged in has another status than those who have not. -/
theorem Tables.Coherent.status_of_unnamed {tables : Tables} {id : Nat} {session : Session}
    (coherent : tables.Coherent) (held : tables.sessions.get? id = some session)
    (connected : session.isConnected) (unnamed : session.nick = none) :
    session.status = .disconnected := by
  cases coherent.standing held connected with
  | unknown _ unknown =>
      exact unknown.status
  | lobby _ lobby =>
      have named := lobby.known.named
      rw [unnamed] at named
      cases named
  | resting _ _ _ known | seated _ _ _ known =>
      have named := known.named
      rw [unnamed] at named
      cases named

/-- How the connection of a frame is bound afterwards: to the slot where it was, if the player did
not quit, or to the slot of a player who came back. -/
inductive Binds (before : Tables) (slot connection later : Nat) (after : Tables) : Prop
  | stays :
      later = slot → Kept Occupant.connection before.occupants after.occupants →
      Binds before slot connection later after
  | moves {target : Occupant} :
      after.occupants =
        (before.occupants.set slot .nobody).set later (target.comeBack connection) →
      Binds before slot connection later after

namespace Binds

variable {before after : Tables} {slot connection later : Nat}

theorem still (same : after.occupants = before.occupants) :
    Binds before slot connection slot after := by
  refine .stays rfl ?_
  rw [same]
  exact .refl

theorem congr {earlier : Tables} (same : before.occupants = earlier.occupants)
    (binds : Binds before slot connection later after) :
    Binds earlier slot connection later after := by
  cases binds with
  | stays unmoved kept =>
      exact .stays unmoved (same ▸ kept)
  | moves set =>
      exact .moves (same ▸ set)

theorem connectionOf? (binds : Binds before slot connection later after)
    (bound : before.connectionOf? slot = some connection) {id other : Nat}
    (linked : after.connectionOf? id = some other) :
    id = later ∧ other = connection ∨ before.connectionOf? id = some other ∧ id ≠ slot := by
  cases binds with
  | stays unmoved kept =>
      have earlier := Tables.connectionOf?_of_kept kept linked
      by_cases here : id = slot
      · rw [here, bound] at earlier
        exact .inl ⟨here.trans unmoved.symm, (Option.some.inj earlier).symm⟩
      · exact .inr ⟨earlier, here⟩
  | moves set =>
      rw [Tables.connectionOf?_eq, set] at linked
      obtain ⟨occupant, held, has⟩ := Option.bind_eq_some_iff.1 linked
      rcases of_getElem?_set held with ⟨rfl, rfl⟩ | ⟨-, held⟩
      · exact .inl ⟨rfl, (Option.some.inj has).symm⟩
      · rcases of_getElem?_set held with ⟨-, rfl⟩ | ⟨elsewhere, there⟩
        · cases has
        · refine .inr ⟨?_, elsewhere⟩
          rw [Tables.connectionOf?_eq, there]
          exact has

end Binds

namespace Transition

variable {state : Transition} {slot : Nat} {session : Session}

theorem loginNew_binds (held : state.sessions.get? slot = some session)
    (unnamed : session.nick = none) (moment : Moment) (connection : Nat) {frame : Frame}
    {nick : String} (login : frame.type = .login)
    (request : LoginRequest.ofPayload frame.payload = .ok (.new nick)) :
    Binds state.tables slot connection (state.loginNew moment slot nick).slot
      (state.loginNew moment slot nick).state.tables := by
  refine .stays (loginNew_slot moment nick) ?_
  refine (loginNew_handover held unnamed moment connection login request .disconnected).kept
    fun _ _ again => ?_
  rw [request] at again
  cases again

theorem loginAgain_binds (coherent : state.tables.Coherent)
    (held : state.sessions.get? slot = some session) (connected : session.isConnected) (now : Time)
    (connection : Nat) (nick token : String) :
    Binds state.tables slot connection
      (state.loginAgain now slot connection nick token).slot
      (state.loginAgain now slot connection nick token).state.tables := by
  by_cases moved : (state.loginAgain now slot connection nick token).slot = slot
  · rw [moved]
    rcases loginAgain_cases coherent held connected now connection nick token with
      same | ⟨_, _, _, _, _, _, different, accepted⟩
    · exact .still (congrArg Tables.occupants same)
    · rw [accepted] at moved
      exact absurd moved different
  · obtain ⟨existing, target, there, -, -, -, different, accepted⟩ :=
      loginAgain_of_moved coherent moved
    rw [accepted]
    exact .moves ((resume_occupants _ _).trans (handOver_occupants there different now connection))

theorem onLogin_binds (coherent : state.tables.Coherent)
    (held : state.sessions.get? slot = some session) (connected : session.isConnected)
    (unnamed : session.nick = none) (moment : Moment) (connection : Nat) (frame : Frame) :
    Binds state.tables slot connection (state.onLogin moment slot connection frame).slot
      (state.onLogin moment slot connection frame).state.tables := by
  unfold onLogin
  split
  · next login =>
      split
      · exact .still rfl
      · next request =>
          exact loginNew_binds held unnamed moment connection login request
      · exact loginAgain_binds coherent held connected moment.now connection _ _
  · refine .stays rfl ?_
    rw [release_occupants_set]
    exact Occupant.isOwned_connection.kept_nobody
  · exact .still rfl

end Transition

namespace Tables

variable {tables : Tables}

theorem dispatch_binds {state : Transition} {slot : Nat} {session : Session}
    (coherent : state.tables.Coherent) (held : state.sessions.get? slot = some session)
    (connected : session.isConnected) (config : Config) (moment : Moment) (connection : Nat)
    (frame : Frame) :
    Binds state.tables slot connection
      (dispatch config moment slot connection frame session.status state).slot
      (dispatch config moment slot connection frame session.status state).state.tables := by
  by_cases unnamed : session.nick = none
  · rw [coherent.status_of_unnamed held connected unnamed]
    exact Transition.onLogin_binds coherent held connected unnamed moment connection frame
  · have unmoved : (dispatch config moment slot connection frame session.status state).slot =
        slot := by
      cases status : session.status with
      | disconnected =>
          exact absurd (coherent.nick_eq_none held connected status) unnamed
      | _ =>
          rfl
    refine .stays unmoved ?_
    refine (Transition.dispatch_handover coherent held connected config moment connection
      frame).kept fun there stranger => ?_
    rw [getElem?_occupants held] at there
    cases there
    exact absurd stranger unnamed

theorem handleFrame_binds (coherent : tables.Coherent) (config : Config) (moment : Moment)
    {slot connection : Nat} (bound : tables.connectionOf? slot = some connection) (frame : Frame) :
    Binds tables slot connection (tables.handleFrame config moment slot connection frame).slot
      (tables.handleFrame config moment slot connection frame).step.tables := by
  obtain ⟨session, held, linked⟩ := connectionOf?_eq_some.1 bound
  have connected : session.isConnected := by
    rw [Session.isConnected, linked]
    rfl
  have same := heard_occupants moment.now slot tables
  simp only [handleFrame, held, linked, ne_eq, not_true_eq_false, if_false]
  split
  · exact .still same
  · exact (dispatch_binds (heard_coherent coherent moment.now slot) (get?_heard held moment.now)
      connected config moment connection frame).congr same

/-- After a frame its connection is bound at most to the slot that was given back, and all other
connections are bound as before, if at all. -/
theorem connectionOf?_handleFrame (coherent : tables.Coherent) (config : Config) (moment : Moment)
    (slot connection : Nat) (frame : Frame) {id other : Nat}
    (linked : (tables.handleFrame config moment slot connection
      frame).step.tables.connectionOf? id = some other) :
    id = (tables.handleFrame config moment slot connection frame).slot ∧ other = connection ∨
      tables.connectionOf? id = some other ∧ ¬(id = slot ∧ other = connection) := by
  by_cases bound : tables.connectionOf? slot = some connection
  · refine ((handleFrame_binds coherent config moment bound frame).connectionOf? bound
      linked).imp_right ?_
    exact fun before => ⟨before.1, fun own => before.2 own.1⟩
  · rw [handleFrame_of_not_isBound (isBound_eq_false bound)] at linked
    exact .inr ⟨linked, fun own => bound (own.1 ▸ own.2 ▸ linked)⟩

/-- A connection that is lost is not bound to its slot any more. -/
theorem connectionOf?_handleDisconnect (now : Time) (slot connection : Nat) {id other : Nat}
    (linked : (tables.handleDisconnect now slot connection).tables.connectionOf? id = some other) :
    tables.connectionOf? id = some other ∧ ¬(id = slot ∧ other = connection) := by
  by_cases bound : tables.connectionOf? slot = some connection
  · obtain ⟨session, held, has⟩ := connectionOf?_eq_some.1 bound
    have held : (Transition.start tables).sessions.get? slot = some session := held
    have left : (tables.handleDisconnect now slot connection).tables.occupants =
        tables.occupants.set slot (session.occupant.leave now) :=
      Transition.disconnect_occupants held has now
    rw [connectionOf?_eq, left] at linked
    obtain ⟨occupant, there, bound⟩ := Option.bind_eq_some_iff.1 linked
    rcases of_getElem?_set there with ⟨-, rfl⟩ | ⟨elsewhere, there⟩
    · unfold Occupant.leave at bound
      split at bound <;> cases bound
    · rw [connectionOf?_eq, there]
      exact ⟨bound, fun own => elsewhere own.1⟩
  · rw [handleDisconnect_of_not_isBound (isBound_eq_false bound)] at linked
    exact ⟨linked, fun own => bound (own.1 ▸ own.2 ▸ linked)⟩

/-- A sweep binds nobody. -/
theorem connectionOf?_sweep (coherent : tables.Coherent) (config : Config) (now : Time)
    {id other : Nat}
    (linked : (tables.sweep config now).tables.connectionOf? id = some other) :
    tables.connectionOf? id = some other := by
  refine connectionOf?_of_kept ?_ linked
  rw [sweep_occupants coherent]
  exact Occupant.isOwned_connection.kept_sweep config now tables.sessions

/-- A new connection is bound at most to the slot that it was given. -/
theorem connectionOf?_accept (now : Time) (connection : Nat) {id other : Nat}
    (linked : (tables.accept now connection).2.tables.connectionOf? id = some other) :
    (tables.accept now connection).1 = some id ∧ other = connection ∨
      tables.connectionOf? id = some other := by
  unfold accept at linked ⊢
  split at linked
  · next slot sessions allocated =>
      obtain ⟨session, held, -, rfl⟩ := SessionTable.allocate?_eq_some allocated
      obtain ⟨later, there, bound⟩ := connectionOf?_eq_some.1 linked
      rw [SessionTable.get?_modify] at there
      split at there
      · next here =>
          subst here
          rw [held] at there
          cases there
          exact .inl ⟨rfl, (Option.some.inj bound).symm⟩
      · exact .inr (connectionOf?_eq_some.2 ⟨later, there, bound⟩)
  · exact .inr linked

end Tables

end Cardroom
