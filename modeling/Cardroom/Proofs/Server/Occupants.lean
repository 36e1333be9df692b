import Cardroom.Proofs.Server.Run
import Cardroom.Proofs.Session.Occupant

/-!
# Who holds which slot

A step that leaves rooms, matches and statuses changed leaves the holders of the slots as they are,
unless it is a login, a lost connection or a sweep, or somebody quits. The lemmas here say so of each
operation; none of them depends on what the rooms and the sessions say of each other.
-/

namespace Cardroom

def Tables.occupants (tables : Tables) : List Occupant :=
  tables.sessions.occupants

theorem Tables.getElem?_occupants {tables : Tables} {id : Nat} {session : Session}
    (held : tables.sessions.get? id = some session) :
    tables.occupants[id]? = some session.occupant :=
  (tables.sessions.getElem?_occupants id).trans (congrArg _ held)

namespace Transition

variable {state : Transition}

theorem modifySession_occupants {id : Nat} {change : Session → Session}
    (same : ∀ session, (change session).occupant = session.occupant) :
    (state.modifySession id change).tables.occupants = state.tables.occupants :=
  SessionTable.occupants_modify_eq_self same

theorem foldl_occupants {Item : Type} {step : Transition → Item → Transition}
    (one : ∀ state item, (step state item).tables.occupants = state.tables.occupants)
    (items : List Item) (state : Transition) :
    (items.foldl step state).tables.occupants = state.tables.occupants := by
  induction items generalizing state with
  | nil =>
      rfl
  | cons item items inductionHypothesis =>
      rw [List.foldl_cons, inductionHypothesis, one]

theorem release_occupants (id : Nat) (now : Time) (state : Transition) :
    (state.release id now).tables.occupants =
      state.tables.occupants.modify id fun _ => .nobody :=
  SessionTable.occupants_modify fun _ _ => rfl

theorem leaveRoom_occupants (id : Nat) (state : Transition) :
    (state.leaveRoom id).tables.occupants = state.tables.occupants := by
  have stepped : (state.modifySession id Session.stepOut).tables.occupants =
      state.tables.occupants :=
    modifySession_occupants fun _ => rfl
  unfold leaveRoom
  split
  · rfl
  · dsimp only
    split
    · exact stepped
    · next owner rooms _ =>
        rw [sendRoomInfo_tables, foldl_occupants]
        · cases owner <;> exact stepped
        · intro state member
          exact modifySession_occupants fun session => session.sameButStatus_reseat.occupant_eq

theorem closeRoom_occupants (place : Nat) (state : Transition) :
    (state.closeRoom place).tables.occupants = state.tables.occupants := by
  unfold closeRoom
  split
  · rfl
  · refine foldl_occupants (fun state member => ?_) _ _
    exact modifySession_occupants fun _ => rfl

theorem createRoom_occupants (id : Nat) (name : String) (state : Transition) :
    (state.createRoom id name).tables.occupants = state.tables.occupants := by
  unfold createRoom
  split
  · rfl
  · rw [sendRoomInfo_tables, reply_tables, reply_tables]
    exact modifySession_occupants fun _ => rfl

theorem joinRoom_occupants (id : Nat) (payload : String) (state : Transition) :
    (state.joinRoom id payload).tables.occupants = state.tables.occupants := by
  unfold joinRoom
  split
  · rfl
  · split
    · rfl
    · rw [sendRoomInfo_tables, reply_tables]
      exact modifySession_occupants fun _ => rfl

theorem getReady_occupants (id place : Nat) (payload : String) (state : Transition) :
    (state.getReady id place payload).tables.occupants = state.tables.occupants := by
  unfold getReady
  split
  · rfl
  · rw [sendRoomInfo_tables]
    rfl

theorem startMatch_occupants (config : Config) (shuffle : Shuffle) (place : Nat)
    (state : Transition) :
    (state.startMatch config shuffle place).tables.occupants = state.tables.occupants := by
  unfold startMatch
  split
  · rfl
  · refine (foldl_occupants (fun state seat => ?_) _ _).trans rfl
    exact modifySession_occupants fun _ => rfl

theorem startForOwner_occupants (config : Config) (shuffle : Shuffle) (id place : Nat)
    (state : Transition) :
    (state.startForOwner config shuffle id place).tables.occupants = state.tables.occupants := by
  unfold startForOwner
  split
  · rfl
  · split
    · rfl
    · split
      · rfl
      · exact startMatch_occupants config shuffle place state

theorem playAgain_occupants (config : Config) (shuffle : Shuffle) (id place : Nat)
    (payload : String) (state : Transition) :
    (state.playAgain config shuffle id place payload).tables.occupants =
      state.tables.occupants := by
  unfold playAgain
  dsimp only
  split
  · rfl
  · split
    · exact startMatch_occupants config shuffle place _
    · split <;> rfl

theorem finishMatch_occupants (place winner : Nat) (game : Match) (state : Transition) :
    (state.finishMatch place winner game).tables.occupants = state.tables.occupants := by
  unfold finishMatch
  refine (foldl_occupants (fun state member => ?_) _ _).trans rfl
  exact modifySession_occupants fun _ => rfl

theorem announceTurn_occupants (game : Match) (state : Transition) :
    (state.announceTurn game).tables.occupants = state.tables.occupants := by
  refine foldl_occupants (fun state seat => ?_) _ _
  exact modifySession_occupants fun _ => rfl

theorem findRoom_occupants (id : Nat) (state : Transition) :
    (state.findRoom id).tables.occupants = state.tables.occupants :=
  modifySession_occupants fun _ => rfl

theorem playMove_occupants (shuffle : Shuffle) (id : Nat) (action : MessageType)
    (payload : String) (state : Transition) :
    (state.playMove shuffle id action payload).tables.occupants = state.tables.occupants := by
  refine Eq.trans ?_ (findRoom_occupants id state)
  unfold playMove
  dsimp only
  generalize state.findRoom id = state
  split
  · rfl
  · next place game _ =>
      split
      · rfl
      · next after _ =>
          split
          · exact finishMatch_occupants place id after _
          · have shown (state : Transition) :
                (state.showTable after).tables.occupants = state.tables.occupants := by
              rw [showTable_tables]
            split
            · exact shown _
            · exact (announceTurn_occupants after _).trans (shown _)
            · exact shown _

theorem pauseMatch_occupants (id place : Nat) (game : Match) (state : Transition) :
    (state.pauseMatch id place game).tables.occupants = state.tables.occupants := by
  unfold pauseMatch
  dsimp only
  rw [broadcast_tables, foldl_occupants]
  · rfl
  · intro state other
    exact modifySession_occupants fun session => session.sameButStatus_suspend.occupant_eq

theorem afterDrop_occupants (id : Nat) (state : Transition) :
    (state.afterDrop id).tables.occupants = state.tables.occupants := by
  unfold afterDrop
  split
  · rfl
  · split
    · exact pauseMatch_occupants id _ _ state
    · dsimp only
      rw [broadcast_tables]
      refine Eq.trans ?_ (leaveRoom_occupants id state)
      exact modifySession_occupants fun _ => rfl

/-- Coming back changes the statuses of players, and where one of them sits. -/
theorem resume_occupants (id : Nat) (state : Transition) :
    (state.resume id).tables.occupants = state.tables.occupants := by
  unfold resume
  split
  · unfold resumeOutside
    split
    · rfl
    · rw [reply_tables]
      refine modifySession_occupants fun session => ?_
      unfold Session.comeBack
      dsimp only
      split <;> rfl
  · next place game _ =>
      unfold resumeMatch
      dsimp only
      generalize game.setActive id true = present
      cases (if present.allActive then present.resume? else none) with
      | some resumed =>
          simp only [Option.getD_some, Option.isSome_some, if_true]
          rw [broadcast_tables, showView_tables, reply_tables, foldl_occupants]
          · rfl
          · intro state seat
            exact modifySession_occupants fun session => session.sameButStatus_endPause.occupant_eq
      | none =>
          simp only [Option.getD_none, Option.isSome_none, Bool.false_eq_true, if_false]
          rw [showView_tables, reply_tables]
          have noted : (state.setGame place present).tables.occupants = state.tables.occupants :=
            rfl
          split
          · exact Eq.trans (modifySession_occupants fun _ => rfl) noted
          · exact noted

end Transition

end Cardroom
