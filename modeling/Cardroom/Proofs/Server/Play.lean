import Cardroom.Proofs.Server.Change
import Cardroom.Server.Play

/-!
# Playing keeps the tables in agreement

The start of a match, each move and the end of a match change one room and the statuses of its
members.
-/

namespace Cardroom.Transition

variable {state : Transition} {place : Nat} {room : Room} {game : Match}

theorem turnNotice_fst (session : Nat) (game : Match) :
    (turnNotice (game.isTurnOf session)).1 = game.turnStatus session := by
  unfold turnNotice Match.turnStatus
  split <;> rfl

/-- Both members are there when a match starts, and it is the turn of one of them. -/
theorem startMatch_coherent (coherent : state.tables.Coherent) (config : Config)
    (shuffle : Shuffle) (found : state.rooms.get? place = some room) (idle : room.game = none)
    (full : room.memberIds.length = Room.places) :
    (state.startMatch config shuffle place).tables.Coherent := by
  have sound := coherent.sound found
  have isOf := Match.isOf_start shuffle place config.shuffleDeck
    (show 0 < room.memberIds.length by rw [full]; decide)
  have players := (Match.start_players shuffle _).trans
    (Match.seat_players place room.memberIds config.shuffleDeck)
  simp only [startMatch, found]
  generalize (Match.seat place room.memberIds config.shuffleDeck).start shuffle = game
    at isOf players
  have everybody : ∀ player ∈ game.players, player.2 = true := by
    rw [players]
    simp
  have running : game.status = .playing :=
    isOf.playing_iff.2 (Match.allActive_iff.2 everybody)
  rw [foldl_tables Seat.session fun id => Session.settle (game.turnStatus id)]
  · refine coherent.refit found (fun id => Session.settle (game.turnStatus id)) ?_
      (RoomTable.eqExcept_modify place _ _) (RoomTable.get?_modify_self found _)
      (room.beginMatch_memberIds game) ?_ (fun _ _ => ⟨rfl, rfl⟩) ?_
    · intro id
      rw [← Match.map_fst_players, isOf.players]
      exact SessionTable.get?_foldl_modify sound.distinct id _ _
    · refine .of_busy (by simpa using sound.numbered) ?_ ?_ (room.beginMatch_game game) rfl ?_
      · rw [Room.beginMatch_memberIds]
        exact sound.distinct
      · rw [Room.beginMatch_memberIds]
        exact full
      · rw [Room.beginMatch_memberIds]
        exact isOf
    · intro id session held numbered here fits
      have same := session.sameButStatus_settle (game.turnStatus id)
      refine .of_busy (same.isKnown fits.known) (room.beginMatch_game game)
        (.of_playing running ?_ ?_)
      · intro active present
        rw [same.isConnected_eq, (fits.idle idle).1]
        exact everybody _ present
      · rw [same.id_eq, numbered]
        rfl
  · intro state seat
    rw [← turnNotice_fst]
    rfl

/-- A match is over, in whichever state the last move has left it. The room is finished, and so the
match does not matter any more. -/
theorem finishMatch_coherent (coherent : state.tables.Coherent) (winner : Nat)
    (found : state.rooms.get? place = some room) (busy : room.game = some game) (after : Match)
    (running : game.status = .playing) :
    ((state.setGame place after).finishMatch place winner after).tables.Coherent := by
  have sound := coherent.sound found
  obtain ⟨_, full, isOf⟩ := sound.busy busy
  have there : (state.setGame place after).rooms.get? place =
      some { room with game := some after } :=
    RoomTable.get?_modify_self found _
  simp only [finishMatch, there, Option.map_some, Option.getD_some]
  rw [foldl_tables id fun _ => Session.settle .matchDone]
  · refine coherent.refit found (fun _ => Session.settle .matchDone) ?_
      ((RoomTable.eqExcept_modify place _ _).trans (RoomTable.eqExcept_modify place _ _))
      (RoomTable.get?_modify_self there _) (Room.finishMatch_memberIds _) ?_
      (fun _ _ => ⟨rfl, rfl⟩) ?_
    · intro id
      rw [List.map_id]
      exact SessionTable.get?_foldl_modify sound.distinct id _ _
    · refine .of_idle (by simpa using sound.numbered) ?_ ?_ (Room.finishMatch_game _) (by simp)
      · rw [Room.finishMatch_memberIds]
        exact sound.distinct
      · rw [Room.finishMatch_memberIds]
        exact sound.space
    · intro id session held numbered here fits
      have same := session.sameButStatus_settle .matchDone
      refine .of_idle (same.isKnown fits.known) (Room.finishMatch_game _) ?_ rfl
      rw [same.isConnected_eq]
      exact isOf.isConnected running (fits.busy busy).active (numbered ▸ here)
  · intro state member
    rfl

/-- A move after which the same player is on turn. -/
theorem setGame_coherent (coherent : state.tables.Coherent)
    (found : state.rooms.get? place = some room) (busy : room.game = some game) {after : Match}
    (same : game.SameTable after) :
    (state.setGame place after).tables.Coherent := by
  have sound := coherent.sound found
  obtain ⟨status, full, isOf⟩ := sound.busy busy
  refine coherent.refitRoom found rfl (RoomTable.eqExcept_modify place _ _)
    (RoomTable.get?_modify_self found _) rfl
    (.of_busy sound.numbered sound.distinct full rfl status (same.isOf isOf)) ?_
  intro session fits
  exact .of_busy fits.known rfl (same.suits (fits.busy busy))

theorem showTable_tables (game : Match) (state : Transition) :
    (state.showTable game).tables = state.tables := by
  unfold showTable
  induction game.seats generalizing state with
  | nil =>
      rfl
  | cons seat seats inductionHypothesis =>
      rw [List.foldl_cons, inductionHypothesis, showView_tables]

/-- A move after which another player may be on turn. Everybody at the table is told. -/
theorem announceTurn_coherent (coherent : state.tables.Coherent)
    (found : state.rooms.get? place = some room) (busy : room.game = some game) {after : Match}
    (running : game.status = .playing) (players : after.players = game.players)
    (status : after.status = game.status) (reason : after.pauseReason = game.pauseReason)
    (current : after.current < game.players.length) :
    (((state.setGame place after).showTable after).announceTurn after).tables.Coherent := by
  have sound := coherent.sound found
  obtain ⟨started, full, isOf⟩ := sound.busy busy
  have isOf' := isOf.pass running players status reason current
  rw [announceTurn, foldl_tables Seat.session
    (fun id session => { session with status := after.turnStatus id }), showTable_tables]
  · refine coherent.refit found
      (fun id session => { session with status := after.turnStatus id }) ?_
      (RoomTable.eqExcept_modify place _ _) (RoomTable.get?_modify_self found _) rfl
      (.of_busy sound.numbered sound.distinct full rfl started isOf') (fun _ _ => ⟨rfl, rfl⟩) ?_
    · intro id
      rw [← Match.map_fst_players, isOf'.players]
      exact SessionTable.get?_foldl_modify sound.distinct id _ _
    · intro id session held numbered here fits
      refine .of_busy ⟨fits.known.named, fits.known.tokened, fits.known.dated⟩ rfl
        (.of_playing (status.trans running) ?_ ?_)
      · intro active present
        rw [players] at present
        exact (fits.busy busy).active present
      · simp only [numbered]
  · intro state seat
    rw [← turnNotice_fst]
    rfl

/-- Whatever is asked of a match, and whoever asks it. -/
theorem playMove_coherent (coherent : state.tables.Coherent) (shuffle : Shuffle) (id : Nat)
    (action : MessageType) (payload : String) :
    (state.playMove shuffle id action payload).tables.Coherent := by
  unfold playMove
  rw [findRoom_eq_self coherent]
  simp only
  split
  · exact coherent
  · next place game located =>
      obtain ⟨session, room, held, noted, found, busy⟩ := matchOf?_eq_some located
      split
      · next error after refused =>
          exact setGame_coherent coherent found busy (Match.sameTable_of_play_error refused)
      · next after made =>
          obtain ⟨running, follows⟩ := Match.follows_of_play_ok made
          split
          · exact finishMatch_coherent coherent id found busy after running
          · next unfinished =>
              cases follows with
              | finished finished =>
                  exact absurd finished unfinished
              | passed discarded players status reason current =>
                  subst discarded
                  exact announceTurn_coherent coherent found busy running players status reason
                    current
              | same other same =>
                  have moved := setGame_coherent coherent found busy same
                  rw [← showTable_tables after] at moved
                  split
                  · exact moved
                  · exact absurd rfl other
                  · exact moved

end Cardroom.Transition
