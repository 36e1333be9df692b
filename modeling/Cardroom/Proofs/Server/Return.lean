import Cardroom.Proofs.Server.Leave
import Cardroom.Server.Return

/-!
# Logins keep the tables in agreement

Whoever logs in for the first time is in the lobby. Whoever was dropped comes back to the lobby, or
to the seat in a match, which goes on as soon as everybody is there.
-/

namespace Cardroom

namespace Session

variable {connection : Nat} {now : Time} {session : Session}

theorem isKnown_rebind (known : session.IsKnown) : (session.rebind connection now).IsKnown :=
  ⟨known.named, known.tokened, rfl⟩

/-- A player who was dropped has not heard of a pause, and keeps the status of before it. -/
theorem endPause_rebind_status :
    (session.rebind connection now).endPause.status = session.lastStatus := by
  unfold endPause
  split <;> rfl

end Session

namespace Match.Suits

variable {game after : Match} {session : Session}

/-- A player for whom the match waited comes back, and the match goes on. -/
theorem rebind_endPause (suits : game.Suits session) (waiting : game.status = .paused)
    (marks : game.Marks session.id true after) (running : after.status = .playing)
    (connection : Nat) (now : Time) :
    after.Suits (session.rebind connection now).endPause := by
  have same := (session.rebind connection now).sameButStatus_endPause
  refine .of_playing running (marks.shown_own same.id_eq same.isConnected_eq) ?_
  rw [Session.endPause_rebind_status, same.id_eq, marks.turn]
  exact (suits.paused waiting).2

/-- A player who waited for the one who comes back goes on. -/
theorem endPause {members : List Nat} {id : Nat} (suits : game.Suits session)
    (waiting : game.status = .paused) (marks : game.Marks id true after)
    (running : after.status = .playing) (isOf : after.IsOf members)
    (member : session.id ∈ members) (different : session.id ≠ id) :
    after.Suits session.endPause := by
  have same := session.sameButStatus_endPause
  obtain ⟨status, last⟩ := suits.paused waiting
  have connected : session.isConnected :=
    isOf.isConnected running (marks.shown_others suits different ⟨rfl⟩) member
  refine .of_playing running (marks.shown_others suits different same) ?_
  rw [same.id_eq, marks.turn, Session.endPause, if_pos (status.trans (if_pos connected))]
  exact last

/-- A player for whom the match waited comes back, and waits for somebody else. -/
theorem rebind_paused (suits : game.Suits session) (waiting : game.status = .paused)
    (marks : game.Marks session.id true after) (still : after.status = .paused)
    (connection : Nat) (now : Time) :
    after.Suits { session.rebind connection now with status := .paused } := by
  refine .of_paused still (fun there => marks.own there) rfl ?_
  rw [marks.turn]
  exact (suits.paused waiting).2

/-- A player who waited goes on waiting. -/
theorem of_marks {id : Nat} (suits : game.Suits session) (waiting : game.status = .paused)
    (marks : game.Marks id true after) (still : after.status = .paused)
    (different : session.id ≠ id) :
    after.Suits session := by
  obtain ⟨status, last⟩ := suits.paused waiting
  refine .of_paused still (marks.shown_others suits different ⟨rfl⟩) status ?_
  rw [marks.turn]
  exact last

end Match.Suits

namespace Transition

variable {state : Transition} {before : Tables} {id place connection : Nat} {session : Session}
  {room : Room} {game : Match} {now : Time}

/-- A player who was dropped from the lobby, or whose room is gone, comes back to the lobby. -/
theorem resumeOutside_coherent (coherent : before.Coherent) (rooms : state.rooms = before.rooms)
    (sessions : state.sessions = before.sessions.modify id (Session.rebind connection now))
    (held : before.sessions.get? id = some session) (nowhere : session.room = none)
    (known : session.IsKnown) :
    (state.resumeOutside id).tables.Coherent := by
  have there : state.sessions.get? id = some (session.rebind connection now) := by
    rw [sessions, SessionTable.get?_modify, if_pos rfl, held]
    rfl
  obtain ⟨_, _, outbox⟩ := state
  obtain rfl := rooms
  obtain rfl := sessions
  simp only [resumeOutside, there, modifySession, SessionTable.modify_modify]
  have back : (session.rebind connection now).comeBack =
      { session.rebind connection now with
        room := none
        status := .connected
        lastStatus := .connected } := by
    simp [Session.comeBack, Session.rebind, nowhere]
  refine coherent.modify_outside held nowhere ?_ ?_ ?_
  · rw [Function.comp_apply, back]
    rfl
  · rw [Function.comp_apply, back]
  · rw [Function.comp_apply, back]
    exact .inr ⟨⟨known.named, known.tokened, rfl⟩, fun _ => rfl,
      fun away => Bool.noConfusion away⟩

/-- A match goes on with a player who has come back. -/
theorem goOn_coherent {resumed : Match} (coherent : before.Coherent)
    (found : before.rooms.get? place = some room) (busy : room.game = some game)
    (waiting : game.status = .paused) (member : id ∈ room.memberIds)
    (marks : game.Marks id true resumed) (running : resumed.status = .playing)
    (isOf : resumed.IsOf room.memberIds) (connection : Nat) (now : Time) :
    Tables.Coherent
      { rooms := before.rooms.modify place fun room => { room with game := some resumed }
        sessions := room.memberIds.foldl (fun table other => table.modify other Session.endPause)
          (before.sessions.modify id (Session.rebind connection now)) } := by
  have sound := coherent.sound found
  obtain ⟨started, full, _⟩ := sound.busy busy
  refine coherent.refit found
    (fun other session =>
      if other = id then (session.rebind connection now).endPause else session.endPause) ?_
    (RoomTable.eqExcept_modify place _ _) (RoomTable.get?_modify_self found _) rfl
    (.of_busy sound.numbered sound.distinct full rfl started isOf) ?_ ?_
  · intro other
    have others := SessionTable.get?_foldl_modify sound.distinct other (fun _ => Session.endPause)
      (before.sessions.modify id (Session.rebind connection now))
    refine others.trans ?_
    rw [SessionTable.get?_modify]
    by_cases back : other = id
    · subst back
      simp [member, Function.comp_def]
    · simp [back, Ne.symm back]
  · intro other session
    split
    · have same := (session.rebind connection now).sameButStatus_endPause
      exact ⟨same.id_eq, same.room_eq⟩
    · exact ⟨session.sameButStatus_endPause.id_eq, session.sameButStatus_endPause.room_eq⟩
  · rintro _ other there rfl here fits
    have suits := fits.busy busy
    by_cases back : other.id = id
    · simp only [back, if_true]
      have same := (other.rebind connection now).sameButStatus_endPause
      exact .of_busy (same.isKnown (Session.isKnown_rebind fits.known)) rfl
        (suits.rebind_endPause waiting (back ▸ marks) running connection now)
    · simp only [back, if_false]
      exact .of_busy (other.sameButStatus_endPause.isKnown fits.known) rfl
        (suits.endPause waiting marks running isOf here back)

/-- A match goes on waiting after a player has come back. -/
theorem waitOn_coherent {still : Match} (coherent : before.Coherent)
    (found : before.rooms.get? place = some room) (busy : room.game = some game)
    (waiting : game.status = .paused) (member : id ∈ room.memberIds)
    (marks : game.Marks id true still) (paused : still.status = .paused)
    (isOf : still.IsOf room.memberIds) (connection : Nat) (now : Time) :
    Tables.Coherent
      { rooms := before.rooms.modify place fun room => { room with game := some still }
        sessions := (before.sessions.modify id (Session.rebind connection now)).modify id
          fun session => { session with status := .paused } } := by
  have sound := coherent.sound found
  obtain ⟨started, full, _⟩ := sound.busy busy
  refine coherent.refit found
    (fun other session =>
      if other = id then { session.rebind connection now with status := .paused } else session) ?_
    (RoomTable.eqExcept_modify place _ _) (RoomTable.get?_modify_self found _) rfl
    (.of_busy sound.numbered sound.distinct full rfl started isOf) ?_ ?_
  · intro other
    rw [SessionTable.modify_modify, SessionTable.get?_modify]
    by_cases back : other = id
    · subst back
      simp [member, Function.comp_def]
    · simp [back, Ne.symm back]
  · intro other session
    split <;> exact ⟨rfl, rfl⟩
  · rintro _ other there rfl here fits
    have suits := fits.busy busy
    by_cases back : other.id = id
    · simp only [back, if_true]
      have known := fits.known
      exact .of_busy ⟨known.named, known.tokened, rfl⟩ rfl
        (suits.rebind_paused waiting (back ▸ marks) paused connection now)
    · simp only [back, if_false]
      exact .of_busy fits.known rfl (suits.of_marks waiting marks paused back)

/-- A player comes back to a match, which goes on if everybody is there and else waits. -/
theorem resumeMatch_coherent (coherent : before.Coherent) (rooms : state.rooms = before.rooms)
    (sessions : state.sessions = before.sessions.modify id (Session.rebind connection now))
    (held : before.sessions.get? id = some session) (noted : session.room = some place)
    (away : session.isConnected = false) (found : before.rooms.get? place = some room)
    (busy : room.game = some game) :
    (state.resumeMatch id place game).tables.Coherent := by
  have sound := coherent.sound found
  obtain ⟨_, _, isOf⟩ := sound.busy busy
  obtain ⟨member, fits⟩ := coherent.member found held noted
  have waiting : game.status = .paused := by
    apply isOf.paused_of_not_playing
    intro running
    rw [isOf.isConnected running (fits.busy busy).active (coherent.numbered held ▸ member)] at away
    cases away
  obtain ⟨_, _, outbox⟩ := state
  obtain rfl := rooms
  obtain rfl := sessions
  rcases Match.resume_setActive id isOf sound.distinct waiting with
    ⟨active, resumed, goesOn, running, marks, isOf'⟩ | ⟨active, paused, marks, isOf'⟩
  · simp only [resumeMatch, active, if_true, goesOn, Option.getD_some, Option.isSome_some]
    rw [broadcast_tables, showView_tables, reply_tables,
      foldl_tables Seat.session fun _ => Session.endPause, ← Match.map_fst_players, isOf'.players]
    · exact goOn_coherent coherent found busy waiting member marks running isOf' connection now
    · intro state seat
      rfl
  · simp only [resumeMatch, active, Bool.false_eq_true, if_false, Option.getD_none,
      Option.isSome_none, paused, if_true]
    rw [showView_tables, reply_tables]
    exact waitOn_coherent coherent found busy waiting member marks paused isOf' connection now

/-- A player who was dropped comes back, to a match if there is one that waits. -/
theorem resume_coherent (coherent : before.Coherent) (rooms : state.rooms = before.rooms)
    (sessions : state.sessions = before.sessions.modify id (Session.rebind connection now))
    (held : before.sessions.get? id = some session) (known : session.IsKnown)
    (away : session.isConnected = false) :
    (state.resume id).tables.Coherent := by
  have here : state.roomOf? id = session.room := by
    rw [roomOf?, sessions, SessionTable.get?_modify, if_pos rfl, held]
    rfl
  cases coherent.sits held with
  | outside nowhere outside =>
      have nothing : state.matchOf? id = none := by
        rw [matchOf?, here, nowhere]
        rfl
      simp only [resume, nothing]
      exact resumeOutside_coherent coherent rooms sessions held nowhere known
  | @inside place room noted found member fits =>
      cases played : room.game with
      | none =>
          rw [(fits.idle played).1] at away
          cases away
      | some game =>
          have located : state.matchOf? id = some (place, game) := by
            rw [matchOf?, here, noted, Option.bind_some, gameIn?, rooms, found, Option.bind_some,
              played]
            rfl
          simp only [resume, located]
          exact resumeMatch_coherent coherent rooms sessions held noted away found played

/-- A new player is in the lobby. -/
theorem loginNew_coherent (coherent : state.tables.Coherent)
    (held : state.sessions.get? id = some session) (connected : session.isConnected)
    (unknown : session.IsUnknown) (moment : Moment) (nick : String) :
    (state.loginNew moment id nick).state.tables.Coherent := by
  have nowhere := coherent.room_of_unnamed held unknown.named
  unfold loginNew
  split
  · exact coherent
  · refine coherent.modify_outside held nowhere rfl nowhere
      (.inr ⟨⟨rfl, rfl, ?_⟩, fun _ => rfl, ?_⟩)
    · show session.disconnectedAt.isSome = !session.isConnected
      rw [unknown.dated, connected]
      rfl
    · intro away
      exact absurd connected (Bool.not_eq_true _ ▸ away)

/-- A player who was dropped is given the connection, and the slot it had until now is free. -/
theorem loginAgain_coherent (coherent : state.tables.Coherent)
    (held : state.sessions.get? id = some session) (connected : session.isConnected)
    (unknown : session.IsUnknown) (now : Time) (connection : Nat) (nick token : String) :
    (state.loginAgain now id connection nick token).state.tables.Coherent := by
  unfold loginAgain
  split
  · exact coherent
  · next existing found =>
      split
      · exact coherent
      · next target there =>
          split
          · exact coherent
          · next away =>
              split
              · exact coherent
              · next agrees =>
                  have agrees : target.token = some token := Decidable.not_not.1 agrees
                  have different : existing ≠ id := by
                    rintro rfl
                    rw [held] at there
                    cases there
                    exact away connected
                  have known : target.IsKnown := by
                    cases coherent.sits there with
                    | outside _ outside =>
                        rcases outside with nobody | lobby
                        · rw [nobody.tokened] at agrees
                          cases agrees
                        · exact lobby.known
                    | inside _ _ _ fits =>
                        exact fits.known
                  have released := release_coherent coherent now held
                    (coherent.room_of_unnamed held unknown.named)
                  simp only [if_neg different]
                  refine resume_coherent released rfl rfl ?_ known (Bool.not_eq_true _ ▸ away)
                  exact (SessionTable.get?_modify id existing _ _).trans
                    ((if_neg (Ne.symm different)).trans there)

/-- A connection that is not logged in logs in, or does not. -/
theorem onLogin_coherent (coherent : state.tables.Coherent)
    (held : state.sessions.get? id = some session) (connected : session.isConnected)
    (unknown : session.IsUnknown) (moment : Moment) (connection : Nat) (frame : Frame) :
    (state.onLogin moment id connection frame).state.tables.Coherent := by
  unfold onLogin
  split
  · split
    · exact coherent
    · next nick _ =>
        exact loginNew_coherent coherent held connected unknown moment nick
    · next nick token _ =>
        exact loginAgain_coherent coherent held connected unknown moment.now connection nick token
  · exact release_coherent coherent moment.now held
      (coherent.room_of_unnamed held unknown.named)
  · exact coherent

end Transition

end Cardroom
