import Cardroom.Session

/-!
# Changes of status

Most of what happens to a session changes its status and the status that is kept for later, and
nothing else. A session in a room or a match is told apart by both, and by whether it is connected.
-/

namespace Cardroom.Session

/-- Somebody has logged in, and is connected or has been away since a known time. -/
structure IsKnown (session : Session) : Prop where
  named : session.nick.isSome
  tokened : session.token.isSome
  dated : session.disconnectedAt.isSome = !session.isConnected

/-- Two sessions that differ in their statuses only. -/
structure SameButStatus (before after : Session) : Prop where
  eq : after = { before with status := after.status, lastStatus := after.lastStatus }

namespace SameButStatus

variable {before after : Session}

theorem id_eq (same : before.SameButStatus after) : after.id = before.id :=
  (congrArg Session.id same.eq).trans rfl

theorem room_eq (same : before.SameButStatus after) : after.room = before.room :=
  (congrArg Session.room same.eq).trans rfl

theorem nick_eq (same : before.SameButStatus after) : after.nick = before.nick :=
  (congrArg Session.nick same.eq).trans rfl

theorem connection_eq (same : before.SameButStatus after) :
    after.connection = before.connection :=
  (congrArg Session.connection same.eq).trans rfl

theorem isConnected_eq (same : before.SameButStatus after) :
    after.isConnected = before.isConnected :=
  (congrArg Session.isConnected same.eq).trans rfl

theorem isKnown (same : before.SameButStatus after) (known : before.IsKnown) : after.IsKnown := by
  rw [same.eq]
  exact ⟨known.named, known.tokened, known.dated⟩

end SameButStatus

theorem sameButStatus_settle (status : Status) (session : Session) :
    session.SameButStatus (session.settle status) :=
  ⟨rfl⟩

theorem sameButStatus_reseat (session : Session) : session.SameButStatus session.reseat := by
  unfold reseat
  split <;> exact ⟨rfl⟩

theorem sameButStatus_suspend (session : Session) : session.SameButStatus session.suspend := by
  unfold suspend rememberStatus
  split
  · split <;> exact ⟨rfl⟩
  · exact ⟨rfl⟩

theorem sameButStatus_endPause (session : Session) : session.SameButStatus session.endPause := by
  unfold endPause
  split <;> exact ⟨rfl⟩

theorem sameButStatus_drop (session : Session) : session.SameButStatus session.drop := by
  unfold drop rememberStatus
  split <;> exact ⟨rfl⟩

theorem reseat_status {session : Session} (connected : session.isConnected) :
    session.reseat.status = .inRoom := by
  unfold reseat
  split
  · rfl
  · next calm =>
      simpa [connected] using calm

/-- A pause does not make a player forget whose turn it is, even if the match is paused already. -/
theorem rememberStatus_lastStatus {session : Session} {turn : Status}
    (running : session.status ≠ .paused → session.status = turn)
    (waiting : session.status = .paused → session.lastStatus = turn) :
    session.rememberStatus.lastStatus = turn := by
  unfold rememberStatus
  split
  · next paused =>
      exact waiting paused
  · next unpaused =>
      exact running unpaused

end Cardroom.Session
