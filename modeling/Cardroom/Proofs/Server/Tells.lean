import Cardroom.Proofs.Server.Cards

/-!
# What a transition adds to what there is to say

Most operations of the server change rooms and statuses, and tell the players concerned. `Tells` is
what they have in common: the holders of the slots stay the same, no connection is closed, and what
is queued are frames of a few types, for connections that are bound to a slot.
-/

namespace Cardroom

def Tables.IsHeard (connection : Nat) (tables : Tables) : Prop :=
  ∃ id, tables.connectionOf? id = some connection

/-- What has been queued since is of some kind, and no connection has been closed. -/
structure Outbox.Extends (kind : Nat × Frame → Prop) (before outbox : Outbox) : Prop where
  closing : outbox.closing = before.closing
  frames : ∃ added, outbox.frames = before.frames ++ added ∧ ∀ entry ∈ added, kind entry

/-- What a transition has done since it was where another one is: it has told players something in
frames of some types, and every slot is held by whoever held it. -/
structure Transition.Tells (speech : MessageType → Bool) (state before : Transition) : Prop where
  occupants : state.tables.occupants = before.tables.occupants
  queued : Outbox.Extends
    (fun entry => speech entry.2.type ∧ before.tables.IsHeard entry.1) before.outbox state.outbox

theorem Tables.isHeard_congr {tables after : Tables} (same : after.occupants = tables.occupants)
    (connection : Nat) : after.IsHeard connection ↔ tables.IsHeard connection := by
  simp only [IsHeard, connectionOf?_congr same]

namespace Outbox.Extends

variable {kind : Nat × Frame → Prop} {first before outbox : Outbox} {type : MessageType}
  {payload : String}

theorem refl (outbox : Outbox) : outbox.Extends kind outbox :=
  ⟨rfl, [], (List.append_nil _).symm, nofun⟩

theorem trans (sooner : first.Extends kind before) (later : before.Extends kind outbox) :
    first.Extends kind outbox := by
  obtain ⟨told, extended, sooner'⟩ := sooner.frames
  obtain ⟨added, extended', later'⟩ := later.frames
  refine ⟨later.closing.trans sooner.closing, told ++ added, ?_, ?_⟩
  · rw [extended', extended, List.append_assoc]
  · intro entry listed
    exact (List.mem_append.1 listed).elim (sooner' entry) (later' entry)

theorem push {connection : Nat} (queued : before.Extends kind outbox)
    (ofKind : kind (connection, { type, payload })) :
    before.Extends kind (outbox.push connection type payload) := by
  refine queued.trans ⟨rfl, [(connection, { type, payload })], rfl, fun entry listed => ?_⟩
  rw [List.mem_singleton.1 listed]
  exact ofKind

/-- What has been queued for a connection since, and nothing if there was nothing to be queued for
it. -/
theorem framesFor (queued : before.Extends kind outbox) (connection : Nat) :
    ∃ added, outbox.framesFor connection = before.framesFor connection ++ added ∧
      ∀ frame ∈ added, kind (connection, frame) := by
  obtain ⟨added, extended, ofKind⟩ := queued.frames
  refine ⟨(added.filter fun entry => entry.1 == connection).map Prod.snd, ?_, ?_⟩
  · simp only [Outbox.framesFor, extended, List.filter_append, List.map_append]
  · intro frame listed
    obtain ⟨⟨other, sent⟩, present, rfl⟩ := List.mem_map.1 listed
    obtain ⟨member, own⟩ := List.mem_filter.1 present
    obtain rfl : other = connection := beq_iff_eq.1 own
    exact ofKind _ member

end Outbox.Extends

namespace Transition.Tells

variable {speech : MessageType → Bool} {state before : Transition} {type : MessageType}
  {payload : String} {id room : Nat}

theorem refl (state : Transition) : state.Tells speech state :=
  ⟨rfl, .refl _⟩

theorem notify (sofar : state.Tells speech before) (allowed : speech type) (id : Nat)
    {outbox : Outbox}
    (queued : before.outbox.Extends
      (fun entry => speech entry.2.type ∧ before.tables.IsHeard entry.1) outbox) :
    before.outbox.Extends (fun entry => speech entry.2.type ∧ before.tables.IsHeard entry.1)
      (state.sessions.notify id type payload outbox) := by
  unfold SessionTable.notify
  split
  · next session held =>
      unfold Session.notify
      split
      · next connection bound =>
          have heard : state.tables.IsHeard connection :=
            ⟨id, Tables.connectionOf?_eq_some.2 ⟨session, held, bound⟩⟩
          exact queued.push ⟨allowed, (Tables.isHeard_congr sofar.occupants connection).1 heard⟩
      · exact queued
  · exact queued

theorem reply (sofar : state.Tells speech before) (allowed : speech type) (id : Nat) :
    (state.reply id type payload).Tells speech before :=
  ⟨sofar.occupants, sofar.notify allowed id sofar.queued⟩

theorem broadcast (sofar : state.Tells speech before) (allowed : speech type) (room : Nat)
    (exception : Option Nat) :
    (state.broadcast room type payload exception).Tells speech before := by
  refine ⟨sofar.occupants, ?_⟩
  simp only [Transition.broadcast, RoomTable.broadcast]
  split
  · exact sofar.queued
  · exact List.foldlRecOn (motive := fun outbox => before.outbox.Extends _ outbox) _ _ sofar.queued
      fun _ queued member _ => sofar.notify allowed member queued

theorem sendRoomInfo (sofar : state.Tells speech before) (allowed : speech .roomInfo) (room : Nat) :
    (state.sendRoomInfo room).Tells speech before := by
  unfold Transition.sendRoomInfo
  split
  · exact sofar.broadcast allowed room none
  · exact sofar

theorem showView (sofar : state.Tells speech before) (allowed : speech .state) (game : Match)
    (id : Nat) :
    (state.showView game id).Tells speech before := by
  unfold Transition.showView
  split
  · exact sofar.reply allowed id
  · exact sofar

theorem modifySession (sofar : state.Tells speech before) (id : Nat) {change : Session → Session}
    (same : ∀ session, (change session).occupant = session.occupant) :
    (state.modifySession id change).Tells speech before :=
  ⟨(modifySession_occupants same).trans sofar.occupants, sofar.queued⟩

theorem setStatus (sofar : state.Tells speech before) (id : Nat) (status : Session.Status) :
    (state.setStatus id status).Tells speech before :=
  sofar.modifySession id fun _ => rfl

theorem settle (sofar : state.Tells speech before) (id : Nat) (status : Session.Status) :
    (state.settle id status).Tells speech before :=
  sofar.modifySession id fun _ => rfl

theorem withRooms (sofar : state.Tells speech before) (rooms : RoomTable) :
    ({ state with rooms } : Transition).Tells speech before :=
  ⟨sofar.occupants, sofar.queued⟩

theorem foldl {Item : Type} {step : Transition → Item → Transition} (items : List Item)
    (one : ∀ {state : Transition} item, state.Tells speech before →
      (step state item).Tells speech before)
    (sofar : state.Tells speech before) :
    (items.foldl step state).Tells speech before :=
  List.foldlRecOn (motive := fun state : Transition => state.Tells speech before) items step sofar
    fun _ sofar item _ => one item sofar

theorem leaveRoom (sofar : state.Tells speech before) (owned : speech .owner)
    (allowed : speech .roomInfo)
    (id : Nat) :
    (state.leaveRoom id).Tells speech before := by
  unfold Transition.leaveRoom
  split
  · exact sofar
  · have out : (state.modifySession id Session.stepOut).Tells speech before :=
      sofar.modifySession id fun _ => rfl
    dsimp only
    split
    · exact out
    · next owner rooms _ =>
        refine sendRoomInfo (foldl _ ?_ ?_) allowed _
        · exact fun member sofar => sofar.modifySession member fun session =>
            session.sameButStatus_reseat.occupant_eq
        · cases owner with
          | none =>
              exact out.withRooms rooms
          | some owner =>
              exact (out.withRooms rooms).reply owned owner

theorem closeRoom (sofar : state.Tells speech before) (room : Nat) :
    (state.closeRoom room).Tells speech before := by
  unfold Transition.closeRoom
  split
  · exact sofar
  · exact foldl _ (fun member sofar => sofar.modifySession member fun _ => rfl) (sofar.withRooms _)

theorem pauseMatch (sofar : state.Tells speech before) (allowed : speech .paused) (id room : Nat)
    (game : Match) :
    (state.pauseMatch id room game).Tells speech before := by
  unfold Transition.pauseMatch
  refine broadcast (foldl _ ?_ (sofar.withRooms _)) allowed room (some id)
  exact fun other sofar => sofar.modifySession other fun session =>
    session.sameButStatus_suspend.occupant_eq

theorem afterDrop (sofar : state.Tells speech before)
    (allowed : ∀ type ∈ [MessageType.owner, .roomInfo, .notice, .paused], speech type) (id : Nat) :
    (state.afterDrop id).Tells speech before := by
  unfold Transition.afterDrop
  split
  · exact sofar
  · split
    · exact sofar.pauseMatch (allowed .paused (by decide)) id _ _
    · have left := sofar.leaveRoom (allowed .owner (by decide)) (allowed .roomInfo (by decide)) id
      refine broadcast ?_ (allowed .notice (by decide)) _ (some id)
      exact left.modifySession id fun _ => rfl

theorem turnNotice_allowed (allowed : ∀ type ∈ [MessageType.turn, .wait], speech type)
    (onTurn : Bool) : speech (turnNotice onTurn).2.1 := by
  cases onTurn
  · exact allowed .wait (by decide)
  · exact allowed .turn (by decide)

theorem startMatch (sofar : state.Tells speech before)
    (allowed : ∀ type ∈ [MessageType.start, .turn, .wait, .cards], speech type) (config : Config)
    (shuffle : Shuffle) (room : Nat) :
    (state.startMatch config shuffle room).Tells speech before := by
  have notices : ∀ type ∈ [MessageType.turn, .wait], speech type := by
    simpa using ⟨allowed .turn (by decide), allowed .wait (by decide)⟩
  unfold Transition.startMatch
  split
  · exact sofar
  · refine foldl _ ?_ ((sofar.withRooms _).broadcast (allowed .start (by decide)) room none)
    intro state seat sofar
    refine reply (reply ?_ (turnNotice_allowed notices _) seat.session)
      (allowed .cards (by decide)) seat.session
    exact sofar.settle seat.session _

theorem finishMatch (sofar : state.Tells speech before) (allowed : speech .matchEnd)
    (room winner : Nat) (game : Match) :
    (state.finishMatch room winner game).Tells speech before := by
  refine foldl _ ?_ ((sofar.withRooms _).broadcast allowed room none)
  exact fun member sofar => sofar.settle member .matchDone

theorem showTable (sofar : state.Tells speech before) (allowed : speech .state) (game : Match) :
    (state.showTable game).Tells speech before :=
  foldl _ (fun seat sofar => sofar.showView allowed game seat.session) sofar

theorem announceTurn (sofar : state.Tells speech before)
    (allowed : ∀ type ∈ [MessageType.turn, .wait], speech type) (game : Match) :
    (state.announceTurn game).Tells speech before := by
  refine foldl _ ?_ sofar
  intro state seat sofar
  exact (sofar.setStatus seat.session _).reply (turnNotice_allowed allowed _) seat.session

theorem resumeOutside (sofar : state.Tells speech before) (allowed : speech .okay) (id : Nat) :
    (state.resumeOutside id).Tells speech before := by
  unfold Transition.resumeOutside
  split
  · exact sofar
  · refine (sofar.modifySession id fun session => ?_).reply allowed id
    unfold Session.comeBack
    dsimp only
    split <;> rfl

theorem resumeMatch (sofar : state.Tells speech before)
    (allowed : ∀ type ∈ [MessageType.okay, .state, .resumed], speech type) (id room : Nat)
    (game : Match) :
    (state.resumeMatch id room game).Tells speech before := by
  have shown {state : Transition} (sofar : state.Tells speech before) (marker : String)
      (game : Match) : ((state.reply id .okay marker).showView game id).Tells speech before :=
    (sofar.reply (allowed .okay (by decide)) id).showView (allowed .state (by decide)) game id
  unfold Transition.resumeMatch
  dsimp only
  generalize game.setActive id true = present
  generalize (if present.allActive then present.resume? else none) = resumed
  split
  · refine (shown (foldl _ ?_ (sofar.withRooms _)) _ _).broadcast (allowed .resumed (by decide))
      room none
    exact fun seat sofar => sofar.modifySession seat.session fun session =>
      session.sameButStatus_endPause.occupant_eq
  · split
    · exact shown ((sofar.withRooms _).setStatus id .paused) _ _
    · exact shown (sofar.withRooms _) _ _

theorem resume (sofar : state.Tells speech before)
    (allowed : ∀ type ∈ [MessageType.okay, .state, .resumed], speech type) (id : Nat) :
    (state.resume id).Tells speech before := by
  unfold Transition.resume
  split
  · exact sofar.resumeOutside (allowed .okay (by decide)) id
  · exact sofar.resumeMatch allowed id _ _

end Transition.Tells

end Cardroom
