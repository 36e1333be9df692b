import Cardroom.Proofs.Match.Quotation
import Cardroom.Proofs.Room.Size
import Cardroom.Proofs.Server.Run

/-!
# How long the frames are that a transition queues

A frame holds 9999 bytes at most. As long as names are short and rooms are few, every operation of a
transition keeps within that, with one exception: the refusal of a move whose payload is no list of
cards quotes the payload. `Transition.Within` says what may be queued, and each operation preserves
it.
-/

namespace Cardroom

namespace Frame

def Fits (frame : Frame) : Prop :=
  frame.payload.utf8ByteSize ≤ maxPayload

/-- A frame that fits is encoded, and no other. -/
theorem fits_iff {frame : Frame} : frame.Fits ↔ frame.encode = .ok frame.wireBytes := by
  unfold Fits encode
  split
  · next fits =>
      exact iff_of_true fits rfl
  · next long =>
      exact iff_of_false long nofun

/-- An answer quotes a long payload of a move, which cannot be read as cards. -/
def Quotes (asked answer : Frame) : Prop :=
  asked.type.isMove ∧ MoveError.longestQuoted < asked.payload.utf8ByteSize ∧
    ∃ error : CodeError, error.IsFrom asked.payload ∧
      answer = { type := .error, payload := (MoveError.badCards error).message }

/-- Which frames may be queued: all that fit, and perhaps others. -/
structure Allowance where
  allows : Frame → Prop
  fits : ∀ {frame}, frame.Fits → allows frame

def Allowance.any : Allowance where
  allows _ := True
  fits _ := trivial

end Frame

def Outbox.Within (allowance : Frame.Allowance) (outbox : Outbox) : Prop :=
  ∀ entry ∈ outbox.frames, allowance.allows entry.2

namespace Outbox.Within

variable {allowance : Frame.Allowance} {outbox : Outbox} {type : MessageType} {payload : String}

theorem push (within : outbox.Within allowance) (connection : Nat)
    (allowed : allowance.allows { type, payload }) :
    (outbox.push connection type payload).Within allowance := by
  intro entry member
  rcases List.mem_append.1 member with old | new
  · exact within entry old
  · rw [List.mem_singleton.1 new]
    exact allowed

theorem notify (within : outbox.Within allowance) (table : SessionTable) (id : Nat)
    (allowed : allowance.allows { type, payload }) :
    (table.notify id type payload outbox).Within allowance := by
  unfold SessionTable.notify
  split
  · unfold Session.notify
    split
    · exact within.push _ allowed
    · exact within
  · exact within

theorem foldl {Item : Type} {step : Outbox → Item → Outbox}
    (one : ∀ {outbox : Outbox} item, outbox.Within allowance → (step outbox item).Within allowance)
    (within : outbox.Within allowance) (items : List Item) :
    (items.foldl step outbox).Within allowance :=
  items.foldlRecOn step within fun _ within item _ => one item within

theorem broadcast (within : outbox.Within allowance) (sessions : SessionTable) (id : Nat)
    (exception : Option Nat) (table : RoomTable) (allowed : allowance.allows { type, payload }) :
    (table.broadcast id sessions type payload exception outbox).Within allowance := by
  unfold RoomTable.broadcast
  split
  · exact within
  · exact foldl (fun member within => within.notify sessions member allowed) within _

end Outbox.Within

theorem Transition.progress_size {count : Nat} (few : count ≤ Room.places) :
    (Transition.progress count).utf8ByteSize ≤ Frame.maxPayload := by
  have digits : (toString count).utf8ByteSize ≤ 1 :=
    Text.utf8ByteSize_toString_le (by decide) (Nat.lt_of_le_of_lt few (by decide))
  simp only [Transition.progress, String.utf8ByteSize_append, show "(".utf8ByteSize = 1 by decide,
    show "/".utf8ByteSize = 1 by decide, show ")".utf8ByteSize = 1 by decide,
    show (toString Room.places).utf8ByteSize = 1 by decide, Frame.maxPayload]
  omega

theorem Transition.turnNotice_size (onTurn : Bool) :
    (Transition.turnNotice onTurn).2.2.utf8ByteSize ≤ Frame.maxPayload := by
  cases onTurn <;> decide

theorem Session.Status.resumeMarker_size (status : Session.Status) :
    status.resumeMarker.utf8ByteSize ≤ Frame.maxPayload := by
  cases status <;> decide

theorem LoginError.message_size (error : LoginError) :
    error.message.utf8ByteSize ≤ Frame.maxPayload := by
  cases error <;> decide

theorem Token.welcome_size (token : Token) :
    ("Welcome!|" ++ token.text).utf8ByteSize ≤ Frame.maxPayload := by
  have formed := token.isWellFormed_text
  simp only [isWellFormed, Bool.and_eq_true, beq_iff_eq] at formed
  rw [String.utf8ByteSize_append, formed.1]
  decide

theorem Room.number_size {room : Nat} (few : room < RoomTable.mostRooms) :
    (toString room).utf8ByteSize ≤ Frame.maxPayload :=
  Nat.le_trans (Text.utf8ByteSize_toString_le (by decide) few) (show 2 ≤ 9999 by decide)

theorem RoomError.message_size (error : RoomError) :
    error.message.utf8ByteSize ≤ Frame.maxPayload := by
  cases error <;> decide

/-- One more than the turns that a seat can count in thirty-two bits. -/
def Seat.mostTurns : Nat := UInt32.size

def Tables.TurnsCounted (tables : Tables) : Prop :=
  ∀ id room game, tables.rooms.get? id = some room → room.game = some game →
    ∀ seat ∈ game.seats, seat.turnsPlayed < Seat.mostTurns

theorem Tables.turnsCounted_iff {tables : Tables} :
    tables.TurnsCounted ↔ ∀ room ∈ tables.rooms.rooms, ∀ game ∈ room.game,
      ∀ seat ∈ game.seats, seat.turnsPlayed < Seat.mostTurns := by
  constructor
  · intro counted room listed game busy
    obtain ⟨id, found⟩ := RoomTable.mem_rooms.1 listed
    exact counted id room game found busy
  · intro counted id room game found busy
    exact counted room (RoomTable.mem_rooms.2 ⟨id, found⟩) game busy

instance (tables : Tables) : Decidable tables.TurnsCounted :=
  decidable_of_iff _ Tables.turnsCounted_iff.symm

/-! ## Transitions that say what fits -/

/-- Names are short, there are few rooms, and what has been said so far may be queued. -/
structure Transition.Within (allowance : Frame.Allowance) (state : Transition) : Prop where
  names : state.sessions.NamesShort
  rooms : state.rooms.Bounded
  frames : state.outbox.Within allowance

namespace Transition.Within

variable {allowance : Frame.Allowance} {state : Transition} {type : MessageType} {payload : String}

theorem answer (within : state.Within allowance) (id : Nat)
    (allowed : allowance.allows { type, payload }) :
    (state.reply id type payload).Within allowance :=
  ⟨within.names, within.rooms, within.frames.notify state.sessions id allowed⟩

theorem reply (within : state.Within allowance) (id : Nat)
    (short : payload.utf8ByteSize ≤ Frame.maxPayload) :
    (state.reply id type payload).Within allowance :=
  within.answer id (allowance.fits short)

theorem announce (within : state.Within allowance) (room : Nat) (exception : Option Nat)
    (allowed : allowance.allows { type, payload }) :
    (state.broadcast room type payload exception).Within allowance :=
  ⟨within.names, within.rooms,
    within.frames.broadcast state.sessions room exception state.rooms allowed⟩

theorem broadcast (within : state.Within allowance) (room : Nat) (exception : Option Nat)
    (short : payload.utf8ByteSize ≤ Frame.maxPayload) :
    (state.broadcast room type payload exception).Within allowance :=
  within.announce room exception (allowance.fits short)

theorem sendRoomInfo (within : state.Within allowance) (room : Nat) :
    (state.sendRoomInfo room).Within allowance := by
  unfold Transition.sendRoomInfo
  split
  · next found there =>
      have short := (within.rooms.rooms room found there).info within.names
      exact within.broadcast room none (Nat.le_trans short (by decide))
  · exact within

theorem showView (within : state.Within allowance) {game : Match} (bounded : game.Bounded)
    (id : Nat) :
    (state.showView game id).Within allowance := by
  unfold Transition.showView
  split
  · next view seen =>
      exact within.reply id (Nat.le_trans (bounded.view seen) (by decide))
  · exact within

theorem modifySession (within : state.Within allowance) (id : Nat) {change : Session → Session}
    (same : ∀ session, (change session).nick = session.nick) :
    (state.modifySession id change).Within allowance :=
  ⟨within.names.modify id fun session _ named => .inl ((same session).symm.trans named),
    within.rooms, within.frames⟩

theorem release (within : state.Within allowance) (id : Nat) (now : Time) :
    (state.release id now).Within allowance :=
  ⟨within.names.modify id fun _ _ => nofun, within.rooms, within.frames⟩

theorem enterRoom (within : state.Within allowance) (id room : Nat) :
    (state.enterRoom id room).Within allowance :=
  within.modifySession id fun _ => rfl

theorem findRoom (within : state.Within allowance) (id : Nat) :
    (state.findRoom id).Within allowance :=
  within.modifySession id fun _ => rfl

theorem withRooms (within : state.Within allowance) {rooms : RoomTable} (bounded : rooms.Bounded) :
    ({ state with rooms } : Transition).Within allowance :=
  ⟨within.names, bounded, within.frames⟩

theorem modifyRoom (within : state.Within allowance) (id : Nat) {change : Room → Room}
    (changed : ∀ room : Room, room.Bounded → (change room).Bounded) :
    (state.modifyRoom id change).Within allowance :=
  within.withRooms (within.rooms.modify id changed)

theorem setGame (within : state.Within allowance) (room : Nat) {game : Match}
    (bounded : game.Bounded) :
    (state.setGame room game).Within allowance :=
  within.modifyRoom room fun _ found => found.setGame bounded

theorem foldl {Item : Type} {step : Transition → Item → Transition}
    (one : ∀ {state : Transition} item, state.Within allowance →
      (step state item).Within allowance)
    (within : state.Within allowance) (items : List Item) :
    (items.foldl step state).Within allowance :=
  items.foldlRecOn step within fun _ within item _ => one item within

theorem played (within : state.Within allowance) {place : Nat} {room : Room} {game : Match}
    (found : state.rooms.get? place = some room) (busy : room.game = some game) : game.Bounded :=
  (within.rooms.rooms place room found).game game busy

theorem leaveRoom (within : state.Within allowance) (id : Nat) :
    (state.leaveRoom id).Within allowance := by
  have out : (state.modifySession id Session.stepOut).Within allowance :=
    within.modifySession id fun _ => rfl
  unfold Transition.leaveRoom
  split
  · exact within
  · dsimp only
    split
    · exact out
    · next owner rooms granted =>
        have left := out.withRooms (out.rooms.leave granted)
        refine sendRoomInfo (foldl ?_ ?_ _) _
        · exact fun member within =>
            within.modifySession member fun session => session.sameButStatus_reseat.nick_eq
        · cases owner with
          | some owner =>
              exact left.reply owner (by decide)
          | none =>
              exact left

theorem closeRoom (within : state.Within allowance) (room : Nat) :
    (state.closeRoom room).Within allowance := by
  unfold Transition.closeRoom
  split
  · exact within
  · refine foldl ?_ (within.withRooms (within.rooms.set_none room)) _
    exact fun member within => within.modifySession member fun _ => rfl

theorem createRoom (within : state.Within allowance) (id : Nat) (name : String) :
    (state.createRoom id name).Within allowance := by
  unfold Transition.createRoom
  split
  · next error _ =>
      exact within.reply id error.message_size
  · next room rooms granted =>
      obtain ⟨bounded, few⟩ := within.rooms.create granted
      have entered := (within.withRooms bounded).enterRoom id room
      exact ((entered.reply id (Room.number_size few)).reply id (by decide)).sendRoomInfo room

theorem joinRoom (within : state.Within allowance) (id : Nat) (payload : String) :
    (state.joinRoom id payload).Within allowance := by
  unfold Transition.joinRoom
  split
  · exact within.reply id (by decide)
  · next room _ =>
      split
      · next error _ =>
          exact within.reply id error.message_size
      · next rooms granted =>
          obtain ⟨bounded, few⟩ := within.rooms.join granted
          have entered := (within.withRooms bounded).enterRoom id room
          exact (entered.reply id (Room.number_size few)).sendRoomInfo room

theorem onLobby (within : state.Within allowance) (now : Time) (id : Nat) (frame : Frame) :
    (state.onLobby now id frame).2.Within allowance := by
  unfold Transition.onLobby
  split
  · split
    · next list listed =>
        exact within.reply id (Nat.le_trans (within.rooms.list listed) (by decide))
    · exact within.reply id (by decide)
  · exact within.createRoom id frame.payload
  · exact within.joinRoom id frame.payload
  · exact within.release id now
  · exact within.modifySession id fun _ => rfl

theorem getReady (within : state.Within allowance) (id room : Nat) (payload : String) :
    (state.getReady id room payload).Within allowance := by
  unfold Transition.getReady
  split
  · next error _ =>
      exact within.reply id error.message_size
  · next count rooms granted =>
      obtain ⟨bounded, few⟩ := within.rooms.setReady granted
      exact ((within.withRooms bounded).broadcast room none (progress_size few)).sendRoomInfo room

theorem settle (within : state.Within allowance) (id : Nat) (status : Session.Status) :
    (state.settle id status).Within allowance :=
  within.modifySession id fun _ => rfl

theorem setStatus (within : state.Within allowance) (id : Nat) (status : Session.Status) :
    (state.setStatus id status).Within allowance :=
  within.modifySession id fun _ => rfl

theorem startMatch (within : state.Within allowance) (config : Config) (shuffle : Shuffle)
    (room : Nat) :
    (state.startMatch config shuffle room).Within allowance := by
  unfold Transition.startMatch
  split
  · exact within
  · next found there =>
      have few : found.memberIds.length ≤ Room.places := by
        rw [Room.length_memberIds]
        exact (within.rooms.rooms room found there).members
      have dealt := Match.Bounded.start shuffle room config.shuffleDeck few
      dsimp only
      generalize (Match.seat room found.memberIds config.shuffleDeck).start shuffle = game at dealt
      have begun := within.modifyRoom room fun _ bounded => bounded.beginMatch dealt
      refine foldl ?_ (begun.broadcast room none (by decide)) _
      intro state seat within
      have told := turnNotice_size (game.isTurnOf seat.session)
      have settled := within.settle seat.session (turnNotice (game.isTurnOf seat.session)).1
      exact (settled.reply seat.session told).reply seat.session
        (Nat.le_trans (dealt.handCodes seat.session) (by decide))

theorem startForOwner (within : state.Within allowance) (config : Config) (shuffle : Shuffle)
    (id room : Nat) :
    (state.startForOwner config shuffle id room).Within allowance := by
  unfold Transition.startForOwner
  split
  · exact within.reply id (by decide)
  · split
    · exact within.reply id (by decide)
    · split
      · exact within.reply id (by decide)
      · exact within.startMatch config shuffle room

theorem onRoom (within : state.Within allowance) (config : Config) (moment : Moment) (id : Nat)
    (frame : Frame) :
    (state.onRoom config moment id frame).2.Within allowance := by
  have within := within.findRoom id
  unfold Transition.onRoom
  dsimp only
  generalize state.findRoom id = state at within
  split
  · exact (within.setStatus id .connected).reply id (by decide)
  · next room _ =>
      split
      · exact ((within.leaveRoom id).setStatus id .connected).reply id (by decide)
      · exact within.getReady id room frame.payload
      · exact within.startForOwner config moment.shuffle id room
      · exact (within.leaveRoom id).release id moment.now
      · exact within

theorem playAgain (within : state.Within allowance) (config : Config) (shuffle : Shuffle)
    (id room : Nat) (payload : String) :
    (state.playAgain config shuffle id room payload).Within allowance := by
  unfold Transition.playAgain
  dsimp only
  split
  · next error _ =>
      exact within.reply id error.message_size
  · next count rooms granted =>
      obtain ⟨bounded, few⟩ := within.rooms.setReady granted
      have ready := within.withRooms bounded
      split
      · exact ready.startMatch config shuffle room
      · have told : (({ state with rooms } : Transition).broadcast room .playersReady
            (progress count) none).Within allowance :=
          ready.broadcast room none (progress_size few)
        split
        · exact told.reply id (by decide)
        · exact told

theorem onMatchDone (within : state.Within allowance) (config : Config) (moment : Moment)
    (id : Nat) (frame : Frame) :
    (state.onMatchDone config moment id frame).2.Within allowance := by
  have within := within.findRoom id
  unfold Transition.onMatchDone
  dsimp only
  generalize state.findRoom id = state at within
  split
  · exact (within.setStatus id .connected).reply id (by decide)
  · next room _ =>
      split
      · exact within.playAgain config moment.shuffle id room frame.payload
      · exact (within.broadcast room none (by decide)).closeRoom room
      · exact ((within.leaveRoom id).setStatus id .connected).reply id (by decide)
      · exact (within.leaveRoom id).release id moment.now
      · exact within.reply id (by decide)

/-! ## Moves -/

/-- One seat's part of a report: a name and three numbers. -/
theorem seatReport {game : Match} (within : state.Within allowance) (bounded : game.Bounded)
    {seat : Seat} (seated : seat ∈ game.seats) (counted : seat.turnsPlayed ≤ Seat.mostTurns) :
    (Transition.seatReport state.sessions { seat with score := seat.points }).utf8ByteSize ≤
      60 := by
  have name : (nickOf seat.session state.sessions).utf8ByteSize ≤ 31 :=
    within.names.name seat.session
  have hand := bounded.hand_le seated
  have laid := Nat.le_trans (bounded.played seat seated) bounded.tableCount_le
  rw [Card.length_deck] at hand laid
  have points : (toString seat.points).utf8ByteSize ≤ 4 := by
    refine Text.utf8ByteSize_toString_le (by decide) ?_
    have most := seat.points_le
    simp only [Card.jokerValue] at most
    omega
  have cards : (toString seat.cardsPlayed).utf8ByteSize ≤ 3 :=
    Text.utf8ByteSize_toString_le (by decide) (by omega)
  have turns : (toString seat.turnsPlayed).utf8ByteSize ≤ 10 :=
    Text.utf8ByteSize_toString_le (by decide) (Nat.lt_of_le_of_lt counted (by decide))
  simp only [Transition.seatReport, String.utf8ByteSize_append,
    show "|P:".utf8ByteSize = 3 by decide, show ":".utf8ByteSize = 1 by decide]
  omega

theorem matchReport {game : Match} (within : state.Within allowance) (bounded : game.Bounded)
    (counted : ∀ seat ∈ game.seats, seat.turnsPlayed ≤ Seat.mostTurns) (winner : Nat) :
    (Transition.matchReport winner state.sessions game.score).utf8ByteSize ≤
      Frame.maxPayload := by
  have each : ∀ part ∈ game.score.seats.map (Transition.seatReport state.sessions),
      part.utf8ByteSize ≤ 60 := by
    intro part member
    obtain ⟨scored, sits, rfl⟩ := List.mem_map.1 member
    obtain ⟨seat, seated, rfl⟩ := List.mem_map.1 sits
    exact within.seatReport bounded seated (counted seat seated)
  have parts := Text.utf8ByteSize_join_le each
  have seats := bounded.score.seats
  have name : (nickOf winner state.sessions).utf8ByteSize ≤ 31 := within.names.name winner
  rw [List.length_map] at parts
  simp only [Transition.matchReport, String.utf8ByteSize_append,
    show "W:".utf8ByteSize = 2 by decide, Room.places, Frame.maxPayload] at seats parts ⊢
  omega

theorem finishMatch {game : Match} {winner : Nat} (within : state.Within allowance)
    (report : allowance.allows
      { type := .matchEnd
        payload := Transition.matchReport winner state.sessions game.score })
    (room : Nat) :
    (state.finishMatch room winner game).Within allowance := by
  have finished := within.modifyRoom room fun _ bounded => bounded.finishMatch
  refine foldl ?_ (finished.announce room none report) _
  exact fun member within => within.settle member .matchDone

theorem showTable {game : Match} (within : state.Within allowance) (bounded : game.Bounded) :
    (state.showTable game).Within allowance :=
  foldl (fun seat within => within.showView bounded seat.session) within _

theorem announceTurn (within : state.Within allowance) (game : Match) :
    (state.announceTurn game).Within allowance := by
  refine foldl ?_ within _
  intro state seat within
  exact (within.setStatus seat.session _).reply seat.session (turnNotice_size _)

-- How many turns were counted matters for the report on the match only, and so not at all where
-- anything may be queued: names stay short and rooms few whatever was counted.
theorem playMove (within : state.Within allowance)
    (counted : allowance = .any ∨ state.tables.TurnsCounted)
    (quoting : ∀ error : CodeError, error.IsFrom payload →
      MoveError.longestQuoted < payload.utf8ByteSize →
        allowance.allows { type := .error, payload := (MoveError.badCards error).message })
    (shuffle : Shuffle) (id : Nat) (action : MessageType) :
    (state.playMove shuffle id action payload).Within allowance := by
  have within := within.findRoom id
  have counted : allowance = .any ∨ (state.findRoom id).tables.TurnsCounted := counted
  unfold Transition.playMove
  dsimp only
  generalize state.findRoom id = state at within counted
  split
  · exact within.reply id (by decide)
  · next room game located =>
      obtain ⟨_, found, _, _, there, busy⟩ := matchOf?_eq_some located
      have bounded := (within.played there busy).play shuffle id action payload
      split
      · next error after refused =>
          rw [refused] at bounded
          have set := within.setGame room bounded
          rcases MoveError.message_size (Match.play_isAbout refused) with
            short | ⟨long, quotes, source, rfl⟩
          · exact set.reply id short
          · exact set.answer id (quoting quotes source long)
      · next after made =>
          rw [made] at bounded
          have set := within.setGame room bounded
          split
          · refine set.finishMatch ?_ room
            rcases counted with rfl | counted
            · trivial
            · refine allowance.fits (set.matchReport bounded ?_ id)
              have turns := Match.turnsPlayed_play_le shuffle id action payload
                fun seat sits => Nat.le_pred_of_lt (counted room found game there busy seat sits)
              rwa [made] at turns
          · have shown := set.showTable bounded
            split
            · exact shown.reply id (by decide)
            · exact shown.announceTurn after
            · exact shown

theorem onTurn (within : state.Within allowance) {frame : Frame}
    (counted : allowance = .any ∨ state.tables.TurnsCounted)
    (quoting : ∀ answer, frame.Quotes answer → allowance.allows answer)
    (shuffle : Shuffle) (id : Nat) :
    (state.onTurn shuffle id frame).2.Within allowance := by
  unfold Transition.onTurn
  split
  · next move =>
      refine within.playMove counted ?_ shuffle id frame.type
      exact fun error source long => quoting _ ⟨move, long, error, source, rfl⟩
  · exact within

theorem onWait (within : state.Within allowance) (id : Nat) (frame : Frame) :
    (state.onWait id frame).2.Within allowance := by
  unfold Transition.onWait
  split
  · exact within
  · exact within.reply id (by decide)

theorem onPaused (within : state.Within allowance) (id : Nat) (frame : Frame) :
    (state.onPaused id frame).2.Within allowance := by
  unfold Transition.onPaused
  split
  · exact within
  · exact within.reply id (by decide)

theorem resumeOutside (within : state.Within allowance) (id : Nat) :
    (state.resumeOutside id).Within allowance := by
  unfold Transition.resumeOutside
  split
  · exact within
  · next session _ =>
      have back : (state.modifySession id Session.comeBack).Within allowance := by
        refine within.modifySession id fun session => ?_
        unfold Session.comeBack
        dsimp only
        split <;> rfl
      exact back.reply id (Session.Status.resumeMarker_size _)

theorem resumeMatch {game : Match} (within : state.Within allowance) (bounded : game.Bounded)
    (id room : Nat) :
    (state.resumeMatch id room game).Within allowance := by
  have sound := bounded.setActive id true
  unfold Transition.resumeMatch
  dsimp only
  generalize game.setActive id true = present at sound
  have bounded : ((if present.allActive then present.resume? else none).getD present).Bounded := by
    split
    · exact sound.resume?
    · exact sound
  generalize (if present.allActive then present.resume? else none) = resumed at bounded
  have set := within.setGame room bounded
  have told {state : Transition} (within : state.Within allowance) :
      ((state.reply id .okay (((state.sessions.get? id).map fun session =>
        session.status.resumeMarker).getD "LOBBY")).showView (resumed.getD present) id).Within
          allowance := by
    refine (within.reply id ?_).showView bounded id
    cases state.sessions.get? id with
    | none =>
        decide
    | some session =>
        exact session.status.resumeMarker_size
  split
  · refine (told (foldl ?_ set _)).broadcast room none (by decide)
    exact fun seat within =>
      within.modifySession seat.session fun session => session.sameButStatus_endPause.nick_eq
  · split
    · exact told (set.setStatus id .paused)
    · exact told set

theorem resume (within : state.Within allowance) (id : Nat) :
    (state.resume id).Within allowance := by
  unfold Transition.resume
  split
  · exact within.resumeOutside id
  · next room game located =>
      obtain ⟨_, _, _, _, there, busy⟩ := matchOf?_eq_some located
      exact within.resumeMatch (within.played there busy) id room

theorem loginNew (within : state.Within allowance) (moment : Moment) (slot : Nat) {nick : String}
    (short : nick.utf8ByteSize ≤ LoginRequest.longestNick) :
    (state.loginNew moment slot nick).state.Within allowance := by
  unfold Transition.loginNew
  split
  · exact within.reply slot (by decide)
  · refine reply ?_ slot moment.token.welcome_size
    refine ⟨within.names.modify slot ?_, within.rooms, within.frames⟩
    rintro session name named
    cases named
    exact .inr short

theorem loginAgain (within : state.Within allowance) (now : Time) (slot connection : Nat)
    (nick token : String) :
    (state.loginAgain now slot connection nick token).state.Within allowance := by
  unfold Transition.loginAgain
  split
  · exact within.reply slot (by decide)
  · next existing _ =>
      split
      · exact within
      · split
        · exact within.reply slot (by decide)
        · split
          · exact within.reply slot (by decide)
          · have freed : (if existing = slot then state else state.release slot now).Within
                allowance := by
              split
              · exact within
              · exact within.release slot now
            have bound : ((if existing = slot then state else state.release slot now).modifySession
                existing (Session.rebind connection now)).Within allowance :=
              freed.modifySession existing fun _ => rfl
            exact (bound.reply existing (by decide)).resume existing

theorem onLogin (within : state.Within allowance) (moment : Moment) (slot connection : Nat)
    (frame : Frame) :
    (state.onLogin moment slot connection frame).state.Within allowance := by
  unfold Transition.onLogin
  split
  · split
    · next error _ =>
        exact within.reply slot error.message_size
    · next nick request =>
        exact within.loginNew moment slot (LoginRequest.ofPayload_eq_new request).2.short
    · exact within.loginAgain moment.now slot connection _ _
  · exact within.release slot moment.now
  · exact within

theorem pauseMatch {game : Match} (within : state.Within allowance) (bounded : game.Bounded)
    (id room : Nat) :
    (state.pauseMatch id room game).Within allowance := by
  have paused : (((game.setActive id false).pause? pauseText).getD
      (game.setActive id false)).Bounded :=
    (bounded.setActive id false).pause? (by decide)
  unfold Transition.pauseMatch
  dsimp only
  generalize ((game.setActive id false).pause? pauseText).getD (game.setActive id false) = game
    at paused
  have brief : (game.pauseReason.getD "").utf8ByteSize ≤ Frame.maxPayload := by
    cases given : game.pauseReason with
    | none =>
        decide
    | some reason =>
        exact Nat.le_trans (paused.reason reason given) (by decide)
  refine (foldl ?_ (within.setGame room paused) _).broadcast room (some id) brief
  exact fun other within =>
    within.modifySession other fun session => session.sameButStatus_suspend.nick_eq

theorem afterDrop (within : state.Within allowance) (id : Nat) :
    (state.afterDrop id).Within allowance := by
  unfold Transition.afterDrop
  split
  · exact within
  · next room _ =>
      split
      · next game found =>
          obtain ⟨_, there, busy⟩ :=
            Option.bind_eq_some_iff.1 (Option.filter_eq_some_iff.1 found).1
          exact within.pauseMatch (within.played there busy) id room
      · dsimp only
        refine broadcast ?_ room (some id) (by decide)
        exact (within.leaveRoom id).modifySession id fun _ => rfl

theorem disconnect (within : state.Within allowance) (id connection : Nat) (now : Time) :
    (state.disconnect id connection now).Within allowance := by
  unfold Transition.disconnect
  split
  · exact within
  · split
    · exact within
    · split
      · exact within.release id now
      · have names : (state.sessions.detach id connection now).NamesShort := by
          unfold SessionTable.detach
          split
          · exact within.names.modify id fun _ _ named => .inl named
          · exact within.names
        have detached : ({ state with sessions := state.sessions.detach id connection now } :
            Transition).Within allowance :=
          ⟨names, within.rooms, within.frames⟩
        refine (detached.modifySession id fun session => ?_).afterDrop id
        exact session.sameButStatus_drop.nick_eq

theorem pingAll (within : state.Within allowance) : state.pingAll.Within allowance := by
  have short : "".utf8ByteSize ≤ Frame.maxPayload := by decide
  refine ⟨within.names, within.rooms, Outbox.Within.foldl ?_ within.frames _⟩
  exact fun connection within => within.push connection (allowance.fits short)

theorem evict (within : state.Within allowance) (id : Nat) (now : Time) :
    (state.evict id now).Within allowance := by
  unfold Transition.evict
  split
  · exact within
  · next connection _ =>
      have short : "Connection lost (heartbeat)".utf8ByteSize ≤ Frame.maxPayload := by decide
      refine disconnect ?_ id connection now
      exact ⟨within.names, within.rooms, within.frames.push connection (allowance.fits short)⟩

theorem expire (within : state.Within allowance) (id : Nat) (now : Time) :
    (state.expire id now).Within allowance := by
  unfold Transition.expire
  dsimp only
  refine release ?_ id now
  split
  · exact within
  · next room found _ =>
      unfold abandonRoom
      refine foldl ?_ (within.withRooms (within.rooms.set_none room)) _
      intro state other within
      have moved : (state.modifySession other Session.toLobby).Within allowance :=
        within.modifySession other fun _ => rfl
      exact moved.reply other (by decide)

end Transition.Within

end Cardroom
