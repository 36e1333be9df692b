import Cardroom.Proofs.Room.Table
import Cardroom.Proofs.Server.Coherent
import Cardroom.Proofs.Server.Identity
import Cardroom.Server.Dispatch
import Cardroom.Server.Sweep

/-!
# How far a transition reaches

A transition concerns some players, some rooms, and the connections of those players. `Scope` says
which these are, and `Transition.Confined` that nothing else has changed so far and that nobody else
has been told anything. Each operation of the server stays within a scope that holds the player it
is asked for by and the room that the player is in. Only a few operations show cards or deal a
match, and for these the scope has to be open.
-/

namespace Cardroom

def MessageType.showsCards : MessageType → Bool
  | .state | .cards => true
  | _ => false

/-- Whom and what a transition may concern. -/
structure Scope where
  /-- The players whose sessions may change. -/
  people : Nat → Prop
  /-- The rooms that may change. -/
  places : Nat → Prop
  /-- The connections that may be told something. -/
  ears : Nat → Prop
  /-- The connections that may be shown cards. -/
  eyes : Nat → Prop
  /-- Whether a match may be dealt. -/
  deals : Prop

/-- Cards may be dealt, and shown to whoever may be told something. -/
structure Scope.IsOpen (scope : Scope) : Prop where
  shows : ∀ connection, scope.ears connection → scope.eyes connection
  deals : scope.deals

def Match.Among (people : Nat → Prop) (game : Match) : Prop :=
  ∀ session ∈ game.seats.map Seat.session, people session

structure Room.Among (people : Nat → Prop) (room : Room) : Prop where
  members : ∀ member ∈ room.memberIds, people member
  game : ∀ game, room.game = some game → game.Among people

def Outbox.Reaches (scope : Scope) (outbox : Outbox) : Prop :=
  ∀ entry ∈ outbox.frames,
    scope.ears entry.1 ∧ (entry.2.type.showsCards = true → scope.eyes entry.1)

/-- Outside the scope everything is as before, and nobody there was told anything. -/
structure Transition.Confined (scope : Scope) (before : Tables) (state : Transition) : Prop where
  sessions : ∀ id, ¬scope.people id → state.sessions.get? id = before.sessions.get? id
  rooms : ∀ place, ¬scope.places place → state.rooms.get? place = before.rooms.get? place
  among : ∀ place room, scope.places place → state.rooms.get? place = some room →
    room.Among scope.people
  bound : ∀ id session connection, scope.people id → state.sessions.get? id = some session →
    session.connection = some connection → scope.ears connection
  idle : ¬scope.deals → ∀ place, (Transition.start before).gameIn? place = none →
    state.gameIn? place = none
  frames : state.outbox.Reaches scope

namespace Match.Among

variable {people : Nat → Prop} {game : Match}

theorem congr (among : game.Among people) {after : Match}
    (same : after.seats.map Seat.session = game.seats.map Seat.session) : after.Among people := by
  unfold Match.Among
  rwa [same]

theorem of_gathered (among : game.Among people) {after : Match}
    (same : after.gathered = game.gathered) : after.Among people :=
  among.congr (Match.sessions_of_gathered same)

theorem start {members : List Nat} (among : ∀ member ∈ members, people member) (shuffle : Shuffle)
    (room : Nat) (shuffled : Bool) :
    ((Match.seat room members shuffled).start shuffle).Among people := by
  unfold Match.Among
  rw [← Match.map_fst_players, Match.start_players, Match.seat_players, List.map_map]
  simpa [Function.comp_def] using among

end Match.Among

/-! ## Speaking -/

namespace Outbox.Reaches

variable {scope : Scope} {outbox : Outbox} {type : MessageType} {payload : String}

theorem push (reaches : outbox.Reaches scope) {connection : Nat} (heard : scope.ears connection)
    (seen : type.showsCards = true → scope.eyes connection) :
    (outbox.push connection type payload).Reaches scope := by
  intro entry member
  rcases List.mem_append.1 member with old | new
  · exact reaches entry old
  · rw [List.mem_singleton.1 new]
    exact ⟨heard, seen⟩

theorem foldl {Item : Type} {step : Outbox → Item → Outbox} {items : List Item}
    (one : ∀ {outbox : Outbox} item, item ∈ items → outbox.Reaches scope →
      (step outbox item).Reaches scope)
    (reaches : outbox.Reaches scope) :
    (items.foldl step outbox).Reaches scope :=
  items.foldlRecOn step reaches fun _ reaches item member => one item member reaches

end Outbox.Reaches

namespace Transition.Confined

variable {scope : Scope} {before : Tables} {state : Transition} {type : MessageType}
  {payload : String} {id room : Nat}

theorem notify (confined : state.Confined scope before) (own : scope.people id)
    (seen : type.showsCards = true → scope.IsOpen) {outbox : Outbox}
    (reaches : outbox.Reaches scope) :
    (state.sessions.notify id type payload outbox).Reaches scope := by
  unfold SessionTable.notify
  split
  · next session held =>
      unfold Session.notify
      split
      · next connection bound =>
          have heard := confined.bound id session connection own held bound
          exact reaches.push heard fun cards => (seen cards).shows connection heard
      · exact reaches
  · exact reaches

theorem say (confined : state.Confined scope before) (own : scope.people id)
    (seen : type.showsCards = true → scope.IsOpen) :
    (state.reply id type payload).Confined scope before where
  sessions := confined.sessions
  rooms := confined.rooms
  among := confined.among
  bound := confined.bound
  idle := confined.idle
  frames := confined.notify own seen confined.frames

theorem reply (confined : state.Confined scope before) (own : scope.people id)
    (plain : type.showsCards = false) :
    (state.reply id type payload).Confined scope before :=
  confined.say own fun cards => absurd (plain.symm.trans cards) Bool.false_ne_true

theorem broadcast (confined : state.Confined scope before) (here : scope.places room)
    (exception : Option Nat) (plain : type.showsCards = false) :
    (state.broadcast room type payload exception).Confined scope before := by
  refine ⟨confined.sessions, confined.rooms, confined.among, confined.bound, confined.idle, ?_⟩
  simp only [Transition.broadcast, RoomTable.broadcast]
  split
  · exact confined.frames
  · next found there =>
      refine confined.frames.foldl fun member listed reaches => ?_
      have own := (confined.among room found here there).members member (List.mem_filter.1 listed).1
      exact confined.notify own (fun cards => absurd (plain.symm.trans cards) Bool.false_ne_true)
        reaches

theorem sendRoomInfo (confined : state.Confined scope before) (here : scope.places room) :
    (state.sendRoomInfo room).Confined scope before := by
  unfold Transition.sendRoomInfo
  split
  · exact confined.broadcast here none rfl
  · exact confined

theorem showView (confined : state.Confined scope before) (own : scope.people id)
    (sees : scope.IsOpen) (game : Match) :
    (state.showView game id).Confined scope before := by
  unfold Transition.showView
  split
  · exact confined.say own fun _ => sees
  · exact confined

/-- Sessions of the scope change, and come to no connection from outside it. -/
theorem updateSession (confined : state.Confined scope before) (own : scope.people id)
    {change : Session → Session}
    (bound : ∀ session connection, state.sessions.get? id = some session →
      (change session).connection = some connection → scope.ears connection) :
    (state.modifySession id change).Confined scope before where
  sessions other stranger := by
    have different : id ≠ other := by
      rintro rfl
      exact stranger own
    exact (SessionTable.get?_modify id other _ _).trans
      ((if_neg different).trans (confined.sessions other stranger))
  rooms := confined.rooms
  among := confined.among
  bound other session connection inside held binds := by
    have held : (state.sessions.modify id change).get? other = some session := held
    rw [SessionTable.get?_modify] at held
    split at held
    · next here =>
        subst here
        obtain ⟨earlier, there, rfl⟩ := Option.map_eq_some_iff.1 held
        exact bound earlier connection there binds
    · exact confined.bound other session connection inside held binds
  idle := confined.idle
  frames := confined.frames

theorem modifySession (confined : state.Confined scope before) (own : scope.people id)
    {change : Session → Session}
    (same : ∀ session, (change session).connection = session.connection) :
    (state.modifySession id change).Confined scope before :=
  confined.updateSession own fun session connection held binds =>
    confined.bound id session connection own held ((same session).symm.trans binds)

theorem sameButStatus (confined : state.Confined scope before) (own : scope.people id)
    {change : Session → Session}
    (same : ∀ session : Session, session.SameButStatus (change session)) :
    (state.modifySession id change).Confined scope before :=
  confined.modifySession own fun session => (same session).connection_eq

theorem setStatus (confined : state.Confined scope before) (own : scope.people id)
    (status : Session.Status) :
    (state.setStatus id status).Confined scope before :=
  confined.modifySession own fun _ => rfl

theorem settle (confined : state.Confined scope before) (own : scope.people id)
    (status : Session.Status) :
    (state.settle id status).Confined scope before :=
  confined.modifySession own fun _ => rfl

theorem release (confined : state.Confined scope before) (own : scope.people id) (now : Time) :
    (state.release id now).Confined scope before :=
  confined.updateSession own fun _ _ _ => nofun

/-- A room of the scope changes, and nobody from outside the scope comes to it. -/
theorem withRooms (confined : state.Confined scope before) (here : scope.places room)
    {rooms : RoomTable} (elsewhere : state.rooms.EqExcept room rooms)
    (among : ∀ later, rooms.get? room = some later → later.Among scope.people)
    (idle : ∀ later, rooms.get? room = some later → ¬scope.deals →
      state.gameIn? room = none → later.game = none) :
    ({ state with rooms } : Transition).Confined scope before where
  sessions := confined.sessions
  rooms place outside := by
    have different : place ≠ room := by
      rintro rfl
      exact outside here
    exact (elsewhere place different).trans (confined.rooms place outside)
  among place found inside there := by
    by_cases same : place = room
    · subst same
      exact among found there
    · exact confined.among place found inside ((elsewhere place same).symm.trans there)
  bound := confined.bound
  idle still place nothing := by
    have nothing := confined.idle still place nothing
    show (rooms.get? place).bind Room.game = none
    by_cases same : place = room
    · subst same
      cases there : rooms.get? place with
      | none =>
          rfl
      | some later =>
          exact idle later there still nothing
    · rw [elsewhere place same]
      exact nothing
  frames := confined.frames

theorem modifyRoom (confined : state.Confined scope before) (here : scope.places room)
    {change : Room → Room}
    (among : ∀ found, state.rooms.get? room = some found → (change found).Among scope.people)
    (idle : ∀ found, state.rooms.get? room = some found → ¬scope.deals → found.game = none →
      (change found).game = none) :
    (state.modifyRoom room change).Confined scope before := by
  refine confined.withRooms here (RoomTable.eqExcept_modify room change state.rooms) ?_ ?_
  · intro later there
    rw [RoomTable.get?_modify, if_pos rfl] at there
    obtain ⟨found, held, rfl⟩ := Option.map_eq_some_iff.1 there
    exact among found held
  · intro later there still nothing
    rw [RoomTable.get?_modify, if_pos rfl] at there
    obtain ⟨found, held, rfl⟩ := Option.map_eq_some_iff.1 there
    rw [Transition.gameIn?, held] at nothing
    exact idle found held still nothing

/-- The match of a room is replaced by what has become of it. -/
theorem setGame (confined : state.Confined scope before) (here : scope.places room)
    {played game : Match} (busy : state.gameIn? room = some played)
    (among : game.Among scope.people) :
    (state.setGame room game).Confined scope before := by
  refine confined.modifyRoom here (fun found there => ?_) fun found there _ nothing => ?_
  · exact ⟨(confined.among room found here there).members,
      fun _ same => Option.some.inj same ▸ among⟩
  · rw [Transition.gameIn?, there, Option.bind_some, nothing] at busy
    cases busy

theorem foldl {Item : Type} {step : Transition → Item → Transition} {items : List Item}
    (one : ∀ {state : Transition} item, item ∈ items → state.Confined scope before →
      (step state item).Confined scope before)
    (confined : state.Confined scope before) :
    (items.foldl step state).Confined scope before :=
  items.foldlRecOn step confined fun _ confined item member => one item member confined

theorem memberIds (confined : state.Confined scope before) (here : scope.places room) :
    ∀ member ∈ ((state.rooms.get? room).map Room.memberIds).getD [], scope.people member := by
  intro member listed
  cases there : state.rooms.get? room with
  | none =>
      rw [there] at listed
      cases listed
  | some found =>
      rw [there] at listed
      exact (confined.among room found here there).members member listed

theorem roomOf?_modifySession {change : Session → Session}
    (same : ∀ session, (change session).room = session.room) (id other : Nat)
    (state : Transition) :
    (state.modifySession other change).roomOf? id = state.roomOf? id := by
  simp only [Transition.roomOf?, Transition.modifySession, SessionTable.get?_modify]
  split
  · cases state.sessions.get? id with
    | none =>
        rfl
    | some session =>
        exact same session
  · rfl

theorem leaveRoom (confined : state.Confined scope before) (own : scope.people id)
    (here : ∀ room, state.roomOf? id = some room → scope.places room) :
    (state.leaveRoom id).Confined scope before := by
  unfold Transition.leaveRoom
  split
  · exact confined
  · next room noted =>
      have here := here room noted
      have out : (state.modifySession id Session.stepOut).Confined scope before :=
        confined.modifySession own fun _ => rfl
      dsimp only
      split
      · exact out
      · next owner rooms granted =>
          obtain ⟨found, there, lowest, fewer⟩ := RoomTable.leave_eq_ok granted
          have members := (confined.among room found here there).members
          have left : ({ state.modifySession id Session.stepOut with rooms } :
              Transition).Confined scope before := by
            refine out.withRooms here (RoomTable.leave_eqExcept granted) (fun later remains => ?_)
              fun later remains _ _ => (fewer later remains).1
            obtain ⟨idle, remaining⟩ := fewer later remains
            refine ⟨fun member listed => members member (remaining member listed), ?_⟩
            intro game busy
            rw [idle] at busy
            cases busy
          refine sendRoomInfo (foldl ?_ ?_) here
          · exact fun member listed confined =>
              confined.sameButStatus (left.memberIds here member (by
                cases owner <;> exact listed)) Session.sameButStatus_reseat
          · cases owner with
            | some owner =>
                exact left.reply (members owner (lowest owner rfl)) rfl
            | none =>
                exact left

theorem removeRoom (confined : state.Confined scope before) (here : scope.places room) :
    ({ state with rooms := state.rooms.remove room } : Transition).Confined scope before := by
  have gone : ∀ later, (state.rooms.remove room).get? room ≠ some later := by
    intro later remains
    rw [RoomTable.remove, RoomTable.get?_set_none, if_pos rfl] at remains
    cases remains
  exact confined.withRooms here (RoomTable.eqExcept_set_none room state.rooms)
    (fun later remains => absurd remains (gone later))
    fun later remains => absurd remains (gone later)

theorem closeRoom (confined : state.Confined scope before) (here : scope.places room) :
    (state.closeRoom room).Confined scope before := by
  unfold Transition.closeRoom
  split
  · exact confined
  · next found there =>
      have members := (confined.among room found here there).members
      refine (confined.removeRoom here).foldl fun member listed confined => ?_
      exact confined.modifySession (members member listed) fun _ => rfl

theorem startMatch (confined : state.Confined scope before) (here : scope.places room)
    (sees : scope.IsOpen) (config : Config) (shuffle : Shuffle) :
    (state.startMatch config shuffle room).Confined scope before := by
  unfold Transition.startMatch
  split
  · exact confined
  · next found there =>
      have members := (confined.among room found here there).members
      have dealt := Match.Among.start members shuffle room config.shuffleDeck
      dsimp only
      generalize (Match.seat room found.memberIds config.shuffleDeck).start shuffle = game at dealt
      have begun : (state.modifyRoom room (Room.beginMatch game)).Confined scope before := by
        refine confined.modifyRoom here (fun held same => ⟨?_, ?_⟩)
          fun _ _ still => absurd sees.deals still
        · rw [Room.beginMatch_memberIds]
          exact (confined.among room held here same).members
        · intro played busy
          rw [Room.beginMatch_game] at busy
          exact Option.some.inj busy ▸ dealt
      refine foldl ?_ (begun.broadcast here none rfl)
      intro state seat listed confined
      have own := dealt seat.session (List.mem_map_of_mem listed)
      refine say (say (confined.settle own _) own fun _ => sees) own fun _ => sees

theorem finishMatch (confined : state.Confined scope before) (here : scope.places room)
    (winner : Nat) (game : Match) :
    (state.finishMatch room winner game).Confined scope before := by
  have finished : (state.modifyRoom room Room.finishMatch).Confined scope before := by
    refine confined.modifyRoom here (fun held same => ⟨?_, ?_⟩)
      fun held _ _ _ => held.finishMatch_game
    · rw [Room.finishMatch_memberIds]
      exact (confined.among room held here same).members
    · intro played busy
      rw [Room.finishMatch_game] at busy
      cases busy
  refine foldl ?_ (finished.broadcast here none rfl)
  exact fun member listed confined' => confined'.settle (confined.memberIds here member listed) _

theorem showTable (confined : state.Confined scope before) (sees : scope.IsOpen) {game : Match}
    (among : game.Among scope.people) :
    (state.showTable game).Confined scope before :=
  foldl (fun seat listed confined =>
    confined.showView (among seat.session (List.mem_map_of_mem listed)) sees game) confined

theorem turnNotice_plain (onTurn : Bool) : (turnNotice onTurn).2.1.showsCards = false := by
  cases onTurn <;> rfl

theorem announceTurn (confined : state.Confined scope before) {game : Match}
    (among : game.Among scope.people) :
    (state.announceTurn game).Confined scope before := by
  refine foldl ?_ confined
  intro state seat listed confined
  have own := among seat.session (List.mem_map_of_mem listed)
  exact (confined.setStatus own _).reply own (turnNotice_plain _)

theorem playMove (confined : state.Confined scope before) (coherent : state.tables.Coherent)
    (own : scope.people id) (here : ∀ room, state.roomOf? id = some room → scope.places room)
    (sees : scope.IsOpen) (shuffle : Shuffle) (action : MessageType) :
    (state.playMove shuffle id action payload).Confined scope before := by
  unfold Transition.playMove
  rw [findRoom_eq_self coherent]
  dsimp only
  split
  · exact confined.reply own rfl
  · next room game located =>
      obtain ⟨session, found, held, noted, there, busy⟩ := matchOf?_eq_some located
      have here := here room (by rw [Transition.roomOf?, held]; exact noted)
      have played : state.gameIn? room = some game := by
        rw [Transition.gameIn?, there]
        exact busy
      have among := ((confined.among room found here there).game game busy).congr
        (Match.map_session_play shuffle id action payload game)
      split
      · next error after refused =>
          rw [refused] at among
          exact (confined.setGame here played among).reply own rfl
      · next after made =>
          rw [made] at among
          have set := confined.setGame here played among
          split
          · exact set.finishMatch here id after
          · have shown := set.showTable sees among
            split
            · exact shown.reply own rfl
            · exact shown.announceTurn among
            · exact shown

theorem onTurn (confined : state.Confined scope before) (coherent : state.tables.Coherent)
    (own : scope.people id) (here : ∀ room, state.roomOf? id = some room → scope.places room)
    {frame : Frame} (sees : frame.type.isMove = true → scope.IsOpen) (shuffle : Shuffle) :
    (state.onTurn shuffle id frame).2.Confined scope before := by
  unfold Transition.onTurn
  split
  · next moves =>
      exact confined.playMove coherent own here (sees moves) shuffle frame.type
  · exact confined

theorem onWait (confined : state.Confined scope before) (own : scope.people id) (frame : Frame) :
    (state.onWait id frame).2.Confined scope before := by
  unfold Transition.onWait
  split
  · exact confined
  · exact confined.reply own rfl

theorem onPaused (confined : state.Confined scope before) (own : scope.people id)
    (frame : Frame) :
    (state.onPaused id frame).2.Confined scope before := by
  unfold Transition.onPaused
  split
  · exact confined
  · exact confined.reply own rfl

/-! ## In the lobby and in a room -/

theorem createRoom (confined : state.Confined scope before) (own : scope.people id) {name : String}
    (opened : ∀ room rooms, state.rooms.create (Text.trim name) id = .ok (room, rooms) →
      scope.places room) :
    (state.createRoom id name).Confined scope before := by
  unfold Transition.createRoom
  split
  · exact confined.reply own rfl
  · next room rooms granted =>
      have here := opened room rooms granted
      obtain ⟨_, elsewhere, there⟩ := RoomTable.create_eq_ok granted
      have grown : ({ state with rooms } : Transition).Confined scope before := by
        refine confined.withRooms here elsewhere (fun later found => ?_) fun later found _ _ => ?_
        · obtain rfl := Option.some.inj (there.symm.trans found)
          exact ⟨fun member listed => List.mem_singleton.1 listed ▸ own, nofun⟩
        · obtain rfl := Option.some.inj (there.symm.trans found)
          rfl
      have entered :
          (({ state with rooms } : Transition).enterRoom id room).Confined scope before :=
        grown.modifySession own fun _ => rfl
      exact ((entered.reply own rfl).reply own rfl).sendRoomInfo here

theorem joinRoom (confined : state.Confined scope before) (own : scope.people id)
    (entered : ∀ room rooms, Text.number? (Text.trim payload) = some room →
      state.rooms.join room id = .ok rooms → scope.places room) :
    (state.joinRoom id payload).Confined scope before := by
  unfold Transition.joinRoom
  split
  · exact confined.reply own rfl
  · next room numbered =>
      split
      · exact confined.reply own rfl
      · next rooms granted =>
          have here := entered room rooms numbered granted
          obtain ⟨found, joined, there, -, -, -, -, elsewhere, after, -, members, game, -, -⟩ :=
            RoomTable.join_eq_ok granted
          have among := confined.among room found here there
          have grown : ({ state with rooms } : Transition).Confined scope before := by
            refine confined.withRooms here elsewhere (fun later same => ?_)
              fun later same _ nothing => ?_
            · obtain rfl := Option.some.inj (after.symm.trans same)
              refine ⟨?_, fun played busy => among.game played (game.symm.trans busy)⟩
              intro member listed
              rw [members, List.mem_append, List.mem_singleton] at listed
              rcases listed with old | rfl
              · exact among.members member old
              · exact own
            · obtain rfl := Option.some.inj (after.symm.trans same)
              rw [Transition.gameIn?, there] at nothing
              exact game.trans nothing
          have moved : (({ state with rooms } : Transition).enterRoom id room).Confined scope
              before :=
            grown.modifySession own fun _ => rfl
          exact (moved.reply own rfl).sendRoomInfo here

theorem onLobby (confined : state.Confined scope before) (own : scope.people id) {frame : Frame}
    (opened : ∀ room rooms, frame.type = .createRoom →
      state.rooms.create (Text.trim frame.payload) id = .ok (room, rooms) → scope.places room)
    (entered : ∀ room rooms, frame.type = .joinRoom →
      Text.number? (Text.trim frame.payload) = some room →
        state.rooms.join room id = .ok rooms → scope.places room)
    (now : Time) :
    (state.onLobby now id frame).2.Confined scope before := by
  unfold Transition.onLobby
  split
  · split <;> exact confined.reply own rfl
  · next asked =>
      dsimp only
      exact confined.createRoom own fun room rooms => opened room rooms asked
  · next asked =>
      dsimp only
      exact confined.joinRoom own fun room rooms => entered room rooms asked
  · exact confined.release own now
  · exact confined.modifySession own fun _ => rfl

theorem setReady (confined : state.Confined scope before) (here : scope.places room) {count : Nat}
    {ready : Bool} {rooms : RoomTable}
    (granted : state.rooms.setReady room id ready = .ok (count, rooms)) :
    ({ state with rooms } : Transition).Confined scope before := by
  obtain ⟨found, changed, there, elsewhere, after, -, members, game, -, -⟩ :=
    RoomTable.setReady_eq_ok granted
  have among := confined.among room found here there
  refine confined.withRooms here elsewhere (fun later same => ?_) fun later same _ nothing => ?_
  · obtain rfl := Option.some.inj (after.symm.trans same)
    exact ⟨members ▸ among.members, game ▸ among.game⟩
  · obtain rfl := Option.some.inj (after.symm.trans same)
    rw [Transition.gameIn?, there] at nothing
    exact game.trans nothing

theorem getReady (confined : state.Confined scope before) (own : scope.people id)
    (here : scope.places room) :
    (state.getReady id room payload).Confined scope before := by
  unfold Transition.getReady
  split
  · exact confined.reply own rfl
  · next count rooms granted =>
      exact ((confined.setReady here granted).broadcast here none rfl).sendRoomInfo here

theorem startForOwner (confined : state.Confined scope before) (own : scope.people id)
    (here : scope.places room) (sees : scope.IsOpen) (config : Config) (shuffle : Shuffle) :
    (state.startForOwner config shuffle id room).Confined scope before := by
  unfold Transition.startForOwner
  split
  · exact confined.reply own rfl
  · split
    · exact confined.reply own rfl
    · split
      · exact confined.reply own rfl
      · exact confined.startMatch here sees config shuffle

theorem playAgain (confined : state.Confined scope before) (own : scope.people id)
    (here : scope.places room) (sees : scope.IsOpen) (config : Config) (shuffle : Shuffle) :
    (state.playAgain config shuffle id room payload).Confined scope before := by
  unfold Transition.playAgain
  dsimp only
  split
  · exact confined.reply own rfl
  · next count rooms granted =>
      have ready := confined.setReady here granted
      split
      · exact ready.startMatch here sees config shuffle
      · have told : (({ state with rooms } : Transition).broadcast room .playersReady
            (progress count) none).Confined scope before :=
          ready.broadcast here none rfl
        split
        · exact told.reply own rfl
        · exact told

theorem onRoom (confined : state.Confined scope before) (coherent : state.tables.Coherent)
    (own : scope.people id) (here : ∀ room, state.roomOf? id = some room → scope.places room)
    {frame : Frame} (sees : frame.type = .start → scope.IsOpen) (config : Config)
    (moment : Moment) :
    (state.onRoom config moment id frame).2.Confined scope before := by
  unfold Transition.onRoom
  rw [findRoom_eq_self coherent]
  dsimp only
  split
  · exact (confined.setStatus own .connected).reply own rfl
  · next room noted =>
      have left := confined.leaveRoom own here
      split
      · exact (left.setStatus own .connected).reply own rfl
      · exact confined.getReady own (here room noted)
      · next asked =>
          exact confined.startForOwner own (here room noted) (sees asked) config moment.shuffle
      · exact left.release own moment.now
      · exact confined

theorem onMatchDone (confined : state.Confined scope before) (coherent : state.tables.Coherent)
    (own : scope.people id) (here : ∀ room, state.roomOf? id = some room → scope.places room)
    {frame : Frame} (sees : frame.type = .playAgain → scope.IsOpen) (config : Config)
    (moment : Moment) :
    (state.onMatchDone config moment id frame).2.Confined scope before := by
  unfold Transition.onMatchDone
  rw [findRoom_eq_self coherent]
  dsimp only
  split
  · exact (confined.setStatus own .connected).reply own rfl
  · next room noted =>
      have left := confined.leaveRoom own here
      split
      · next asked =>
          exact confined.playAgain own (here room noted) (sees asked) config moment.shuffle
      · exact (confined.broadcast (here room noted) none rfl).closeRoom (here room noted)
      · exact (left.setStatus own .connected).reply own rfl
      · exact left.release own moment.now
      · exact confined.reply own rfl

/-! ## Coming back -/

theorem resumeOutside (confined : state.Confined scope before) (own : scope.people id) :
    (state.resumeOutside id).Confined scope before := by
  unfold Transition.resumeOutside
  split
  · exact confined
  · refine (confined.modifySession own fun session => ?_).reply own rfl
    unfold Session.comeBack
    dsimp only
    split <;> rfl

theorem resumeMatch (confined : state.Confined scope before) (own : scope.people id)
    (here : scope.places room) (sees : scope.IsOpen) {game : Match}
    (busy : state.gameIn? room = some game) (among : game.Among scope.people) :
    (state.resumeMatch id room game).Confined scope before := by
  have returned := among.of_gathered (Match.gathered_setActive id true game)
  unfold Transition.resumeMatch
  dsimp only
  generalize game.setActive id true = present at returned
  have among : ((if present.allActive then present.resume? else none).getD present).Among
      scope.people := by
    split
    · unfold Match.resume?
      split <;> exact returned
    · exact returned
  generalize (if present.allActive then present.resume? else none) = resumed at among
  have set := confined.setGame here busy among
  have told {state : Transition} (confined : state.Confined scope before) (marker : String) :
      ((state.reply id .okay marker).showView (resumed.getD present) id).Confined scope before :=
    (confined.reply own rfl).showView own sees _
  split
  · refine (told (foldl ?_ set) _).broadcast here none rfl
    exact fun seat listed confined => confined.sameButStatus
      (among seat.session (List.mem_map_of_mem listed)) Session.sameButStatus_endPause
  · split
    · exact told (set.setStatus own .paused) _
    · exact told set _

theorem resume (confined : state.Confined scope before) (own : scope.people id)
    (here : ∀ room, state.roomOf? id = some room → scope.places room) (sees : scope.IsOpen) :
    (state.resume id).Confined scope before := by
  unfold Transition.resume
  split
  · exact confined.resumeOutside own
  · next room game located =>
      obtain ⟨session, found, held, noted, there, busy⟩ := matchOf?_eq_some located
      have here := here room (by rw [Transition.roomOf?, held]; exact noted)
      have played : state.gameIn? room = some game := by
        rw [Transition.gameIn?, there]
        exact busy
      exact confined.resumeMatch own here sees played
        ((confined.among room found here there).game game busy)

theorem loginNew (confined : state.Confined scope before) (own : scope.people id) (moment : Moment)
    (nick : String) :
    (state.loginNew moment id nick).state.Confined scope before := by
  unfold Transition.loginNew
  split
  · exact confined.reply own rfl
  · refine reply ?_ own rfl
    exact confined.modifySession own fun _ => rfl

/-- The slot of whoever logs in is given up for the one of the player who comes back, and the room
of that player stays the same. -/
theorem giveUp (confined : state.Confined scope before) (own : scope.people id) (existing : Nat)
    (now : Time) :
    (if existing = id then state else state.release id now).Confined scope before ∧
      (if existing = id then state else state.release id now).roomOf? existing =
        state.roomOf? existing := by
  split
  · exact ⟨confined, rfl⟩
  · next different =>
      refine ⟨confined.release own now, congrArg (Option.bind · Session.room) ?_⟩
      exact (SessionTable.get?_modify id existing _ _).trans (if_neg (Ne.symm different))

/-- Whoever comes back is the player of the slot to which the connection is bound afterwards. -/
theorem loginAgain (confined : state.Confined scope before) (own : scope.people id)
    (connected : ∀ session, state.sessions.get? id = some session → session.isConnected)
    {connection : Nat} (ear : scope.ears connection) {now : Time} {nick token : String}
    (sees : (state.loginAgain now id connection nick token).slot ≠ id → scope.IsOpen)
    (back : scope.people (state.loginAgain now id connection nick token).slot)
    (here : ∀ room,
      state.roomOf? (state.loginAgain now id connection nick token).slot = some room →
        scope.places room) :
    (state.loginAgain now id connection nick token).state.Confined scope before := by
  unfold Transition.loginAgain at back here sees ⊢
  cases known : state.sessions.findByNick? nick with
  | none =>
      exact confined.reply own rfl
  | some existing =>
      simp only [known] at back here sees ⊢
      cases there : state.sessions.get? existing with
      | none =>
          exact confined
      | some target =>
          simp only [there] at back here sees ⊢
          by_cases present : target.isConnected
          · simp only [present, if_true]
            exact confined.reply own rfl
          · by_cases agrees : target.token = some token
            · simp only [present, agrees, ne_eq, not_true_eq_false, if_false, Bool.false_eq_true]
                at back here sees ⊢
              have different : existing ≠ id := by
                rintro rfl
                exact present (connected target there)
              obtain ⟨freed, still⟩ := confined.giveUp own existing now
              generalize (if existing = id then state else state.release id now) = free
                at freed still
              have bound : (free.modifySession existing (Session.rebind connection now)).Confined
                  scope before := by
                refine freed.updateSession back ?_
                intro session other _ binds
                exact Option.some.inj binds ▸ ear
              refine resume (bound.reply back rfl) back ?_ (sees different)
              intro room noted
              have kept (session : Session) :
                  (session.rebind connection now).room = session.room :=
                rfl
              have same := roomOf?_modifySession kept existing existing free
              exact here room (still.symm.trans (same.symm.trans noted))
            · simp only [present, agrees, ne_eq, not_false_eq_true, if_true, if_false,
                Bool.false_eq_true]
              exact confined.reply own rfl

theorem onLogin (confined : state.Confined scope before) (own : scope.people id)
    (connected : ∀ session, state.sessions.get? id = some session → session.isConnected)
    {connection : Nat} (ear : scope.ears connection) {moment : Moment} {frame : Frame}
    (sees : (state.onLogin moment id connection frame).slot ≠ id → scope.IsOpen)
    (back : scope.people (state.onLogin moment id connection frame).slot)
    (here : ∀ room,
      state.roomOf? (state.onLogin moment id connection frame).slot = some room →
        scope.places room) :
    (state.onLogin moment id connection frame).state.Confined scope before := by
  unfold Transition.onLogin at back here sees ⊢
  cases type : frame.type with
  | login =>
      simp only [type] at back here sees ⊢
      cases asked : LoginRequest.ofPayload frame.payload with
      | error error =>
          exact confined.reply own rfl
      | ok request =>
          simp only [asked] at back here sees ⊢
          cases request with
          | new nick =>
              exact confined.loginNew own moment nick
          | reconnect nick token =>
              exact confined.loginAgain own connected ear sees back here
  | quit =>
      exact confined.release own moment.now
  | _ =>
      exact confined

theorem pauseMatch (confined : state.Confined scope before) (here : scope.places room)
    {game : Match} (busy : state.gameIn? room = some game) (among : game.Among scope.people) :
    (state.pauseMatch id room game).Confined scope before := by
  have left := among.of_gathered (Match.gathered_setActive id false game)
  unfold Transition.pauseMatch
  dsimp only
  generalize game.setActive id false = absent at left
  have paused := left.of_gathered (Match.gathered_pause? pauseText absent)
  refine broadcast (foldl ?_ (confined.setGame here busy paused)) here (some id) rfl
  intro state other listed confined
  exact confined.sameButStatus (paused other (List.mem_filter.1 listed).1)
    Session.sameButStatus_suspend

theorem afterDrop (confined : state.Confined scope before) (own : scope.people id)
    (here : ∀ room, state.roomOf? id = some room → scope.places room) :
    (state.afterDrop id).Confined scope before := by
  unfold Transition.afterDrop
  split
  · exact confined
  · next room noted =>
      have here' := here room noted
      split
      · next game found =>
          have played := (Option.filter_eq_some_iff.1 found).1
          obtain ⟨held, there, busy⟩ := Option.bind_eq_some_iff.1 played
          exact confined.pauseMatch here' played
            ((confined.among room held here' there).game game busy)
      · refine broadcast ?_ here' (some id) rfl
        exact (confined.leaveRoom own here).modifySession own fun _ => rfl

theorem disconnect (confined : state.Confined scope before) (own : scope.people id)
    (here : ∀ room, state.roomOf? id = some room → scope.places room) (connection : Nat)
    (now : Time) :
    (state.disconnect id connection now).Confined scope before := by
  unfold Transition.disconnect
  split
  · exact confined
  · next session held =>
      split
      · exact confined
      · next bound =>
          split
          · exact confined.release own now
          · have isBound : state.sessions.isBound id connection := by
              simp [SessionTable.isBound, held, Decidable.not_not.1 bound]
            rw [SessionTable.detach_of_isBound isBound]
            have detached :
                (state.modifySession id (Session.unbind now)).Confined scope before := by
              refine confined.updateSession own ?_
              intro session other _ binds
              cases binds
            refine (detached.sameButStatus own Session.sameButStatus_drop).afterDrop own ?_
            intro room noted
            rw [roomOf?_modifySession fun session => session.sameButStatus_drop.room_eq] at noted
            have kept : ∀ session : Session, (session.unbind now).room = session.room :=
              fun _ => rfl
            exact here room ((roomOf?_modifySession kept id id state).symm.trans noted)

theorem tell (confined : state.Confined scope before) {outbox : Outbox}
    (reaches : outbox.Reaches scope) :
    ({ state with outbox } : Transition).Confined scope before :=
  ⟨confined.sessions, confined.rooms, confined.among, confined.bound, confined.idle, reaches⟩

theorem pingAll (confined : state.Confined scope before)
    (heard : ∀ connection ∈ state.sessions.connections, scope.ears connection) :
    state.pingAll.Confined scope before := by
  refine confined.tell (confined.frames.foldl fun connection listed reaches => ?_)
  exact reaches.push (heard connection listed) nofun

theorem evict (confined : state.Confined scope before) (own : scope.people id)
    (here : ∀ room, state.roomOf? id = some room → scope.places room) (now : Time) :
    (state.evict id now).Confined scope before := by
  unfold Transition.evict
  split
  · exact confined
  · next connection found =>
      obtain ⟨session, held, bound⟩ := Option.bind_eq_some_iff.1 found
      have heard := confined.bound id session connection own held bound
      have told : ((state.outbox.push connection .lobby "Connection lost (heartbeat)").close
          connection).Reaches scope :=
        confined.frames.push heard nofun
      exact (confined.tell told).disconnect own here connection now

theorem abandonRoom (confined : state.Confined scope before) (here : scope.places room)
    {found : Room} (there : state.rooms.get? room = some found) :
    (state.abandonRoom id room found).Confined scope before := by
  have members := (confined.among room found here there).members
  refine foldl ?_ (confined.removeRoom here)
  intro state other listed confined
  have own := members other (List.mem_filter.1 listed).1
  have sent : (state.modifySession other Session.toLobby).Confined scope before :=
    confined.modifySession own fun _ => rfl
  exact sent.reply own rfl

theorem expire (confined : state.Confined scope before) (own : scope.people id)
    (here : ∀ room, state.roomOf? id = some room → scope.places room) (now : Time) :
    (state.expire id now).Confined scope before := by
  unfold Transition.expire
  refine release ?_ own now
  split
  · exact confined
  · next room found located =>
      obtain ⟨_, noted, there⟩ := Option.bind_eq_some_iff.1 located
      obtain ⟨_, held, same⟩ := Option.map_eq_some_iff.1 there
      cases same
      exact confined.abandonRoom (here room noted) held

end Transition.Confined

end Cardroom
