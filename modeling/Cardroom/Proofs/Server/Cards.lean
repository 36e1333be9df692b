import Cardroom.Proofs.Match.Face
import Cardroom.Proofs.Server.Isolation

/-!
# Frames that show cards

The start of a match, a move and the return of a player show cards, each player of the match once.
The lemmas here compute which frames with cards each of them has for one connection.
-/

namespace Cardroom

def Outbox.cardsFor (connection : Nat) (outbox : Outbox) : List Frame :=
  (outbox.framesFor connection).filter fun frame => frame.type.showsCards

def Tables.connectionOf? (id : Nat) (tables : Tables) : Option Nat :=
  (tables.sessions.get? id).bind Session.connection

/-- A connection is bound to one slot, and to no other. -/
def Tables.IsOnly (connection id : Nat) (tables : Tables) : Prop :=
  ∀ other, tables.connectionOf? other = some connection ↔ other = id

def Match.IsDealt (game : Match) : Prop :=
  ∃ room members shuffled shuffle, game = (Match.seat room members shuffled).start shuffle

/-- A frame shows a player the table of a match, or the hand that the player was dealt. -/
inductive Frame.Shows (id : Nat) (game : Match) : Frame → Prop
  | table {view : String} :
      game.view? id = some view → Shows id game { type := .state, payload := view }
  | hand {codes : String} :
      game.IsDealt → game.handCodes? id = some codes →
      Shows id game { type := .cards, payload := codes }

namespace Tables

variable {tables : Tables} {id connection : Nat}

theorem connectionOf?_eq (id : Nat) (tables : Tables) :
    tables.connectionOf? id = tables.occupants[id]?.bind Occupant.connection := by
  rw [occupants, SessionTable.getElem?_occupants, connectionOf?]
  cases tables.sessions.get? id <;> rfl

theorem connectionOf?_congr {after : Tables} (same : after.occupants = tables.occupants)
    (id : Nat) :
    after.connectionOf? id = tables.connectionOf? id := by
  rw [connectionOf?_eq, connectionOf?_eq, same]

theorem connectionOf?_eq_some :
    tables.connectionOf? id = some connection ↔
      ∃ session, tables.sessions.get? id = some session ∧ session.connection = some connection :=
  Option.bind_eq_some_iff

theorem connectionOf?_of_isBound (bound : tables.sessions.isBound id connection) :
    tables.connectionOf? id = some connection :=
  connectionOf?_eq_some.2 (exists_of_isBound bound)

theorem isBound_eq_false (stale : tables.connectionOf? id ≠ some connection) :
    tables.sessions.isBound id connection = false :=
  Bool.eq_false_iff.2 fun bound => stale (connectionOf?_of_isBound bound)

theorem IsOnly.congr (only : tables.IsOnly connection id) {after : Tables}
    (same : after.occupants = tables.occupants) : after.IsOnly connection id := by
  intro other
  rw [connectionOf?_congr same]
  exact only other

/-- Nobody shares a connection. -/
theorem isOnly_of_connectedOnce {came : List Nat} (once : ConnectedOnce came tables.occupants)
    (connected : tables.connectionOf? id = some connection) :
    tables.IsOnly connection id := by
  intro other
  constructor
  · intro there
    rw [connectionOf?_eq] at there connected
    obtain ⟨holder, held, bound⟩ := Option.bind_eq_some_iff.1 there
    obtain ⟨own, here, same⟩ := Option.bind_eq_some_iff.1 connected
    exact once.distinct other id holder own connection held here bound same
  · rintro rfl
    exact connected

end Tables

namespace Outbox

variable {outbox : Outbox} {connection : Nat}

theorem framesFor_push (connection other : Nat) (type : MessageType) (payload : String)
    (outbox : Outbox) :
    (outbox.push other type payload).framesFor connection =
      outbox.framesFor connection ++ if other = connection then [⟨type, payload⟩] else [] := by
  by_cases own : other = connection <;> simp [framesFor, push, own]

theorem cardsFor_push (connection other : Nat) (type : MessageType) (payload : String)
    (outbox : Outbox) :
    (outbox.push other type payload).cardsFor connection =
      outbox.cardsFor connection ++
        if other = connection ∧ type.showsCards then [⟨type, payload⟩] else [] := by
  rw [cardsFor, framesFor_push, List.filter_append, cardsFor]
  by_cases own : other = connection <;> by_cases cards : type.showsCards <;> simp [own, cards]

theorem cardsFor_eq_nil
    (plain : ∀ frame, (connection, frame) ∈ outbox.frames → frame.type.showsCards = false) :
    outbox.cardsFor connection = [] := by
  refine List.filter_eq_nil_iff.2 fun frame listed => ?_
  obtain ⟨⟨other, found⟩, queued, rfl⟩ := List.mem_map.1 listed
  obtain ⟨sent, own⟩ := List.mem_filter.1 queued
  obtain rfl : other = connection := beq_iff_eq.1 own
  rw [plain found sent]
  exact Bool.false_ne_true

end Outbox

namespace Transition

variable {state : Transition} {id connection : Nat} {type : MessageType} {payload : String}

theorem framesFor_notify (connection id : Nat) (type : MessageType) (payload : String)
    (state : Transition) (outbox : Outbox) :
    (state.sessions.notify id type payload outbox).framesFor connection =
      outbox.framesFor connection ++
        if state.tables.connectionOf? id = some connection then [⟨type, payload⟩] else [] := by
  unfold SessionTable.notify Tables.connectionOf?
  rw [tables_sessions]
  cases state.sessions.get? id with
  | none =>
      simp
  | some session =>
      unfold Session.notify
      cases bound : session.connection with
      | none =>
          simp [bound]
      | some other =>
          simp [bound, Outbox.framesFor_push]

theorem framesFor_reply (connection id : Nat) (type : MessageType) (payload : String)
    (state : Transition) :
    (state.reply id type payload).outbox.framesFor connection =
      state.outbox.framesFor connection ++
        if state.tables.connectionOf? id = some connection then [⟨type, payload⟩] else [] :=
  framesFor_notify connection id type payload state state.outbox

theorem cardsFor_notify (connection id : Nat) (type : MessageType) (payload : String)
    (state : Transition) (outbox : Outbox) :
    (state.sessions.notify id type payload outbox).cardsFor connection =
      outbox.cardsFor connection ++
        if state.tables.connectionOf? id = some connection ∧ type.showsCards then
          [⟨type, payload⟩]
        else
          [] := by
  rw [Outbox.cardsFor, framesFor_notify, List.filter_append, Outbox.cardsFor]
  by_cases own : state.tables.connectionOf? id = some connection <;>
    by_cases cards : type.showsCards <;> simp [own, cards]

theorem cardsFor_reply (connection id : Nat) (type : MessageType) (payload : String)
    (state : Transition) :
    (state.reply id type payload).outbox.cardsFor connection =
      state.outbox.cardsFor connection ++
        if state.tables.connectionOf? id = some connection ∧ type.showsCards then
          [⟨type, payload⟩]
        else
          [] :=
  cardsFor_notify connection id type payload state state.outbox

theorem cardsFor_reply_plain (plain : type.showsCards = false) (connection id : Nat)
    (payload : String) (state : Transition) :
    (state.reply id type payload).outbox.cardsFor connection =
      state.outbox.cardsFor connection := by
  rw [cardsFor_reply, plain]
  simp

theorem cardsFor_broadcast (plain : type.showsCards = false) (connection room : Nat)
    (payload : String) (exception : Option Nat) (state : Transition) :
    (state.broadcast room type payload exception).outbox.cardsFor connection =
      state.outbox.cardsFor connection := by
  simp only [broadcast, RoomTable.broadcast]
  split
  · rfl
  · refine List.foldlRecOn (motive := fun outbox : Outbox => outbox.cardsFor connection =
      state.outbox.cardsFor connection) _ _ rfl fun outbox sofar member _ => ?_
    rw [cardsFor_notify, plain, sofar]
    simp

theorem framesFor_showView (connection id : Nat) (game : Match) (state : Transition) :
    (state.showView game id).outbox.framesFor connection =
      state.outbox.framesFor connection ++
        if state.tables.connectionOf? id = some connection then
          ((game.view? id).map fun view => { type := .state, payload := view }).toList
        else
          [] := by
  unfold showView
  cases game.view? id with
  | none =>
      simp
  | some view =>
      exact framesFor_reply connection id .state view state

theorem filter_showsCards_view (id : Nat) (game : Match) :
    ((game.view? id).map fun view => Frame.mk .state view).toList.filter
        (fun frame => frame.type.showsCards) =
      ((game.view? id).map fun view => Frame.mk .state view).toList := by
  cases game.view? id <;> rfl

theorem cardsFor_showView (connection id : Nat) (game : Match) (state : Transition) :
    (state.showView game id).outbox.cardsFor connection =
      state.outbox.cardsFor connection ++
        if state.tables.connectionOf? id = some connection then
          ((game.view? id).map fun view => { type := .state, payload := view }).toList
        else
          [] := by
  rw [Outbox.cardsFor, framesFor_showView, List.filter_append, Outbox.cardsFor]
  split
  · rw [filter_showsCards_view]
  · rfl

section

variable {Item : Type} {step : Transition → Item → Transition} {items : List Item}
  (listen : Outbox → List Frame) (slot : Item → Nat) (shown : Nat → List Frame)

/-- Steps that each tell the player of one slot something, and none of these is bound to the
connection on which somebody listens. -/
theorem listen_foldl_of_absent
    (one : ∀ state item, listen (step state item).outbox = listen state.outbox ++
      if state.tables.connectionOf? (slot item) = some connection then shown (slot item) else [])
    (still : ∀ state item, (step state item).tables.occupants = state.tables.occupants)
    (absent : ∀ item ∈ items, state.tables.connectionOf? (slot item) ≠ some connection) :
    listen (items.foldl step state).outbox = listen state.outbox := by
  induction items generalizing state with
  | nil =>
      rfl
  | cons item items inductionHypothesis =>
      have later : ∀ next ∈ items,
          (step state item).tables.connectionOf? (slot next) ≠ some connection := by
        intro next listed
        rw [Tables.connectionOf?_congr (still state item)]
        exact absent next (List.mem_cons_of_mem item listed)
      rw [List.foldl_cons, inductionHypothesis later, one,
        if_neg (absent item List.mem_cons_self), List.append_nil]

/-- Steps that each tell the player of one slot something. The slots are different ones, and a
connection is bound to one of them. -/
theorem listen_foldl
    (one : ∀ state item, listen (step state item).outbox = listen state.outbox ++
      if state.tables.connectionOf? (slot item) = some connection then shown (slot item) else [])
    (still : ∀ state item, (step state item).tables.occupants = state.tables.occupants)
    (distinct : (items.map slot).Nodup) (listed : id ∈ items.map slot)
    (only : state.tables.IsOnly connection id) :
    listen (items.foldl step state).outbox = listen state.outbox ++ shown id := by
  induction items generalizing state with
  | nil =>
      cases listed
  | cons item items inductionHypothesis =>
      rw [List.map_cons, List.nodup_cons] at distinct
      have only' := only.congr (still state item)
      rw [List.foldl_cons]
      by_cases here : slot item = id
      · have absent : ∀ next ∈ items,
            (step state item).tables.connectionOf? (slot next) ≠ some connection := by
          intro next later bound
          have same := (only' _).1 bound
          exact distinct.1 (here.trans same.symm ▸ List.mem_map_of_mem later)
        rw [listen_foldl_of_absent listen slot shown one still absent, one,
          if_pos ((only _).2 here), here]
      · have later : id ∈ items.map slot :=
          (List.mem_cons.1 listed).resolve_left (Ne.symm here)
        rw [inductionHypothesis distinct.2 later only', one,
          if_neg fun own => here ((only _).1 own), List.append_nil]

end

/-! ## Matches in their rooms -/

theorem gameIn?_setGame {place : Nat} {room : Room} (found : state.rooms.get? place = some room)
    (game : Match) : (state.setGame place game).gameIn? place = some game := by
  show ((state.rooms.modify place _).get? place).bind Room.game = _
  rw [RoomTable.get?_modify_self found, Option.bind_some]

theorem foldl_rooms {Item : Type} {step : Transition → Item → Transition}
    (one : ∀ state item, (step state item).rooms = state.rooms) (items : List Item)
    (state : Transition) : (items.foldl step state).rooms = state.rooms :=
  List.foldlRecOn (motive := fun after : Transition => after.rooms = state.rooms) items step rfl
    fun after sofar item _ => (one after item).trans sofar

section

variable {place : Nat} {room : Room}

/-- Every member of the room is shown the own hand. -/
theorem cardsFor_startMatch (found : state.rooms.get? place = some room)
    (distinct : room.memberIds.Nodup) (member : id ∈ room.memberIds)
    (only : state.tables.IsOnly connection id) (config : Config) (shuffle : Shuffle) :
    let game := (Match.seat place room.memberIds config.shuffleDeck).start shuffle
    (state.startMatch config shuffle place).outbox.cardsFor connection =
      state.outbox.cardsFor connection ++ [⟨.cards, (game.handCodes? id).getD ""⟩] := by
  have seats := (Match.seat_players place room.memberIds config.shuffleDeck)
  rw [← Match.start_players shuffle] at seats
  simp only [startMatch, found]
  generalize (Match.seat place room.memberIds config.shuffleDeck).start shuffle = game at seats
  have sessions : game.seats.map Seat.session = room.memberIds := by
    rw [← Match.map_fst_players, seats, List.map_map]
    exact List.map_id _
  have begun : ((state.modifyRoom place (Room.beginMatch game)).broadcast place .start
      "Game started" none).outbox.cardsFor connection = state.outbox.cardsFor connection :=
    cardsFor_broadcast rfl connection place "Game started" none _
  rw [← begun]
  refine listen_foldl (Outbox.cardsFor connection) Seat.session
    (fun id => [⟨.cards, (game.handCodes? id).getD ""⟩]) ?_ ?_
    (sessions ▸ distinct) (sessions ▸ member) only
  · intro state seat
    have settled (status : Session.Status) :
        (state.settle seat.session status).tables.occupants = state.tables.occupants :=
      modifySession_occupants fun _ => rfl
    rw [cardsFor_reply, cardsFor_reply_plain (Confined.turnNotice_plain _), reply_tables,
      Tables.connectionOf?_congr (settled _)]
    simp [MessageType.showsCards, settle, modifySession]
  · intro state seat
    exact modifySession_occupants fun _ => rfl

theorem gameIn?_startMatch (found : state.rooms.get? place = some room) (config : Config)
    (shuffle : Shuffle) :
    (state.startMatch config shuffle place).gameIn? place =
      some ((Match.seat place room.memberIds config.shuffleDeck).start shuffle) := by
  simp only [startMatch, found]
  rw [gameIn?, foldl_rooms]
  · show ((state.rooms.modify place _).get? place).bind Room.game = _
    rw [RoomTable.get?_modify_self found, Option.bind_some, Room.beginMatch_game]
  · exact fun _ _ => rfl

end

section

variable {game : Match}

/-- Everybody at the table is shown it. -/
theorem framesFor_showTable (distinct : (game.seats.map Seat.session).Nodup)
    (sits : id ∈ game.seats.map Seat.session) (only : state.tables.IsOnly connection id) :
    (state.showTable game).outbox.framesFor connection =
      state.outbox.framesFor connection ++
        ((game.view? id).map fun view => { type := .state, payload := view }).toList := by
  refine listen_foldl (Outbox.framesFor connection) Seat.session
    (fun id => ((game.view? id).map fun view => { type := .state, payload := view }).toList)
    ?_ ?_ distinct sits only
  · exact fun state seat => framesFor_showView connection seat.session game state
  · intro state seat
    rw [showView_tables]

theorem cardsFor_showTable (distinct : (game.seats.map Seat.session).Nodup)
    (sits : id ∈ game.seats.map Seat.session) (only : state.tables.IsOnly connection id) :
    (state.showTable game).outbox.cardsFor connection =
      state.outbox.cardsFor connection ++
        ((game.view? id).map fun view => { type := .state, payload := view }).toList := by
  rw [Outbox.cardsFor, framesFor_showTable distinct sits only, List.filter_append,
    filter_showsCards_view, Outbox.cardsFor]

theorem cardsFor_announceTurn (connection : Nat) (game : Match) (state : Transition) :
    (state.announceTurn game).outbox.cardsFor connection = state.outbox.cardsFor connection := by
  unfold announceTurn
  refine List.foldlRecOn (motive := fun after : Transition => after.outbox.cardsFor connection =
    state.outbox.cardsFor connection) _ _ rfl fun after sofar seat _ => ?_
  rw [cardsFor_reply_plain (Confined.turnNotice_plain _)]
  exact sofar

end

/-- A player who comes back to a match is shown it, and nobody else is. -/
theorem resumeMatch_shows (id place : Nat) {room : Room} (game : Match)
    (found : state.rooms.get? place = some room) :
    ∃ shown, (state.resumeMatch id place game).gameIn? place = some shown ∧
      ∀ connection, (state.resumeMatch id place game).outbox.cardsFor connection =
        state.outbox.cardsFor connection ++
          if state.tables.connectionOf? id = some connection then
            ((shown.view? id).map fun view => { type := .state, payload := view }).toList
          else
            [] := by
  have spoken (marker : String) (shown : Match) {seated : Transition}
      (silent : seated.outbox = state.outbox)
      (same : seated.tables.occupants = state.tables.occupants) (connection : Nat) :
      ((seated.reply id .okay marker).showView shown id).outbox.cardsFor connection =
        state.outbox.cardsFor connection ++
          if state.tables.connectionOf? id = some connection then
            ((shown.view? id).map fun view => { type := .state, payload := view }).toList
          else
            [] := by
    rw [cardsFor_showView, cardsFor_reply_plain rfl, silent, reply_tables,
      Tables.connectionOf?_congr same]
  unfold resumeMatch
  dsimp only
  generalize game.setActive id true = returned
  cases goesOn : (if returned.allActive then returned.resume? else none) with
  | some resumed =>
      simp only [Option.getD_some, Option.isSome_some, if_true]
      refine ⟨resumed, ?_, fun connection => ?_⟩
      · rw [gameIn?, ← tables_rooms, broadcast_tables, showView_tables, reply_tables, tables_rooms,
          foldl_rooms]
        · exact gameIn?_setGame found resumed
        · exact fun _ _ => rfl
      · rw [cardsFor_broadcast rfl]
        refine spoken _ resumed ?_ ?_ connection
        · exact List.foldlRecOn (motive := fun after : Transition => after.outbox = state.outbox)
            _ _ rfl fun after sofar seat _ => sofar
        · refine (foldl_occupants (fun state seat => ?_) _ _).trans rfl
          exact modifySession_occupants fun session =>
            session.sameButStatus_endPause.occupant_eq
  | none =>
      simp only [Option.getD_none, Option.isSome_none, Bool.false_eq_true, if_false]
      refine ⟨returned, ?_, fun connection => ?_⟩
      · rw [gameIn?, ← tables_rooms, showView_tables, reply_tables]
        split <;> exact gameIn?_setGame found returned
      · refine spoken _ returned ?_ ?_ connection
        · split <;> rfl
        · split
          · exact modifySession_occupants fun _ => rfl
          · rfl

end Transition

end Cardroom
