import Cardroom.Proofs.Server.Occupancy
import Cardroom.Proofs.Session.Login

/-!
# The life of a slot

A slot is free, or bound to a connection on which nobody has logged in, or held by a player, who is
online or away. `run_slotsSound` says that at all times every slot has one of these shapes, that no
player and no connection holds two slots, and that the slot of a player who is away is kept for the
player to come back to, but can be given up by a sweep.
-/

namespace Cardroom

/-- No two slots have a holder with the same of something. -/
def Distinct {Part : Type} (part : Occupant → Option Part) (occupants : List Occupant) : Prop :=
  ∀ (first second : Nat) (left right : Occupant) (value : Part),
    occupants[first]? = some left → occupants[second]? = some right →
      part left = some value → part right = some value → first = second

/-- The holder of a slot after one slot has changed hands. -/
theorem of_getElem?_set {occupants : List Occupant} {id other : Nat} {occupant found : Occupant}
    (held : (occupants.set id occupant)[other]? = some found) :
    other = id ∧ found = occupant ∨ other ≠ id ∧ occupants[other]? = some found := by
  rw [List.getElem?_set] at held
  split at held
  · next here =>
      split at held
      · exact .inl ⟨here.symm, (Option.some.inj held).symm⟩
      · cases held
  · next different =>
      exact .inr ⟨Ne.symm different, held⟩

/-- Whoever has something of a kind had it in the same slot before. -/
def Kept {Part : Type} (part : Occupant → Option Part) (before after : List Occupant) : Prop :=
  ∀ (id : Nat) (later : Occupant) (value : Part), after[id]? = some later →
    part later = some value → ∃ earlier, before[id]? = some earlier ∧ part earlier = some value

section

variable {Part : Type} {part : Occupant → Option Part} {before after : List Occupant}
  {id : Nat} {occupant : Occupant}

namespace Kept

theorem refl : Kept part before before :=
  fun _ later _ held has => ⟨later, held, has⟩

theorem set (less : ∀ value, part occupant = some value →
      ∃ earlier, before[id]? = some earlier ∧ part earlier = some value) :
    Kept part before (before.set id occupant) := by
  intro other later value held has
  rcases of_getElem?_set held with ⟨rfl, rfl⟩ | ⟨_, there⟩
  · exact less value has
  · exact ⟨later, there, has⟩

end Kept

namespace Distinct

theorem of_kept (distinct : Distinct part before) (kept : Kept part before after) :
    Distinct part after := by
  intro first second left right value here there same other
  obtain ⟨one, held, had⟩ := kept first left value here same
  obtain ⟨two, found, has⟩ := kept second right value there other
  exact distinct first second one two value held found had has

/-- The new holder of a slot has what nobody else has. -/
theorem set (distinct : Distinct part before)
    (apart : ∀ {other : Nat} {found : Occupant} {value : Part}, before[other]? = some found →
      part found = some value → part occupant = some value → other = id) :
    Distinct part (before.set id occupant) := by
  intro first second left right value here there same other
  rcases of_getElem?_set here with ⟨rfl, rfl⟩ | ⟨elsewhere, held⟩
  · rcases of_getElem?_set there with ⟨rfl, rfl⟩ | ⟨away, found⟩
    · rfl
    · exact absurd (apart found other same) away
  · rcases of_getElem?_set there with ⟨rfl, rfl⟩ | ⟨_, found⟩
    · exact absurd (apart held same other) elsewhere
    · exact distinct first second left right value held found same other

end Distinct

end

/-! ## Giving up a slot -/

namespace Occupant

/-- Of a kind that nobody has, and that is at most given up with a connection. -/
structure IsOwned {Part : Type} (part : Occupant → Option Part) : Prop where
  nobody : part nobody = none
  leave : ∀ {now : Time} {occupant : Occupant} {value : Part},
    part (occupant.leave now) = some value → part occupant = some value

theorem isOwned_connection : IsOwned connection where
  nobody := rfl
  leave := by
    intro now occupant value left
    unfold Occupant.leave at left
    split at left <;> cases left

theorem isOwned_nick : IsOwned nick where
  nobody := rfl
  leave := by
    intro now occupant value left
    unfold Occupant.leave at left
    split at left
    · exact left
    · cases left

theorem isOwned_token : IsOwned token where
  nobody := rfl
  leave := by
    intro now occupant value left
    unfold Occupant.leave at left
    split at left
    · exact left
    · cases left

namespace IsOwned

variable {Part : Type} {part : Occupant → Option Part} {id : Nat} {before : List Occupant}

theorem kept_nobody (owned : IsOwned part) : Kept part before (before.set id .nobody) := by
  refine .set fun value has => ?_
  rw [owned.nobody] at has
  cases has

theorem kept_leave (owned : IsOwned part) {occupant : Occupant} {now : Time}
    (held : before[id]? = some occupant) :
    Kept part before (before.set id (occupant.leave now)) :=
  .set fun _ has => ⟨occupant, held, owned.leave has⟩

/-- Whoever comes back has what has been kept in the slot. -/
theorem kept_comeBack (owned : IsOwned part) {slot connection : Nat} {target : Occupant}
    (held : before[id]? = some target)
    (same : ∀ value, part (target.comeBack connection) = some value → part target = some value) :
    Kept part before ((before.set slot .nobody).set id (target.comeBack connection)) := by
  intro other later value found has
  rcases of_getElem?_set found with ⟨rfl, rfl⟩ | ⟨_, there⟩
  · exact ⟨target, held, same value has⟩
  · exact owned.kept_nobody other later value there has

theorem kept_sweep (owned : IsOwned part) (config : Config) (now : Time) (table : SessionTable) :
    Kept part table.occupants (table.slots.map (Session.afterSweep config now)) := by
  intro id later value held has
  rw [List.getElem?_map] at held
  obtain ⟨session, there, rfl⟩ := Option.map_eq_some_iff.1 held
  refine ⟨session.occupant, (table.getElem?_occupants id).trans (congrArg _ there), ?_⟩
  unfold Session.afterSweep at has
  split at has
  · exact owned.leave has
  · split at has
    · rw [owned.nobody] at has
      cases has
    · exact has

end IsOwned

end Occupant

/-- No player holds two slots, and names and tokens are such that they can be given again. -/
structure KnownOnce (occupants : List Occupant) : Prop where
  distinct : Distinct Occupant.nick occupants
  name : ∀ {id : Nat} {occupant : Occupant} {nick : String}, occupants[id]? = some occupant →
    occupant.nick = some nick → LoginRequest.IsName nick
  token : ∀ {id : Nat} {occupant : Occupant} {token : String}, occupants[id]? = some occupant →
    occupant.token = some token → Token.isWellFormed token

namespace KnownOnce

variable {before after : List Occupant}

theorem of_kept (known : KnownOnce before) (nicks : Kept Occupant.nick before after)
    (tokens : Kept Occupant.token before after) :
    KnownOnce after where
  distinct := known.distinct.of_kept nicks
  name held named := by
    obtain ⟨earlier, there, had⟩ := nicks _ _ _ held named
    exact known.name there had
  token held tokened := by
    obtain ⟨earlier, there, had⟩ := tokens _ _ _ held tokened
    exact known.token there had

/-- Somebody logs in with a name that nobody has. -/
theorem logIn (known : KnownOnce before) {slot : Nat} {occupant : Occupant} {nick : String}
    (held : before[slot]? = some occupant) (name : LoginRequest.IsName nick)
    (fresh : ∀ other ∈ before, other.nick ≠ some nick) (token : Token) :
    KnownOnce (before.set slot (occupant.logIn nick token.text)) where
  distinct := by
    refine known.distinct.set fun found has named => ?_
    cases named
    exact absurd has (fresh _ (List.mem_of_getElem? found))
  name held named := by
    rcases of_getElem?_set held with ⟨rfl, rfl⟩ | ⟨_, there⟩
    · cases named
      exact name
    · exact known.name there named
  token held tokened := by
    rcases of_getElem?_set held with ⟨rfl, rfl⟩ | ⟨_, there⟩
    · cases tokened
      exact token.isWellFormed_text
    · exact known.token there tokened

theorem frame (known : KnownOnce before) {moment : Moment} {slot connection : Nat} {frame : Frame}
    {status : Session.Status}
    (handover : FrameHandover before moment slot connection frame status after) :
    KnownOnce after := by
  cases handover with
  | still =>
      exact known
  | loggedIn _ request held _ fresh =>
      exact known.logIn held (LoginRequest.ofPayload_eq_new request).2 fresh moment.token
  | returned _ _ _ _ there =>
      exact known.of_kept (Occupant.isOwned_nick.kept_comeBack there fun _ back => back)
        (Occupant.isOwned_token.kept_comeBack there fun _ back => back)
  | quit =>
      exact known.of_kept Occupant.isOwned_nick.kept_nobody Occupant.isOwned_token.kept_nobody

theorem handover (config : Config) {tables : Tables} {event : Tables.Event}
    (known : KnownOnce tables.occupants) (handover : tables.Handover config event after) :
    KnownOnce after := by
  have of_owned := fun (kept : ∀ {part : Occupant → Option String}, Occupant.IsOwned part →
      Kept part tables.occupants after) =>
    known.of_kept (kept Occupant.isOwned_nick) (kept Occupant.isOwned_token)
  cases handover with
  | still =>
      exact known
  | accepted held free =>
      exact known.of_kept (.set nofun) (.set nofun)
  | heard held bound handover =>
      exact known.frame handover
  | lost held bound =>
      exact of_owned fun owned => owned.kept_leave (Tables.getElem?_occupants held)
  | swept =>
      exact of_owned fun owned => owned.kept_sweep config _ tables.sessions

end KnownOnce

/-- No connection is bound to two slots, and only connections that have come are bound. -/
structure ConnectedOnce (came : List Nat) (occupants : List Occupant) : Prop where
  distinct : Distinct Occupant.connection occupants
  came : ∀ {id : Nat} {occupant : Occupant} {connection : Nat}, occupants[id]? = some occupant →
    occupant.connection = some connection → connection ∈ came

def Tables.Event.arrival? : Tables.Event → Option Nat
  | .accept _ connection => some connection
  | _ => none

namespace ConnectedOnce

variable {came : List Nat} {before after : List Occupant}

theorem of_kept (once : ConnectedOnce came before)
    (kept : Kept Occupant.connection before after) :
    ConnectedOnce came after where
  distinct := once.distinct.of_kept kept
  came held bound := by
    obtain ⟨earlier, there, had⟩ := kept _ _ _ held bound
    exact once.came there had

/-- A new connection takes a slot. -/
theorem accept (once : ConnectedOnce came before) {slot connection : Nat}
    (fresh : connection ∉ came) :
    ConnectedOnce (came ++ [connection]) (before.set slot (.stranger connection)) where
  distinct := by
    refine once.distinct.set fun found has new => ?_
    cases new
    exact absurd (once.came found has) fresh
  came held bound := by
    rcases of_getElem?_set held with ⟨rfl, rfl⟩ | ⟨_, there⟩
    · cases bound
      exact List.mem_append_right _ (List.mem_singleton.2 rfl)
    · exact List.mem_append_left _ (once.came there bound)

/-- A connection moves to the slot of the player who comes back on it. -/
theorem comeBack (once : ConnectedOnce came before) {slot connection existing : Nat}
    {occupant target : Occupant} (held : before[slot]? = some occupant)
    (bound : occupant.connection = some connection) :
    ConnectedOnce came
      ((before.set slot .nobody).set existing (target.comeBack connection)) := by
  have freed : ConnectedOnce came (before.set slot .nobody) :=
    once.of_kept Occupant.isOwned_connection.kept_nobody
  refine ⟨freed.distinct.set ?_, ?_⟩
  · intro other holder value found has back
    cases back
    rcases of_getElem?_set found with ⟨_, rfl⟩ | ⟨different, there⟩
    · cases has
    · exact absurd (once.distinct _ _ _ _ _ there held has bound) different
  · intro id later value found has
    rcases of_getElem?_set found with ⟨_, rfl⟩ | ⟨_, there⟩
    · cases has
      exact once.came held bound
    · exact freed.came there has

theorem handover (config : Config) {tables : Tables} {event : Tables.Event}
    (once : ConnectedOnce came tables.occupants)
    (fresh : ∀ connection, event.arrival? = some connection → connection ∉ came)
    (handover : tables.Handover config event after) :
    ConnectedOnce (came ++ event.arrival?.toList) after := by
  have wider : ConnectedOnce (came ++ event.arrival?.toList) tables.occupants :=
    ⟨once.distinct, fun held bound => List.mem_append_left _ (once.came held bound)⟩
  have owned := Occupant.isOwned_connection
  cases handover with
  | still =>
      exact wider
  | accepted held free =>
      exact once.accept (fresh _ rfl)
  | heard held bound handover =>
      cases handover with
      | still =>
          exact wider
      | loggedIn _ _ there =>
          exact wider.of_kept (.set fun value has => ⟨_, there, has⟩)
      | returned =>
          exact wider.comeBack (Tables.getElem?_occupants held) bound
      | quit =>
          exact wider.of_kept owned.kept_nobody
  | lost held bound =>
      exact wider.of_kept (owned.kept_leave (Tables.getElem?_occupants held))
  | swept =>
      exact wider.of_kept (owned.kept_sweep config _ tables.sessions)

end ConnectedOnce

/-! ## The shapes of a slot -/

inductive Session.Shape where
  /-- Nobody has it. -/
  | free
  /-- It is bound to a connection on which nobody has logged in. -/
  | anonymous
  /-- Its player is connected. -/
  | online
  /-- Its player is away and is expected back. -/
  | away
deriving DecidableEq, Repr

namespace Session

/-- A player who is away is expected in the lobby, or at the table of a match. -/
def ExpectedIn (rooms : RoomTable) (session : Session) : Prop :=
  session.lastStatus = .connected ∧ session.room = none ∨
    (session.lastStatus = .onTurn ∨ session.lastStatus = .onWait) ∧
      ∃ place room, session.room = some place ∧ rooms.get? place = some room ∧ room.game.isSome

/-- All that a session notes is as the shape of the slot demands. -/
def HasShape (rooms : RoomTable) (session : Session) : Shape → Prop
  | .free =>
      session.connection = none ∧ session.nick = none ∧ session.token = none ∧
        session.room = none ∧ session.status = .disconnected
  | .anonymous =>
      session.connection.isSome ∧ session.nick = none ∧ session.token = none ∧
        session.room = none ∧ session.status = .disconnected
  | .online =>
      session.connection.isSome ∧ session.nick.isSome ∧ session.token.isSome ∧
        session.disconnectedAt = none ∧ session.status ≠ .disconnected
  | .away =>
      session.connection = none ∧ session.nick.isSome ∧ session.token.isSome ∧
        session.disconnectedAt.isSome ∧ session.status = .disconnected ∧
        session.ExpectedIn rooms

end Session

def Occupant.shape (occupant : Occupant) : Session.Shape :=
  match occupant.nick, occupant.connection with
  | none, none => .free
  | none, some _ => .anonymous
  | some _, some _ => .online
  | some _, none => .away

namespace Tables

variable {tables : Tables} {id : Nat} {session : Session}

theorem Coherent.expectedIn (coherent : tables.Coherent)
    (held : tables.sessions.get? id = some session) (known : session.IsKnown)
    (away : session.isConnected = false) :
    session.status = .disconnected ∧ session.ExpectedIn tables.rooms := by
  cases coherent.sits held with
  | outside nowhere outside =>
      rcases outside with unknown | lobby
      · have named := known.named
        rw [unknown.named] at named
        cases named
      · obtain ⟨status, last⟩ := lobby.away away
        exact ⟨status, .inl ⟨last, nowhere⟩⟩
  | @inside place room noted found member fits =>
      refine ⟨coherent.status_of_away found member fits away, .inr ?_⟩
      cases played : room.game with
      | none =>
          rw [(fits.idle played).1] at away
          cases away
      | some game =>
          have suits := fits.busy played
          obtain ⟨_, _, isOf⟩ := (coherent.sound found).busy played
          have waiting : game.status = .paused := by
            apply isOf.paused_of_not_playing
            intro running
            rw [isOf.isConnected running suits.active member] at away
            cases away
          refine ⟨?_, place, room, noted, found, by rw [played]; rfl⟩
          rw [(suits.paused waiting).2, Match.turnStatus]
          split
          · exact .inl rfl
          · exact .inr rfl

theorem Coherent.isKnown_of_nick (coherent : tables.Coherent)
    (held : tables.sessions.get? id = some session) (named : session.nick.isSome) :
    session.IsKnown := by
  cases coherent.sits held with
  | outside _ outside =>
      rcases outside with unknown | lobby
      · rw [unknown.named] at named
        cases named
      · exact lobby.known
  | inside _ _ _ fits =>
      exact fits.known

/-- Whoever holds a slot, it has the shape that the holder gives it. -/
theorem Coherent.hasShape (coherent : tables.Coherent)
    (held : tables.sessions.get? id = some session) :
    session.HasShape tables.rooms session.occupant.shape := by
  cases named : session.nick with
  | none =>
      have nowhere := coherent.room_of_unnamed held named
      have unknown : session.IsUnknown := by
        cases coherent.sits held with
        | outside _ outside =>
            rcases outside with unknown | lobby
            · exact unknown
            · have known := lobby.known.named
              rw [named] at known
              cases known
        | inside noted =>
            rw [nowhere] at noted
            cases noted
      cases bound : session.connection <;>
        simp [Occupant.shape, Session.occupant, Session.HasShape, named, bound, unknown.tokened,
          nowhere, unknown.status]
  | some nick =>
      have known := coherent.isKnown_of_nick held (by rw [named]; rfl)
      cases bound : session.connection with
      | none =>
          have gone : session.isConnected = false := by rw [Session.isConnected, bound]; rfl
          obtain ⟨status, expected⟩ := coherent.expectedIn held known gone
          simp [Occupant.shape, Session.occupant, Session.HasShape, named, bound, known.tokened,
            known.dated, gone, status, expected]
      | some connection =>
          have here : session.isConnected := by rw [Session.isConnected, bound]; rfl
          have dated := known.dated
          rw [here, Bool.not_true, Option.isSome_eq_false_iff, Option.isNone_iff_eq_none] at dated
          have status : session.status ≠ .disconnected := by
            intro status
            rw [coherent.nick_eq_none held here status] at named
            cases named
          simp [Occupant.shape, Session.occupant, Session.HasShape, named, bound, known.tokened,
            dated, status]

/-- No slot has two shapes. -/
theorem shape_eq {rooms : RoomTable} {shape : Session.Shape}
    (shaped : session.HasShape rooms shape) :
    shape = session.occupant.shape := by
  cases named : session.nick <;> cases bound : session.connection <;> cases shape <;>
    simp_all [Session.HasShape, Occupant.shape, Session.occupant]

theorem exists_session {occupant : Occupant} (there : tables.occupants[id]? = some occupant) :
    ∃ session, tables.sessions.get? id = some session ∧ session.occupant = occupant := by
  rw [occupants, SessionTable.getElem?_occupants] at there
  exact Option.map_eq_some_iff.1 there

theorem findByNick?_eq {nick : String} (coherent : tables.Coherent)
    (known : KnownOnce tables.occupants) (held : tables.sessions.get? id = some session)
    (named : session.nick = some nick) :
    tables.sessions.findByNick? nick = some id := by
  cases found : tables.sessions.findByNick? nick with
  | none =>
      have absent := SessionTable.findByNick?_eq_none found
      exact absurd named (absent _ (List.mem_of_getElem? (getElem?_occupants held)))
  | some existing =>
      obtain ⟨other, there, same⟩ := SessionTable.findByNick?_eq_some found coherent.numbered
      rw [known.distinct _ _ _ _ nick (getElem?_occupants there) (getElem?_occupants held) same
        named]

/-- A player who is away comes back on any connection on which nobody has logged in. -/
theorem handleFrame_reclaim {nick token : String} {slot connection : Nat} {stranger : Session}
    (coherent : tables.Coherent) (known : KnownOnce tables.occupants)
    (held : tables.sessions.get? id = some session) (away : session.connection = none)
    (named : session.nick = some nick) (tokened : session.token = some token)
    (there : tables.sessions.get? slot = some stranger)
    (bound : stranger.connection = some connection) (unnamed : stranger.nick = none)
    (config : Config) (moment : Moment) :
    let handled := tables.handleFrame config moment slot connection
      { type := .login, payload := nick ++ "|" ++ token }
    handled.flow = .proceed ∧ handled.slot = id ∧
      handled.step.tables.occupants =
        (tables.occupants.set slot .nobody).set id (session.occupant.comeBack connection) := by
  have different : id ≠ slot := by
    rintro rfl
    obtain rfl : session = stranger := Option.some.inj (held.symm.trans there)
    rw [bound] at away
    cases away
  have seat := getElem?_occupants held
  have request : LoginRequest.ofPayload (nick ++ "|" ++ token) = .ok (.reconnect nick token) :=
    LoginRequest.ofPayload_eq_reconnect.2 ⟨rfl, known.name seat named, known.token seat tokened⟩
  have status : stranger.status = .disconnected := by
    have shaped := coherent.hasShape there
    simp only [Occupant.shape, Session.occupant, unnamed, bound] at shaped
    exact shaped.2.2.2.2
  have heard := heard_coherent coherent moment.now slot
  have same := heard_occupants moment.now slot tables
  have still : ((Transition.start tables).modifySession slot
      (Session.touch moment.now)).sessions.get? id = some session :=
    (SessionTable.get?_modify slot id _ _).trans ((if_neg (Ne.symm different)).trans held)
  have found := findByNick?_eq heard (same.symm ▸ known) still named
  have accepted := Transition.loginAgain_eq found still away tokened different moment.now connection
  intro handled
  have outcome : handled =
      { flow := .proceed, slot := id,
        step := Transition.finish ((Transition.handOver moment.now slot id connection
          ((Transition.start tables).modifySession slot
            (Session.touch moment.now))).resume id) } := by
    simp only [handled, handleFrame, there]
    rw [if_neg (not_not_intro bound), if_neg (by simp)]
    simp only [dispatch, status, Transition.onLogin, request, accepted]
  rw [outcome]
  refine ⟨rfl, rfl, ?_⟩
  exact (Transition.resume_occupants id _).trans
    ((Transition.handOver_occupants still different moment.now connection).trans (by rw [same]))

/-- Whoever comes back is online in the old slot. -/
theorem handleFrame_returns {nick token : String} {slot connection : Nat} {stranger : Session}
    (coherent : tables.Coherent) (known : KnownOnce tables.occupants)
    (held : tables.sessions.get? id = some session) (away : session.connection = none)
    (named : session.nick = some nick) (tokened : session.token = some token)
    (there : tables.sessions.get? slot = some stranger)
    (bound : stranger.connection = some connection) (unnamed : stranger.nick = none)
    (config : Config) (moment : Moment) :
    let handled := tables.handleFrame config moment slot connection
      { type := .login, payload := nick ++ "|" ++ token }
    handled.flow = .proceed ∧ handled.slot = id ∧
      ∃ later, handled.step.tables.sessions.get? id = some later ∧
        later.connection = some connection ∧ later.nick = some nick ∧
          later.token = some token ∧ later.HasShape handled.step.tables.rooms .online := by
  intro handled
  obtain ⟨flow, moved, after⟩ :=
    handleFrame_reclaim coherent known held away named tokened there bound unnamed config moment
  have agrees : handled.step.tables.Coherent :=
    handleFrame_coherent coherent config moment slot connection _
  have back : handled.step.tables.occupants[id]? = some (session.occupant.comeBack connection) := by
    have inside := (List.getElem?_eq_some_iff.1 (getElem?_occupants held)).1
    rw [after, List.getElem?_set_self]
    rwa [List.length_set]
  obtain ⟨later, found, same⟩ := exists_session back
  have online : later.occupant.shape = .online := by
    rw [same]
    simp [Occupant.shape, Occupant.comeBack, Session.occupant, named]
  exact ⟨flow, moved, later, found, congrArg Occupant.connection same,
    (congrArg Occupant.nick same).trans named, (congrArg Occupant.token same).trans tokened,
    online ▸ agrees.hasShape found⟩

/-! ## At all times -/

/-- Who holds the slots, and what becomes of the slot of a player who is away. -/
structure SlotsSound (config : Config) (tables : Tables) : Prop where
  numbered : ∀ id session, tables.sessions.get? id = some session → session.id = id
  nicks : ∀ first second left right nick, tables.sessions.get? first = some left →
    tables.sessions.get? second = some right → left.nick = some nick → right.nick = some nick →
      first = second
  connections : ∀ first second left right connection, tables.sessions.get? first = some left →
    tables.sessions.get? second = some right → left.connection = some connection →
      right.connection = some connection → first = second
  /-- Every slot has exactly one shape. -/
  shaped : ∀ id session, tables.sessions.get? id = some session →
    ∃ shape, ∀ other, session.HasShape tables.rooms other ↔ other = shape
  /-- A new connection is not given the slot of a player who is away. -/
  spared : ∀ id session now connection, tables.sessions.get? id = some session →
    session.HasShape tables.rooms .away →
      (tables.accept now connection).1 ≠ some id ∧
        (tables.accept now connection).2.tables.sessions.get? id = some session
  /-- A sweep gives the slot up when the player has been away for too long. -/
  reaped : ∀ id session, tables.sessions.get? id = some session →
    session.HasShape tables.rooms .away →
      ∃ moment, session.disconnectedAt = some moment ∧
        ∀ now, config.reconnectTimeout < Time.since moment now →
          ∃ later, (tables.sweep config now).tables.sessions.get? id = some later ∧
            later.HasShape (tables.sweep config now).tables.rooms .free
  /-- The player gets the slot back for the name and the token. -/
  reclaimed : ∀ id session, tables.sessions.get? id = some session →
    session.HasShape tables.rooms .away →
      ∃ nick token, session.nick = some nick ∧ session.token = some token ∧
        ∀ slot stranger connection moment, tables.sessions.get? slot = some stranger →
          stranger.connection = some connection → stranger.HasShape tables.rooms .anonymous →
            let handled := tables.handleFrame config moment slot connection
              { type := .login, payload := nick ++ "|" ++ token }
            handled.flow = .proceed ∧ handled.slot = id ∧
              ∃ later, handled.step.tables.sessions.get? id = some later ∧
                later.connection = some connection ∧ later.nick = some nick ∧
                  later.token = some token ∧ later.HasShape handled.step.tables.rooms .online

theorem accept_spares {now : Time} {connection : Nat}
    (held : tables.sessions.get? id = some session) (named : session.nick.isSome) :
    (tables.accept now connection).1 ≠ some id ∧
      (tables.accept now connection).2.tables.sessions.get? id = some session := by
  unfold accept
  split
  · next slot sessions allocated =>
      obtain ⟨other, there, free, rfl⟩ := SessionTable.allocate?_eq_some allocated
      have different : slot ≠ id := by
        rintro rfl
        obtain rfl : session = other := Option.some.inj (held.symm.trans there)
        simp only [Session.isFree, Bool.and_eq_true, Option.isNone_iff_eq_none] at free
        rw [free.2] at named
        cases named
      refine ⟨fun same => different (Option.some.inj same), ?_⟩
      exact (SessionTable.get?_modify slot id _ _).trans ((if_neg different).trans held)
  · exact ⟨(Option.some_ne_none id).symm, held⟩

/-- A sweep frees the slot of a player who has been away for too long. -/
theorem sweep_reaps {config : Config} {now moment : Time} (coherent : tables.Coherent)
    (held : tables.sessions.get? id = some session)
    (away : session.HasShape tables.rooms .away) (since : session.disconnectedAt = some moment)
    (late : config.reconnectTimeout < Time.since moment now) :
    ∃ later, (tables.sweep config now).tables.sessions.get? id = some later ∧
      later.HasShape (tables.sweep config now).tables.rooms .free := by
  obtain ⟨gone, named, _⟩ := away
  have forgotten : session.afterSweep config now = .nobody := by
    rw [Session.afterSweep, if_neg, if_pos]
    · simp [Session.graceExpired, Session.isConnected, Session.isLoggedIn, gone, named, since, late]
    · simp [Session.isTimedOut, Session.isConnected, gone]
  have swept : (tables.sweep config now).tables.occupants[id]? = some .nobody := by
    rw [sweep_occupants coherent, List.getElem?_map]
    exact (congrArg _ held).trans (congrArg some forgotten)
  obtain ⟨later, there, nobody⟩ := exists_session swept
  have free : later.occupant.shape = .free := by
    rw [nobody]
    rfl
  exact ⟨later, there, free ▸ (sweep_coherent coherent config now).hasShape there⟩

theorem Coherent.slotsSound (coherent : tables.Coherent) (known : KnownOnce tables.occupants)
    {came : List Nat} (once : ConnectedOnce came tables.occupants) (config : Config) :
    tables.SlotsSound config where
  numbered _ _ held := coherent.numbered held
  nicks first second left right nick here there :=
    known.distinct first second _ _ nick (getElem?_occupants here) (getElem?_occupants there)
  connections first second left right connection here there :=
    once.distinct first second _ _ connection (getElem?_occupants here) (getElem?_occupants there)
  shaped id session held :=
    ⟨session.occupant.shape, fun _ => ⟨shape_eq, fun same => same ▸ coherent.hasShape held⟩⟩
  spared _ _ _ _ held shaped := accept_spares held shaped.2.1
  reaped id session held away := by
    obtain ⟨moment, since⟩ := Option.isSome_iff_exists.1 away.2.2.2.1
    exact ⟨moment, since, fun now => sweep_reaps coherent held away since⟩
  reclaimed := by
    rintro id session held ⟨away, named, tokened, _⟩
    obtain ⟨nick, named⟩ := Option.isSome_iff_exists.1 named
    obtain ⟨token, tokened⟩ := Option.isSome_iff_exists.1 tokened
    refine ⟨nick, token, named, tokened, ?_⟩
    intro slot stranger connection moment there bound anonymous
    exact handleFrame_returns coherent known held away named tokened there bound anonymous.2.1
      config moment

theorem eq_nobody_of_vacant {config : Config} {started : Time} {occupant : Occupant}
    (held : (Tables.vacant config started).occupants[id]? = some occupant) :
    occupant = .nobody := by
  obtain ⟨session, there, rfl⟩ := exists_session held
  rw [SessionTable.get?_vacant there]
  rfl

theorem vacant_knownOnce (config : Config) (started : Time) :
    KnownOnce (Tables.vacant config started).occupants := by
  constructor
  · intro first second left right nick held _ named
    rw [eq_nobody_of_vacant held] at named
    cases named
  · intro id occupant nick held named
    rw [eq_nobody_of_vacant held] at named
    cases named
  · intro id occupant token held tokened
    rw [eq_nobody_of_vacant held] at tokened
    cases tokened

theorem vacant_connectedOnce (config : Config) (started : Time) :
    ConnectedOnce [] (Tables.vacant config started).occupants := by
  constructor
  · intro first second left right connection held _ bound
    rw [eq_nobody_of_vacant held] at bound
    cases bound
  · intro id occupant connection held bound
    rw [eq_nobody_of_vacant held] at bound
    cases bound

theorem run_knownOnce (config : Config) (started : Time) (events : List Event) :
    KnownOnce (run config started events).occupants := by
  have both : (run config started events).Coherent ∧
      KnownOnce (run config started events).occupants := by
    refine run_preserves (motive := fun tables => tables.Coherent ∧ KnownOnce tables.occupants)
      config started ⟨vacant_coherent config started, vacant_knownOnce config started⟩ ?_ events
    rintro tables event ⟨coherent, known⟩
    exact ⟨after_coherent coherent config event,
      known.handover config (after_handover coherent config event)⟩
  exact both.2

theorem foldl_connectedOnce (config : Config) {came : List Nat} {events : List Event}
    (coherent : tables.Coherent) (once : ConnectedOnce came tables.occupants)
    (fresh : (came ++ events.filterMap Event.arrival?).Nodup) :
    ConnectedOnce (came ++ events.filterMap Event.arrival?)
      (events.foldl (after config) tables).occupants := by
  induction events generalizing tables came with
  | nil =>
      simpa using once
  | cons event events inductionHypothesis =>
      have parted : (event :: events).filterMap Event.arrival? =
          event.arrival?.toList ++ events.filterMap Event.arrival? := by
        rw [List.filterMap_cons]
        cases event.arrival? <;> rfl
      rw [parted, ← List.append_assoc] at fresh ⊢
      refine inductionHypothesis (after_coherent coherent config event) ?_ fresh
      refine once.handover config ?_ (after_handover coherent config event)
      intro connection comes member
      have apart := (List.nodup_append.1 (List.nodup_append.1 fresh).1).2.2
      exact apart connection member connection (Option.mem_toList.2 comes) rfl

theorem run_connectedOnce (config : Config) (started : Time) {events : List Event}
    (fresh : (events.filterMap Event.arrival?).Nodup) :
    ConnectedOnce ([] ++ events.filterMap Event.arrival?) (run config started events).occupants :=
  foldl_connectedOnce config (vacant_coherent config started) (vacant_connectedOnce config started)
    fresh

/-- Whatever has happened to a server since it was started, as long as no connection comes twice:
nobody holds two slots, every slot has one shape, and the slot of a player who is away is kept from
new connections until a sweep gives it up or the player is back. -/
theorem run_slotsSound (config : Config) (started : Time) {events : List Event}
    (fresh : (events.filterMap Event.arrival?).Nodup) :
    (run config started events).SlotsSound config := by
  have once : ConnectedOnce ([] ++ events.filterMap Event.arrival?)
      (run config started events).occupants :=
    foldl_connectedOnce config (vacant_coherent config started)
      (vacant_connectedOnce config started) fresh
  exact (run_coherent config started events).slotsSound (run_knownOnce config started events) once
    config

/-- Two players have met and have started a match, and one of them is dropped while a third
connection comes. -/
theorem slotsSound_of_drop :
    let send (slot : Nat) (type : MessageType) (payload : String) : Event :=
      .frame { now := 1, token := .nth slot, shuffle := .still } slot slot { type, payload }
    let events : List Event :=
      [.accept 0 0, .accept 0 1, send 0 .login "ann", send 1 .login "ben",
        send 0 .createRoom "den", send 1 .joinRoom "0", send 0 .ready "1", send 1 .ready "1",
        send 0 .start "", .disconnect 5 1 1, .accept 6 2]
    (events.filterMap Event.arrival?).Nodup ∧
      ((run {} 0 events).occupants.take 4).map Occupant.shape =
        [.online, .away, .anonymous, .free] ∧
      (run {} 0 events).SlotsSound {} := by
  intro send events
  have fresh : (events.filterMap Event.arrival?).Nodup := by decide
  have shapes : ((run {} 0 events).occupants.take 4).map Occupant.shape =
      [.online, .away, .anonymous, .free] := by
    decide +kernel
  exact ⟨fresh, shapes, run_slotsSound {} 0 fresh⟩

end Tables

end Cardroom
