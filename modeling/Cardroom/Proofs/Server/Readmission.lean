import Cardroom.Proofs.Server.LifeCycle

/-!
# Coming back to a full house

A player who was dropped comes back on a new connection, and that connection is given a slot of its
own before anybody knows who is on it. `run_readmits` says that this works out whenever some slot is
free, whatever the others hold, and that a new connection is turned away when none is. The slot
which is kept for the player does not count: `refused_of_own_slot` shows a player who is turned away
although the old slot still waits.
-/

namespace Cardroom

namespace SessionTable

variable {table : SessionTable}

def hasFree (table : SessionTable) : Bool :=
  table.slots.any Session.isFree

/-- A slot is found for a new connection if one is free. -/
theorem exists_allocate? (free : table.hasFree) (connection : Nat) (now : Time) :
    ∃ slot after, table.allocate? connection now = some (slot, after) := by
  have found : (table.slots.findIdx? Session.isFree).isSome := by
    rwa [List.findIdx?_isSome]
  obtain ⟨slot, first⟩ := Option.isSome_iff_exists.1 found
  exact ⟨slot, _, congrArg (Option.map _) first⟩

theorem allocate?_eq_none (full : table.hasFree = false) (connection : Nat) (now : Time) :
    table.allocate? connection now = none := by
  rw [allocate?, Option.map_eq_none_iff, List.findIdx?_eq_none_iff]
  simpa [hasFree] using full

end SessionTable

namespace Tables

variable {tables : Tables} {id : Nat} {session : Session}

def fullNotice : Frame where
  type := .error
  payload := "Cannot connect at the moment (FULL)"

/-- What becomes of a new connection on which a player who is away comes back, at any time. -/
structure Readmits (config : Config) (id : Nat) (nick token : String) (tables : Tables) : Prop where
  /-- A free slot takes the connection, and then the player has the old slot again. -/
  admitted : tables.sessions.hasFree → ∀ now connection moment,
    ∃ slot, (tables.accept now connection).1 = some slot ∧ slot ≠ id ∧
      let handled :=
        (tables.accept now connection).2.tables.handleFrame config moment slot connection
          { type := .login, payload := nick ++ "|" ++ token }
      handled.flow = .proceed ∧ handled.slot = id ∧
        ∃ later, handled.step.tables.sessions.get? id = some later ∧
          later.connection = some connection ∧ later.nick = some nick ∧
            later.token = some token ∧ later.HasShape handled.step.tables.rooms .online
  /-- Without a free slot the connection is turned away, and everything is kept as it is. -/
  refused : tables.sessions.hasFree = false → ∀ now connection,
    tables.accept now connection =
      (none,
        { tables, outbox := { frames := [(connection, fullNotice)], closing := [connection] } })

theorem accept_of_full (full : tables.sessions.hasFree = false) (now : Time) (connection : Nat) :
    tables.accept now connection =
      (none,
        { tables,
          outbox := { frames := [(connection, fullNotice)], closing := [connection] } }) := by
  simp only [accept, SessionTable.allocate?_eq_none full]
  rfl

/-- A connection that is given a slot is bound to it, and nobody has logged in there. -/
theorem accept_of_hasFree (free : tables.sessions.hasFree) (now : Time) (connection : Nat) :
    ∃ slot stranger, (tables.accept now connection).1 = some slot ∧
      (tables.accept now connection).2.tables.sessions.get? slot = some stranger ∧
      stranger.connection = some connection ∧ stranger.nick = none := by
  obtain ⟨slot, after, allocated⟩ := SessionTable.exists_allocate? free connection now
  obtain ⟨session, held, -, rfl⟩ := SessionTable.allocate?_eq_some allocated
  refine ⟨slot, { Session.vacant slot now with connection := some connection }, ?_⟩
  simp only [accept, allocated, SessionTable.get?_modify, if_true, held, Option.map_some]
  exact ⟨trivial, trivial, trivial, rfl⟩

theorem Coherent.readmits (coherent : tables.Coherent) (known : KnownOnce tables.occupants)
    {nick token : String} (held : tables.sessions.get? id = some session)
    (away : session.connection = none) (named : session.nick = some nick)
    (tokened : session.token = some token) (config : Config) :
    tables.Readmits config id nick token where
  admitted free now connection moment := by
    obtain ⟨slot, stranger, given, there, bound, unnamed⟩ := accept_of_hasFree free now connection
    have named' : session.nick.isSome := Option.isSome_iff_exists.2 ⟨nick, named⟩
    have spared : (tables.accept now connection).1 ≠ some id ∧
        (tables.accept now connection).2.tables.sessions.get? id = some session :=
      accept_spares held named'
    obtain ⟨apart, kept⟩ := spared
    have still : KnownOnce (tables.accept now connection).2.tables.occupants :=
      known.handover config (after_handover coherent config (.accept now connection))
    refine ⟨slot, given, fun same => apart (same ▸ given), ?_⟩
    exact handleFrame_returns (accept_coherent coherent now connection) still kept away named
      tokened there bound unnamed config moment
  refused full now connection := accept_of_full full now connection

/-- Whatever has happened to a server since it was started, a player who is away and has not been
given up by a sweep gets the old slot back on a new connection, as long as there is a free slot for
that connection to be given first. -/
theorem run_readmits (config : Config) (started : Time) (events : List Event) {nick token : String}
    (held : (run config started events).sessions.get? id = some session)
    (away : session.connection = none) (named : session.nick = some nick)
    (tokened : session.token = some token) :
    (run config started events).Readmits config id nick token :=
  (run_coherent config started events).readmits (run_knownOnce config started events) held away
    named tokened config

/-- Of two players one is dropped, and there are three slots. -/
theorem readmits_of_third_slot :
    let send (slot : Nat) (type : MessageType) (payload : String) : Event :=
      .frame { now := 1, token := .nth slot, shuffle := .still } slot slot { type, payload }
    let config : Config := { maxSessions := 3 }
    let tables := run config 0
      [.accept 0 0, .accept 0 1, send 0 .login "ann", send 1 .login "ben", .disconnect 5 0 0]
    tables.sessions.hasFree ∧
      (∃ session, tables.sessions.get? 0 = some session ∧ session.connection = none ∧
        session.nick = some "ann" ∧ session.token = some "0000000000") ∧
      tables.Readmits config 0 "ann" "0000000000" := by
  intro send config tables
  have dropped : (tables.sessions.get? 0).any (fun session =>
      session.connection == none && session.nick == some "ann" &&
        session.token == some "0000000000") = true := by
    decide +kernel
  obtain ⟨session, held, fields⟩ := (Option.any_eq_true _ _).1 dropped
  simp only [Bool.and_eq_true, beq_iff_eq] at fields
  obtain ⟨⟨away, named⟩, tokened⟩ := fields
  exact ⟨by decide +kernel, ⟨session, held, away, named, tokened⟩,
    run_readmits config 0 _ held away named tokened⟩

/-- Of two players one is dropped, and there is no third slot. The player is still expected, and a
new connection on which to come back is turned away. -/
theorem refused_of_own_slot :
    let send (slot : Nat) (type : MessageType) (payload : String) : Event :=
      .frame { now := 1, token := .nth slot, shuffle := .still } slot slot { type, payload }
    let config : Config := { maxSessions := 2 }
    let tables := run config 0
      [.accept 0 0, .accept 0 1, send 0 .login "ann", send 1 .login "ben", .disconnect 5 0 0]
    (∃ session, tables.sessions.get? 0 = some session ∧ session.connection = none ∧
      session.nick = some "ann" ∧ session.token = some "0000000000" ∧
      session.graceExpired config.reconnectTimeout 6 = false) ∧
      (tables.accept 6 2).1 = none := by
  intro send config tables
  have dropped : (tables.sessions.get? 0).any (fun session =>
      session.connection == none && session.nick == some "ann" &&
        session.token == some "0000000000" &&
          !session.graceExpired config.reconnectTimeout 6) = true := by
    decide +kernel
  obtain ⟨session, held, fields⟩ := (Option.any_eq_true _ _).1 dropped
  simp only [Bool.and_eq_true, beq_iff_eq, Bool.not_eq_true'] at fields
  obtain ⟨⟨⟨away, named⟩, tokened⟩, waits⟩ := fields
  exact ⟨⟨session, held, away, named, tokened, waits⟩, by decide +kernel⟩

end Tables

end Cardroom
