import Cardroom.Proofs.Delivery.HandingOver
import Cardroom.Proofs.Delivery.Interleaving
import Cardroom.Proofs.Delivery.Writing
import Cardroom.Proofs.Server.Binding
import Cardroom.Proofs.Service.Desk
import Mathlib.Data.List.Induction
import Mathlib.Data.List.Infix
import Mathlib.Logic.Function.Basic

/-!
# Workers that have finished

Every connection that was accepted has a worker, and next to the workers there is the sweeper.
`Crew` is a server with all of them, and any list of actions is one way in which their work can be
interleaved: connections come in any order, a worker takes a step whenever it has no outbox to hand
over, an outbox is handed over piece by piece, and the writers take frames out of their queues and
end at any time.

A worker remembers a slot, which the sweeper may have taken away and which may have been given to
somebody else since. `Orderly` says why that does no harm: a slot that is bound to a connection is
the one that the worker of the connection remembers, and the worker has not finished.
`run_leavesNothing` follows, about what a worker leaves behind when it has finished.
-/

namespace Cardroom

/-- A server at work, with the workers of its connections. -/
structure Crew where
  tables : Tables
  desks : Nat → Option Desk := fun _ => none
  /-- What is left of the outboxes that are being handed over. -/
  owed : Actor → Outbox := fun _ => {}
  channels : List Channel := []

namespace Crew

inductive Action where
  /-- A connection comes, on which its peer is going to send this and nothing else. -/
  | accept (now : Time) (connection : Nat) (source : Source)
  /-- A worker takes a step. If the close signal is up, it may find that before it reads. -/
  | work (moment : Moment) (connection : Nat) (looks : Bool)
  | sweep (now : Time)
  /-- A piece of an outbox is handed over. -/
  | handOver (actor : Actor)
  /-- The writer of a connection takes the oldest frame out of its queue, which is all that a step
  of `Writer.Task` does to a channel. -/
  | receive (connection : Nat)
  /-- The writer of a connection ends. It does so when the connection is closed or its last handle
  is dropped, and when a frame fails; here it can end at any time. -/
  | hangUp (connection : Nat)

def start (config : Config) (started : Time) : Crew where
  tables := Tables.vacant config started

def channel? (connection : Nat) (crew : Crew) : Option Channel :=
  Outbox.channel? connection crew.channels

def isClosed (connection : Nat) (crew : Crew) : Bool :=
  (crew.channel? connection).any Channel.closed

/-- The server with a new connection. Its worker has a slot, unless none was free. -/
def accept (now : Time) (connection : Nat) (source : Source) (crew : Crew) : Crew :=
  let (slot, step) := crew.tables.accept now connection
  { tables := step.tables
    desks := Function.update crew.desks connection
      (slot.map fun slot => Desk.opened connection slot source)
    owed := Function.update crew.owed (.worker connection) step.outbox
    channels := crew.channels ++ [{ id := connection }] }

def worked (connection : Nat) (desk : Desk) (step : Step) (crew : Crew) : Crew :=
  { crew with
    tables := step.tables
    desks := Function.update crew.desks connection (some desk)
    owed := Function.update crew.owed (.worker connection) step.outbox }

def swept (config : Config) (now : Time) (crew : Crew) : Crew :=
  { crew with
    tables := (crew.tables.sweep config now).tables
    owed := Function.update crew.owed .sweeper (crew.tables.sweep config now).outbox }

def handedOver (actor : Actor) (crew : Crew) : Crew :=
  let (outbox, channels) := (crew.owed actor).handOver crew.channels
  { crew with owed := Function.update crew.owed actor outbox, channels }

def written (connection : Nat) (change : Channel → Channel) (crew : Crew) : Crew :=
  { crew with channels := Outbox.withChannel connection change crew.channels }

section

variable {connection other : Nat} (now : Time) (source : Source) (desk : Desk) (step : Step)
  (crew : Crew)

theorem accept_desks_self :
    (crew.accept now connection source).desks connection =
      (crew.tables.accept now connection).1.map fun slot =>
        Desk.opened connection slot source := by
  simp [accept]

theorem accept_desks_of_ne (different : other ≠ connection) :
    (crew.accept now connection source).desks other = crew.desks other := by
  simp [accept, different]

/-- Whoever works after a connection has come works for that one, or did so before. -/
theorem accept_desks_cases {source : Source}
    (found : (crew.accept now connection source).desks other = some desk) :
    (other = connection ∧ ∃ slot, desk = Desk.opened connection slot source) ∨
      other ≠ connection ∧ crew.desks other = some desk := by
  by_cases same : other = connection
  · subst same
    rw [accept_desks_self] at found
    obtain ⟨slot, -, opened⟩ := Option.map_eq_some_iff.1 found
    exact .inl ⟨rfl, slot, opened.symm⟩
  · rw [accept_desks_of_ne now source crew same] at found
    exact .inr ⟨same, found⟩

theorem accept_owed_of_ne (different : other ≠ connection) :
    (crew.accept now connection source).owed (.worker other) = crew.owed (.worker other) := by
  simp [accept, different]

theorem accept_channel? :
    (crew.accept now connection source).channel? other =
      (crew.channel? other).or (if connection = other then some { id := connection } else none) :=
  Outbox.channel?_concat other crew.channels { id := connection }

theorem worked_desks_self : (crew.worked connection desk step).desks connection = some desk := by
  simp [worked]

theorem worked_desks_of_ne (different : other ≠ connection) :
    (crew.worked connection desk step).desks other = crew.desks other := by
  simp [worked, different]

/-- Of all desks, a step of a worker changes only its own. -/
theorem worked_desks_cases {step : Step} {later : Desk}
    (found : (crew.worked connection later step).desks other = some desk) :
    other = connection ∧ desk = later ∨ other ≠ connection ∧ crew.desks other = some desk := by
  by_cases same : other = connection
  · subst same
    rw [worked_desks_self] at found
    exact .inl ⟨rfl, (Option.some.inj found).symm⟩
  · rw [worked_desks_of_ne later step crew same] at found
    exact .inr ⟨same, found⟩

theorem worked_owed_self :
    (crew.worked connection desk step).owed (.worker connection) = step.outbox := by
  simp [worked]

theorem worked_owed_of_ne (different : other ≠ connection) :
    (crew.worked connection desk step).owed (.worker other) = crew.owed (.worker other) := by
  simp [worked, different]

theorem swept_owed (config : Config) :
    (crew.swept config now).owed (.worker connection) = crew.owed (.worker connection) := by
  simp [swept]

theorem handedOver_owed_self (actor : Actor) :
    (crew.handedOver actor).owed actor = ((crew.owed actor).handOver crew.channels).1 := by
  simp [handedOver]

theorem handedOver_owed_of_ne {actor another : Actor} (different : another ≠ actor) :
    (crew.handedOver actor).owed another = crew.owed another := by
  simp [handedOver, different]

end

/-- The server after one action. A connection comes only once, and nobody goes on before everything
is handed over. -/
def next (config : Config) (crew : Crew) : Action → Crew
  | .accept now connection source =>
      match crew.channel? connection with
      | some _ => crew
      | none => crew.accept now connection source
  | .work moment connection looks =>
      match crew.desks connection with
      | none => crew
      | some desk =>
          if crew.owed (.worker connection) = {} then
            let (later, step) :=
              desk.next config moment (looks && crew.isClosed connection) crew.tables
            crew.worked connection later step
          else
            crew
  | .sweep now => if crew.owed .sweeper = {} then crew.swept config now else crew
  | .handOver actor => crew.handedOver actor
  | .receive connection => crew.written connection fun channel => channel.receive.2
  | .hangUp connection => crew.written connection Channel.dropReceiver

def run (config : Config) (started : Time) (actions : List Action) : Crew :=
  actions.foldl (next config) (start config started)

theorem run_concat (config : Config) (started : Time) (actions : List Action) (action : Action) :
    run config started (actions ++ [action]) = (run config started actions).next config action :=
  List.foldl_append

inductive Steps (config : Config) (crew : Crew) : Action → Crew → Prop
  | idle {action : Action} : Steps config crew action crew
  | accepts {now : Time} {connection : Nat} {source : Source} :
      crew.channel? connection = none →
      Steps config crew (.accept now connection source) (crew.accept now connection source)
  | works {moment : Moment} {connection : Nat} {looks : Bool} {desk later : Desk} {step : Step} :
      crew.desks connection = some desk → crew.owed (.worker connection) = {} →
      desk.Stepped config moment crew.tables later step →
      Steps config crew (.work moment connection looks) (crew.worked connection later step)
  | sweeps {now : Time} : Steps config crew (.sweep now) (crew.swept config now)
  | handsOver {actor : Actor} : Steps config crew (.handOver actor) (crew.handedOver actor)
  | receives {connection : Nat} :
      Steps config crew (.receive connection)
        (crew.written connection fun channel => channel.receive.2)
  | hangsUp {connection : Nat} :
      Steps config crew (.hangUp connection) (crew.written connection Channel.dropReceiver)

theorem next_steps (config : Config) (crew : Crew) (action : Action) :
    crew.Steps config action (crew.next config action) := by
  cases action with
  | accept now connection source =>
      unfold next
      dsimp only
      split
      · exact .idle
      · next unknown =>
          exact .accepts unknown
  | work moment connection looks =>
      unfold next
      dsimp only
      split
      · exact .idle
      · next desk found =>
          split
          · next free =>
              exact .works found free (desk.next_stepped config moment _ crew.tables)
          · exact .idle
  | sweep now =>
      unfold next
      dsimp only
      split
      · exact .sweeps
      · exact .idle
  | handOver actor =>
      exact .handsOver
  | receive connection =>
      exact .receives
  | hangUp connection =>
      exact .hangsUp

end Crew

/-! ## Steps of a worker -/

namespace Desk.Stepped

variable {config : Config} {moment : Moment} {tables : Tables} {desk later : Desk} {step : Step}
  {connection : Nat}

theorem coherent (stepped : Stepped config moment tables desk later step)
    (coherent : tables.Coherent) :
    step.tables.Coherent := by
  cases stepped with
  | handles _ _ same =>
      exact same ▸ Tables.handleFrame_coherent coherent config moment _ _ _
  | fails | notices | rests =>
      exact coherent
  | leaves _ same =>
      exact same ▸ Tables.handleDisconnect_coherent coherent moment.now _ _

/-- A connection that is bound at most to the slot that its worker knows is so after a step of the
worker too, and when the worker has finished it is bound to none. -/
theorem connectionOf? (stepped : Stepped config moment tables desk later step)
    (coherent : tables.Coherent) (own : desk.worker.connection = connection)
    (known : ∀ {id}, tables.connectionOf? id = some connection →
      id = desk.worker.slot ∧ desk.worker.stage ≠ .finished)
    {id other : Nat} (linked : step.tables.connectionOf? id = some other) :
    other = connection ∧ id = later.worker.slot ∧ later.worker.stage ≠ .finished ∨
      other ≠ connection ∧ tables.connectionOf? id = some other := by
  by_cases same : other = connection
  · subst same
    refine .inl ⟨rfl, ?_⟩
    cases stepped with
    | @handles frame rest handled stage _ same =>
        refine ⟨?_, Worker.stage_afterFrame_ne handled rest desk.worker⟩
        subst same
        rcases Tables.connectionOf?_handleFrame coherent config moment _ _ frame linked with
          ⟨now, -⟩ | ⟨before, apart⟩
        · exact now
        · exact absurd ⟨(known before).1, own.symm⟩ apart
    | fails | notices =>
        exact ⟨(known linked).1, nofun⟩
    | leaves _ cleaned =>
        subst cleaned
        obtain ⟨before, apart⟩ := Tables.connectionOf?_handleDisconnect _ _ _ linked
        exact absurd ⟨(known before).1, own.symm⟩ apart
    | rests =>
        exact known linked
  · refine .inr ⟨same, ?_⟩
    cases stepped with
    | @handles frame _ _ _ _ handled =>
        subst handled
        rcases Tables.connectionOf?_handleFrame coherent config moment _ _ frame linked with
          ⟨-, now⟩ | ⟨before, -⟩
        · exact absurd (now.trans own) same
        · exact before
    | fails | notices | rests =>
        exact linked
    | leaves _ cleaned =>
        subst cleaned
        exact (Tables.connectionOf?_handleDisconnect _ _ _ linked).1

end Desk.Stepped

namespace Crew

/-! ## What every action keeps -/

/-- When a worker has finished, the close of its connection is on its way or there. -/
def IsServed (connection : Nat) (desk : Desk) (owed : Outbox) (channel : Channel) : Prop :=
  desk.worker.stage = .finished → channel.closed ∨ connection ∈ owed.closing

theorem IsServed.stepped {config : Config} {moment : Moment} {tables : Tables}
    {desk later : Desk} {step : Step} {connection : Nat} {channel : Channel}
    (served : IsServed connection desk {} channel) (own : desk.worker.connection = connection)
    (stepped : desk.Stepped config moment tables later step) :
    IsServed connection later step.outbox channel := by
  intro finished
  cases stepped with
  | @handles frame rest handled =>
      exact absurd finished (Worker.stage_afterFrame_ne handled rest desk.worker)
  | fails | notices =>
      cases finished
  | leaves =>
      exact .inr (List.mem_append_right _ (List.mem_singleton.2 own.symm))
  | rests =>
      exact .inl ((served finished).resolve_right List.not_mem_nil)

/-- What holds of a server and its workers at all times. -/
structure Orderly (crew : Crew) : Prop where
  coherent : crew.tables.Coherent
  /-- A connection that is bound to a slot has a worker that knows of the slot and will clean up. -/
  bound : ∀ slot connection, crew.tables.connectionOf? slot = some connection →
    ∃ desk, crew.desks connection = some desk ∧ desk.worker.slot = slot ∧
      desk.worker.stage ≠ .finished
  sound : ∀ connection desk, crew.desks connection = some desk → desk.IsSound connection
  served : ∀ connection desk, crew.desks connection = some desk →
    ∃ channel, crew.channel? connection = some channel ∧
      IsServed connection desk (crew.owed (.worker connection)) channel

namespace Orderly

variable {config : Config} {crew : Crew}

theorem start (config : Config) (started : Time) : (start config started).Orderly where
  coherent := Tables.vacant_coherent config started
  bound slot connection linked := by
    obtain ⟨session, held, bound⟩ := Tables.connectionOf?_eq_some.1 linked
    rw [SessionTable.get?_vacant held] at bound
    cases bound
  sound _ _ found := by cases found
  served _ _ found := by cases found

/-- Nobody works for a connection that has not come yet. -/
theorem desks_eq_none (orderly : crew.Orderly) {connection : Nat}
    (unknown : crew.channel? connection = none) :
    crew.desks connection = none := by
  cases found : crew.desks connection with
  | none =>
      rfl
  | some desk =>
      obtain ⟨channel, there, -⟩ := orderly.served connection desk found
      rw [unknown] at there
      cases there

theorem accept (orderly : crew.Orderly) (now : Time) {connection : Nat} (source : Source)
    (unknown : crew.channel? connection = none) :
    (crew.accept now connection source).Orderly where
  coherent := Tables.accept_coherent orderly.coherent now connection
  bound slot other linked := by
    have idle := orderly.desks_eq_none unknown
    rcases Tables.connectionOf?_accept now connection linked with ⟨given, rfl⟩ | earlier
    · refine ⟨Desk.opened other slot source, ?_, rfl, nofun⟩
      rw [accept_desks_self, given]
      rfl
    · obtain ⟨desk, found, known⟩ := orderly.bound slot other earlier
      have different : other ≠ connection := by
        rintro rfl
        rw [idle] at found
        cases found
      exact ⟨desk, (accept_desks_of_ne now source crew different).trans found, known⟩
  sound other desk found := by
    rcases accept_desks_cases now desk crew found with ⟨rfl, slot, rfl⟩ | ⟨-, found⟩
    · exact Desk.opened_isSound other slot source
    · exact orderly.sound other desk found
  served other desk found := by
    rcases accept_desks_cases now desk crew found with ⟨rfl, slot, rfl⟩ | ⟨different, found⟩
    · refine ⟨{ id := other }, ?_, nofun⟩
      rw [accept_channel?, unknown, if_pos rfl]
      rfl
    · obtain ⟨channel, there, served⟩ := orderly.served other desk found
      refine ⟨channel, ?_, ?_⟩
      · rw [accept_channel?, there]
        rfl
      · rw [accept_owed_of_ne now source crew different]
        exact served

theorem worked (orderly : crew.Orderly) {moment : Moment} {connection : Nat} {desk later : Desk}
    {step : Step} (found : crew.desks connection = some desk)
    (free : crew.owed (.worker connection) = {})
    (stepped : desk.Stepped config moment crew.tables later step) :
    (crew.worked connection later step).Orderly where
  coherent := stepped.coherent orderly.coherent
  bound slot other linked := by
    have own := (orderly.sound connection desk found).own
    have known : ∀ {id}, crew.tables.connectionOf? id = some connection →
        id = desk.worker.slot ∧ desk.worker.stage ≠ .finished := by
      intro id bound
      obtain ⟨same, there, slot, runs⟩ := orderly.bound id connection bound
      obtain rfl := Option.some.inj (found.symm.trans there)
      exact ⟨slot.symm, runs⟩
    rcases stepped.connectionOf? orderly.coherent own known linked with
      ⟨rfl, rfl, runs⟩ | ⟨different, earlier⟩
    · exact ⟨later, worked_desks_self later step crew, rfl, runs⟩
    · obtain ⟨desk, there, known⟩ := orderly.bound slot other earlier
      exact ⟨desk, (worked_desks_of_ne later step crew different).trans there, known⟩
  sound other there now := by
    rcases worked_desks_cases there crew now with ⟨rfl, rfl⟩ | ⟨-, now⟩
    · exact stepped.isSound (orderly.sound other desk found)
    · exact orderly.sound other there now
  served other there now := by
    rcases worked_desks_cases there crew now with ⟨rfl, rfl⟩ | ⟨different, now⟩
    · obtain ⟨channel, here, served⟩ := orderly.served other desk found
      rw [free] at served
      refine ⟨channel, here, ?_⟩
      rw [worked_owed_self]
      exact served.stepped (orderly.sound other desk found).own stepped
    · obtain ⟨channel, here, served⟩ := orderly.served other there now
      refine ⟨channel, here, ?_⟩
      rw [worked_owed_of_ne later step crew different]
      exact served

theorem swept (orderly : crew.Orderly) (config : Config) (now : Time) :
    (crew.swept config now).Orderly where
  coherent := Tables.sweep_coherent orderly.coherent config now
  bound slot connection linked :=
    orderly.bound slot connection (Tables.connectionOf?_sweep orderly.coherent config now linked)
  sound := orderly.sound
  served connection desk found := by
    rw [swept_owed]
    exact orderly.served connection desk found

theorem handedOver (orderly : crew.Orderly) (actor : Actor) : (crew.handedOver actor).Orderly where
  coherent := orderly.coherent
  bound := orderly.bound
  sound := orderly.sound
  served connection desk found := by
    obtain ⟨channel, there, served⟩ := orderly.served connection desk found
    obtain ⟨later, here, piece⟩ := (crew.owed actor).handOver_handsOver there
    refine ⟨later, here, ?_⟩
    by_cases own : actor = .worker connection
    · subst own
      rw [handedOver_owed_self]
      exact fun finished => (served finished).elim (fun up => .inl (piece.closed up)) piece.closing
    · rw [handedOver_owed_of_ne crew (Ne.symm own)]
      exact fun finished => (served finished).imp_left piece.closed

/-- A writer leaves the close signal of its channel as it is. -/
theorem written (orderly : crew.Orderly) {addressee : Nat} {change : Channel → Channel}
    (keeps : ∀ channel, (change channel).id = channel.id)
    (signal : ∀ channel, (change channel).closed = channel.closed) :
    (crew.written addressee change).Orderly where
  coherent := orderly.coherent
  bound := orderly.bound
  sound := orderly.sound
  served connection desk found := by
    obtain ⟨channel, there, served⟩ := orderly.served connection desk found
    have here := Outbox.channel?_withChannel keeps addressee connection crew.channels
    rw [← channel?, there, Option.map_some] at here
    refine ⟨_, here, fun finished => (served finished).imp_left fun up => ?_⟩
    split
    · rw [signal]
      exact up
    · exact up

theorem next (orderly : crew.Orderly) (config : Config) (action : Action) :
    (crew.next config action).Orderly := by
  have steps := crew.next_steps config action
  generalize crew.next config action = after at steps
  cases steps with
  | idle =>
      exact orderly
  | accepts unknown =>
      exact orderly.accept _ _ unknown
  | works found free stepped =>
      exact orderly.worked found free stepped
  | sweeps =>
      exact orderly.swept config _
  | handsOver =>
      exact orderly.handedOver _
  | receives =>
      exact orderly.written Channel.id_receive Channel.closed_receive
  | hangsUp =>
      exact orderly.written Channel.id_dropReceiver fun _ => rfl

end Orderly

theorem run_orderly (config : Config) (started : Time) (actions : List Action) :
    (run config started actions).Orderly := by
  induction actions using List.reverseRecOn with
  | nil =>
      exact .start config started
  | append_singleton actions action inductionHypothesis =>
      rw [run_concat]
      exact inductionHypothesis.next config action

/-! ## The end of a worker -/

section

variable {config : Config} {crew : Crew} {connection : Nat} {later : Desk}

/-- What a peer sends is what came with its connection. -/
theorem source_next (action : Action)
    (found : (crew.next config action).desks connection = some later) :
    (∃ now, action = .accept now connection later.source) ∨
      ∃ desk, crew.desks connection = some desk ∧ desk.source = later.source := by
  have steps := crew.next_steps config action
  generalize crew.next config action = after at steps found
  cases steps with
  | idle | sweeps | handsOver | receives | hangsUp =>
      exact .inr ⟨later, found, rfl⟩
  | @accepts now =>
      rcases accept_desks_cases _ later crew found with ⟨rfl, slot, rfl⟩ | ⟨-, before⟩
      · exact .inl ⟨now, rfl⟩
      · exact .inr ⟨later, before, rfl⟩
  | @works _ _ _ desk _ _ there _ stepped =>
      rcases worked_desks_cases later crew found with ⟨rfl, rfl⟩ | ⟨-, before⟩
      · exact .inr ⟨desk, there, stepped.source_eq.symm⟩
      · exact .inr ⟨later, before, rfl⟩

end

theorem exists_accept (config : Config) (started : Time) (actions : List Action)
    {connection : Nat} {desk : Desk}
    (found : (run config started actions).desks connection = some desk) :
    ∃ now, .accept now connection desk.source ∈ actions := by
  induction actions using List.reverseRecOn generalizing desk with
  | nil =>
      cases found
  | append_singleton actions action inductionHypothesis =>
      rw [run_concat] at found
      rcases source_next action found with ⟨now, rfl⟩ | ⟨before, there, same⟩
      · exact ⟨now, List.mem_append_right _ (List.mem_singleton.2 rfl)⟩
      · obtain ⟨now, listed⟩ := inductionHypothesis there
        exact ⟨now, List.mem_append_left _ (same ▸ listed)⟩

/-- A worker sent its peer, before it cleaned up and closed the connection, that something was no
frame. This was queued, unless the writer had ended by then. -/
def HasTold (config : Config) (started : Time) (actions : List Action) (connection : Nat) : Prop :=
  ∃ earlier desk channel later, earlier ++ [.handOver (.worker connection)] <+: actions ∧
    (run config started earlier).desks connection = some desk ∧ desk.worker.stage = .leaving ∧
    (run config started earlier).owed (.worker connection) =
      { frames := [(connection, { type := .error, payload := "Invalid data" })] } ∧
    (run config started earlier).channel? connection = some channel ∧
    (run config started (earlier ++ [.handOver (.worker connection)])).channel? connection =
      some later ∧
    later.queue = channel.queue ++
      if channel.hasReceiver then [{ type := .error, payload := "Invalid data" }] else []

theorem HasTold.concat {config : Config} {started : Time} {actions : List Action}
    {connection : Nat} (told : HasTold config started actions connection) (action : Action) :
    HasTold config started (actions ++ [action]) connection := by
  obtain ⟨earlier, desk, channel, later, part, known⟩ := told
  exact ⟨earlier, desk, channel, later, part.trans (List.prefix_append _ _), known⟩

/-- A worker that stopped has yet to say so, and will not clean up before. -/
structure IsTelling (connection : Nat) (desk : Desk) (owed : Outbox) : Prop where
  leaving : desk.worker.stage = .leaving
  owes : owed = { frames := [(connection, Worker.invalidNotice)] }

theorem IsTelling.of_stepped {config : Config} {moment : Moment} {tables : Tables}
    {desk later : Desk} {step : Step} {connection : Nat} {error : WireError}
    (stepped : desk.Stepped config moment tables later step)
    (own : desk.worker.connection = connection) (stopped : later.stopped = some error)
    (protocol : error.isTransport = false) :
    desk.stopped = some error ∨ IsTelling connection later step.outbox := by
  cases stepped with
  | fails =>
      cases stopped
      refine .inr ⟨rfl, ?_⟩
      rw [Worker.farewell, protocol, own]
      rfl
  | handles | notices | leaves | rests =>
      exact .inl stopped

theorem IsTelling.hasTold {config : Config} {started : Time} {actions : List Action}
    {connection : Nat} {desk : Desk}
    (telling : IsTelling connection desk ((run config started actions).owed (.worker connection)))
    (found : (run config started actions).desks connection = some desk) :
    HasTold config started (actions ++ [.handOver (.worker connection)]) connection := by
  obtain ⟨channel, there, -⟩ :=
    (run_orderly config started actions).served connection desk found
  refine ⟨actions, desk, channel, channel.send Worker.invalidNotice, List.prefix_rfl, found,
    telling.leaving, telling.owes, there, ?_, Channel.queue_send _ channel⟩
  rw [run_concat, next, handedOver, telling.owes]
  refine (Outbox.channel?_withChannel (Channel.id_send _) connection connection _).trans ?_
  rw [← channel?, there, Option.map_some, if_pos rfl]

/-- A worker that stops because of what is no frame says so next. -/
theorem hasTold_or_isTelling (config : Config) (started : Time) (actions : List Action)
    {connection : Nat} {desk : Desk} {error : WireError}
    (found : (run config started actions).desks connection = some desk)
    (stopped : desk.stopped = some error) (protocol : error.isTransport = false) :
    HasTold config started actions connection ∨
      IsTelling connection desk ((run config started actions).owed (.worker connection)) := by
  induction actions using List.reverseRecOn generalizing desk with
  | nil =>
      cases found
  | append_singleton actions action inductionHypothesis =>
      have orderly := run_orderly config started actions
      rw [run_concat] at found ⊢
      have steps := (run config started actions).next_steps config action
      generalize (run config started actions).next config action = after at steps found ⊢
      cases steps with
      | idle | receives | hangsUp =>
          exact (inductionHypothesis found stopped).imp_left fun told => told.concat _
      | sweeps =>
          rw [swept_owed]
          exact (inductionHypothesis found stopped).imp_left fun told => told.concat _
      | accepts =>
          rcases accept_desks_cases _ desk _ found with ⟨-, slot, rfl⟩ | ⟨apart, before⟩
          · cases stopped
          · rw [accept_owed_of_ne _ _ _ apart]
            exact (inductionHypothesis before stopped).imp_left fun told => told.concat _
      | works there free stepped =>
          rcases worked_desks_cases desk _ found with ⟨rfl, rfl⟩ | ⟨apart, before⟩
          · have own := (orderly.sound connection _ there).own
            -- A worker takes a step only when it has handed over what it had to say.
            rcases IsTelling.of_stepped stepped own stopped protocol with same | telling
            · rcases inductionHypothesis there same with told | telling
              · exact .inl (told.concat _)
              · have owes := telling.owes
                rw [free] at owes
                cases owes
            · rw [worked_owed_self]
              exact .inr telling
          · rw [worked_owed_of_ne _ _ _ apart]
            exact (inductionHypothesis before stopped).imp_left fun told => told.concat _
      | @handsOver actor =>
          rcases inductionHypothesis found stopped with told | telling
          · exact .inl (told.concat _)
          · by_cases own : actor = .worker connection
            · subst own
              exact .inl (telling.hasTold found)
            · rw [handedOver_owed_of_ne _ (Ne.symm own)]
              exact .inr telling

/-- What a worker leaves behind that has finished. -/
structure LeavesNothing (config : Config) (started : Time) (actions : List Action)
    (connection : Nat) (desk : Desk) : Prop where
  /-- No slot is bound to the connection. -/
  unbound : connection ∉ (run config started actions).tables.sessions.connections
  closed : (run config started actions).isClosed connection
  /-- The stream of the peer is the one that came with the connection. -/
  source : ∃ now, .accept now connection desk.source ∈ actions
  /-- The worker has handled what its peer sent first, in order, and each frame once. -/
  frames : desk.frames <+: (Frame.readAll Frame.garbageBudget desk.source).frames
  /-- Nothing was handled after the worker had been told to disconnect. -/
  order : ∀ entry ∈ desk.handled.dropLast, entry.2 = .proceed
  /-- A worker that stopped because of an error had handled everything that came before it. -/
  stopped : ∀ error, desk.stopped = some error →
    Frame.readAll Frame.garbageBudget desk.source = { frames := desk.frames, error }
  told : ∀ error, desk.stopped = some error → error.isTransport = false →
    HasTold config started actions connection

theorem Orderly.not_mem_connections {crew : Crew} (orderly : crew.Orderly) {connection : Nat}
    {desk : Desk} (found : crew.desks connection = some desk)
    (finished : desk.worker.stage = .finished) :
    connection ∉ crew.tables.sessions.connections := by
  intro listed
  obtain ⟨session, held, bound⟩ := List.mem_filterMap.1 listed
  obtain ⟨slot, held⟩ := List.mem_iff_getElem?.1 held
  obtain ⟨other, there, -, runs⟩ :=
    orderly.bound slot connection (Tables.connectionOf?_eq_some.2 ⟨session, held, bound⟩)
  obtain rfl := Option.some.inj (found.symm.trans there)
  exact runs finished

/-- Whatever the peers send and however the work of all workers and of the sweeper is interleaved: a
worker that has finished and handed everything over leaves no slot behind that is bound to its
connection, and the connection is closed. It has handled the first frames of its stream, none after
it was told to disconnect; and to a peer that sent something that is no frame it said so before,
which was queued if the writer was still there. -/
theorem run_leavesNothing (config : Config) (started : Time) (actions : List Action)
    {connection : Nat} {desk : Desk}
    (found : (run config started actions).desks connection = some desk)
    (finished : desk.worker.stage = .finished)
    (done : (run config started actions).owed (.worker connection) = {}) :
    LeavesNothing config started actions connection desk := by
  have orderly := run_orderly config started actions
  have sound := orderly.sound connection desk found
  obtain ⟨channel, there, served⟩ := orderly.served connection desk found
  rw [done] at served
  refine ⟨orderly.not_mem_connections found finished, ?_,
    exists_accept config started actions found, sound.frames_prefix, sound.order, sound.stopped, ?_⟩
  · rw [isClosed, there]
    exact (served finished).resolve_right List.not_mem_nil
  · intro error stopped protocol
    refine (hasTold_or_isTelling config started actions found stopped protocol).resolve_right ?_
    intro telling
    rw [telling.leaving] at finished
    cases finished

/-- A player who has been silent is dropped by a sweep and comes back on a second connection. The
worker of the first one has not noticed, reads what is no frame, and leaves; the slot that it
remembers stays bound to the second connection. -/
theorem leavesNothing_of_reconnected :
    let login (payload : String) : List UInt8 := Frame.wireBytes { type := .login, payload }
    let moment (now : Time) : Moment := { now, token := .nth 0, shuffle := .still }
    let late := Time.seconds 11
    let actions : List Action :=
      [.accept 0 1 { chunks := [login "ann", Text.bytes "JOKEABCD0000"], fault := none },
        .work (moment 0) 1 true, .handOver (.worker 1), .receive 1, .sweep late,
        .handOver .sweeper,
        .accept late 2
          { chunks := [login ("ann|" ++ (Token.nth 0).text)], fault := some .connectionReset },
        .handOver .sweeper, .work (moment late) 2 true, .handOver .sweeper,
        .work (moment late) 1 false, .handOver (.worker 1), .receive 1, .receive 1, .hangUp 1,
        .work (moment late) 1 true, .handOver (.worker 1)]
    ∃ desk, (run {} 0 actions).desks 1 = some desk ∧ desk.worker.stage = .finished ∧
      (run {} 0 actions).owed (.worker 1) = {} ∧ desk.worker.slot = 0 ∧
      desk.stopped = some (.unknownType "ABCD") ∧
      (run {} 0 actions).tables.connectionOf? 0 = some 2 ∧ LeavesNothing {} 0 actions 1 desk := by
  intro login moment late actions
  have known : ((run {} 0 actions).desks 1).any (fun desk => desk.worker.stage == .finished &&
      desk.worker.slot == 0 && desk.stopped == some (.unknownType "ABCD")) := by
    decide +kernel
  obtain ⟨desk, found, known⟩ := (Option.any_eq_true _ _).1 known
  simp only [Bool.and_eq_true, beq_iff_eq] at known
  obtain ⟨⟨finished, slot⟩, stopped⟩ := known
  have done : (run {} 0 actions).owed (.worker 1) = {} := by decide +kernel
  exact ⟨desk, found, finished, done, slot, stopped, by decide +kernel,
    run_leavesNothing {} 0 actions found finished done⟩

/-- A peer takes no more bytes, and so its writer gives up on the answer to the login and ends. After
that the peer sends what is no frame. The worker says so, stops, cleans up and closes the connection,
but what it said has never been queued. -/
theorem not_always_told :
    let login : List UInt8 := Frame.wireBytes { type := .login, payload := "ann" }
    let moment : Moment := { now := 0, token := .nth 0, shuffle := .still }
    let greeting : List Action :=
      [.accept 0 1 { chunks := [login, Text.bytes "JOKEABCD0000"], fault := none },
        .work moment 1 true, .handOver (.worker 1)]
    let actions : List Action :=
      greeting ++ [.receive 1, .hangUp 1, .work moment 1 true, .handOver (.worker 1),
        .work moment 1 true, .handOver (.worker 1)]
    (∃ channel, (run {} 0 greeting).channel? 1 = some channel ∧
      (Writer.Task.step^[2] { channel, sink := { room := some 0, refusal := .silence } }).stage =
        .ended) ∧
    (∃ desk, (run {} 0 actions).desks 1 = some desk ∧ desk.worker.stage = .finished ∧
      (run {} 0 actions).owed (.worker 1) = {} ∧
      desk.stopped = some (.unknownType "ABCD")) ∧
    ∀ earlier, earlier <+: actions →
      ∀ channel, (run {} 0 earlier).channel? 1 = some channel →
        { type := .error, payload := "Invalid data" } ∉ channel.queue := by
  intro login moment greeting actions
  let answer : Frame := { type := .okay, payload := "Welcome!|0000000000" }
  refine ⟨⟨{ id := 1, queue := [answer] }, by decide +kernel, ?_⟩, ?_,
    fun earlier part channel found queued => ?_⟩
  · let sink : Sink := { room := some 0, refusal := .silence }
    have stalls : sink.writeFrame answer = (.stalled, sink) := by
      rw [Writer.writeFrame_of_isSendable (by decide +kernel)]
      exact Sink.write_of_silence rfl rfl (by decide +kernel)
    simp [Writer.Task.step, Writer.Task.tried, Writer.Task.flush, Writer.Task.finish,
      Channel.receive, stalls, sink]
  · have known : ((run {} 0 actions).desks 1).any (fun desk => desk.worker.stage == .finished &&
        desk.stopped == some (.unknownType "ABCD")) := by
      decide +kernel
    obtain ⟨desk, found, known⟩ := (Option.any_eq_true _ _).1 known
    simp only [Bool.and_eq_true, beq_iff_eq] at known
    exact ⟨desk, found, known.1, by decide +kernel, known.2⟩
  · have silent : ∀ earlier ∈ actions.inits, ((run {} 0 earlier).channel? 1).all (fun channel =>
        !channel.queue.contains { type := .error, payload := "Invalid data" }) := by
      decide +kernel
    have none := silent earlier ((List.mem_inits earlier actions).2 part)
    rw [found, Option.all_some, List.contains_iff_mem.2 queued] at none
    cases none

end Crew

end Cardroom
