import Cardroom.Proofs.Delivery.Arrival
import Cardroom.Proofs.Server.Sendable
import Cardroom.Service.Worker
import Mathlib.Data.List.Nodup
import Mathlib.Logic.Function.Basic

/-!
# Workers side by side

Every connection has a worker and a writer, and there is the sweeper. Each worker and the sweeper
make one transition after the other, and deliver the outbox of a transition before they make the
next one. The transitions do not overlap, but between a transition and its delivery the others can
do anything. `Traffic` is the state of all this, and any list of actions is one way in which the
work can be interleaved. A delivery is one step here, as a transition is; `Switchboard` and `Crew`
look at outboxes piece by piece.

Frames are queued in the order in which the outboxes are delivered, and that is the order of the
transitions up to one thing: a transition that takes place while an outbox waits can have its own
delivered first. A queue gets everything as long as its writer is there. A writer can end before its
connection does, when a frame cannot be written or is not taken in time; what is sent after that is
lost.
-/

namespace Cardroom

inductive Actor where
  | worker (connection : Nat)
  | sweeper
deriving DecidableEq, Repr

namespace Tables.Event

def actor : Event → Actor
  | .accept _ connection => .worker connection
  | .frame _ _ connection _ => .worker connection
  | .disconnect _ _ connection => .worker connection
  | .sweep _ => .sweeper

end Tables.Event

/-- A transition, what it has to say, and when it took place. -/
structure Parcel where
  /-- How many transitions there were before it. -/
  number : Nat
  event : Tables.Event
  outbox : Outbox
  /-- The tables as the transition left them. -/
  tables : Tables
  /-- The transitions whose outboxes were waiting when it took place. -/
  ahead : List Nat

namespace Parcel

def actor (parcel : Parcel) : Actor :=
  parcel.event.actor

/-- Whether an outbox may be delivered before another one: that comes later, or was waiting when the
transition took place. -/
def MayPrecede (first second : Parcel) : Prop :=
  second.number < first.number → second.number ∈ first.ahead

structure Follows (config : Config) (started : Time) (earlier : List Parcel) (parcel : Parcel) :
    Prop where
  number : parcel.number = earlier.length
  outbox : parcel.outbox =
    (Tables.run config started (earlier.map event)).queued config parcel.event
  tables : parcel.tables = Tables.run config started ((earlier ++ [parcel]).map event)

end Parcel

/-- What is sent: an outbox that is delivered, or what a worker says by itself to a peer that sends
something that is no frame. -/
inductive Sending where
  | outbox (parcel : Parcel)
  | notice (connection : Nat)

namespace Sending

def parcel? : Sending → Option Parcel
  | .outbox parcel => some parcel
  | .notice _ => none

def framesFor (connection : Nat) : Sending → List Frame
  | .outbox parcel => parcel.outbox.framesFor connection
  | .notice other => if other = connection then [Worker.invalidNotice] else []

end Sending

/-- A server at work. -/
structure Traffic where
  tables : Tables
  /-- The transitions so far. -/
  made : List Parcel := []
  /-- Those whose outboxes have not been delivered yet. -/
  waiting : List Parcel := []
  /-- All that has been sent, in the order in which it was. -/
  log : List Sending := []
  channels : List Channel
  /-- The frames that each writer has taken out of its queue. -/
  taken : Nat → List Frame := fun _ => []

namespace Traffic

inductive Action where
  | transition (event : Tables.Event)
  | delivery (actor : Actor)
  /-- The worker of a connection has read something that is no frame, and says so. -/
  | notice (connection : Nat)
  /-- The writer of a connection takes the oldest frame out of its queue, which is all that a step
  of `Writer.Task` does to a channel. -/
  | receive (connection : Nat)
  /-- The writer of a connection ends. It does so when the connection is closed or its last handle
  is dropped, and when a frame fails; here it can end at any time. -/
  | hangUp (connection : Nat)

def delivered (traffic : Traffic) : List Parcel :=
  traffic.log.filterMap Sending.parcel?

def sent (connection : Nat) (traffic : Traffic) : List Frame :=
  traffic.log.flatMap (Sending.framesFor connection)

def channel? (connection : Nat) (traffic : Traffic) : Option Channel :=
  Outbox.channel? connection traffic.channels

/-- Whether an actor has an outbox to deliver before it goes on. -/
def owes (actor : Actor) (traffic : Traffic) : Bool :=
  traffic.waiting.any fun parcel => parcel.actor == actor

/-- A server that was just started, and the connections that are going to be made. -/
def start (config : Config) (started : Time) (connections : List Nat) : Traffic where
  tables := Tables.vacant config started
  channels := connections.map fun id => { id }

def parcel (config : Config) (event : Tables.Event) (traffic : Traffic) : Parcel where
  number := traffic.made.length
  event
  outbox := traffic.tables.queued config event
  tables := traffic.tables.after config event
  ahead := traffic.waiting.map Parcel.number

/-- The server after one action. Nobody goes on before the last outbox is delivered, and without an
outbox there is nothing to deliver. -/
def next (config : Config) (traffic : Traffic) : Action → Traffic
  | .transition event =>
      if traffic.owes event.actor then
        traffic
      else
        { traffic with
          tables := traffic.tables.after config event
          made := traffic.made ++ [traffic.parcel config event]
          waiting := traffic.waiting ++ [traffic.parcel config event] }
  | .delivery actor =>
      match traffic.waiting.find? fun parcel => parcel.actor == actor with
      | none => traffic
      | some parcel =>
          { traffic with
            waiting := traffic.waiting.eraseP fun parcel => parcel.actor == actor
            log := traffic.log ++ [.outbox parcel]
            channels := parcel.outbox.deliver traffic.channels }
  | .notice connection =>
      if traffic.owes (.worker connection) then
        traffic
      else
        { traffic with
          log := traffic.log ++ [.notice connection]
          channels :=
            Outbox.withChannel connection (Channel.send Worker.invalidNotice) traffic.channels }
  | .receive connection =>
      match (traffic.channel? connection).map Channel.queue with
      | some (frame :: _) =>
          { traffic with
            channels :=
              Outbox.withChannel connection (fun channel => channel.receive.2) traffic.channels
            taken := Function.update traffic.taken connection
              (traffic.taken connection ++ [frame]) }
      | _ => traffic
  | .hangUp connection =>
      { traffic with
        channels := Outbox.withChannel connection Channel.dropReceiver traffic.channels }

def run (config : Config) (started : Time) (connections : List Nat) (actions : List Action) :
    Traffic :=
  actions.foldl (next config) (start config started connections)

/-- What every action preserves holds at all times. -/
theorem run_preserves {motive : Traffic → Prop} (config : Config) (started : Time)
    (connections : List Nat) (begins : motive (start config started connections))
    (step : ∀ traffic action, motive traffic → motive (traffic.next config action))
    (actions : List Action) :
    motive (run config started connections actions) := by
  unfold run
  generalize start config started connections = traffic at begins
  induction actions generalizing traffic with
  | nil =>
      exact begins
  | cons action actions inductionHypothesis =>
      exact inductionHypothesis (traffic.next config action) (step traffic action begins)

inductive Steps (config : Config) (traffic : Traffic) : Action → Traffic → Prop
  | idle {action : Action} : Steps config traffic action traffic
  | transition {event : Tables.Event} :
      (∀ parcel ∈ traffic.waiting, parcel.actor ≠ event.actor) →
      Steps config traffic (.transition event)
        { traffic with
          tables := traffic.tables.after config event
          made := traffic.made ++ [traffic.parcel config event]
          waiting := traffic.waiting ++ [traffic.parcel config event] }
  | delivery {actor : Actor} {before after : List Parcel} {parcel : Parcel} :
      traffic.waiting = before ++ parcel :: after →
      Steps config traffic (.delivery actor)
        { traffic with
          waiting := before ++ after
          log := traffic.log ++ [.outbox parcel]
          channels := parcel.outbox.deliver traffic.channels }
  | notice {connection : Nat} :
      Steps config traffic (.notice connection)
        { traffic with
          log := traffic.log ++ [.notice connection]
          channels :=
            Outbox.withChannel connection (Channel.send Worker.invalidNotice) traffic.channels }
  | receive {connection : Nat} {channel : Channel} {frame : Frame} {rest : List Frame} :
      traffic.channel? connection = some channel → channel.queue = frame :: rest →
      Steps config traffic (.receive connection)
        { traffic with
          channels :=
            Outbox.withChannel connection (fun channel => channel.receive.2) traffic.channels
          taken := Function.update traffic.taken connection
            (traffic.taken connection ++ [frame]) }
  | hangUp {connection : Nat} :
      Steps config traffic (.hangUp connection)
        { traffic with
          channels := Outbox.withChannel connection Channel.dropReceiver traffic.channels }

theorem next_steps (config : Config) (traffic : Traffic) (action : Action) :
    traffic.Steps config action (traffic.next config action) := by
  cases action with
  | transition event =>
      unfold next
      dsimp only
      split
      · exact .idle
      · next free =>
          refine .transition fun parcel waits same => free ?_
          exact List.any_eq_true.2 ⟨parcel, waits, beq_iff_eq.2 same⟩
  | delivery actor =>
      unfold next
      dsimp only
      split
      · exact .idle
      · next parcel found =>
          obtain ⟨own, before, after, split, none⟩ := List.find?_eq_some_iff_append.1 found
          have rest : traffic.waiting.eraseP (fun parcel => parcel.actor == actor) =
              before ++ after := by
            have others : ∀ other ∈ before, ¬(other.actor == actor) = true := by
              simpa using none
            rw [split, List.eraseP_append_right _ others, List.eraseP_cons, own, cond_true]
          rw [rest]
          exact .delivery split
  | notice connection =>
      unfold next
      dsimp only
      split
      · exact .idle
      · exact .notice
  | receive connection =>
      unfold next
      dsimp only
      split
      · next frame rest waits =>
          obtain ⟨channel, found, queue⟩ := Option.map_eq_some_iff.1 waits
          exact .receive found queue
      · exact .idle
  | hangUp connection =>
      exact .hangUp

/-! ## Queues -/

/-- What a writer has taken and what is still queued is all that was sent, in order. When the writer
has ended, it had taken the first of it, and the rest is lost. -/
structure IsFilled (sent taken : List Frame) (channel : Channel) : Prop where
  whole : channel.hasReceiver = true → taken ++ channel.queue = sent
  ended : channel.hasReceiver = false → channel.queue = [] ∧ taken <+: sent

namespace IsFilled

variable {sent taken : List Frame} {channel later : Channel}

/-- Frames are queued as long as the writer is there. -/
theorem grow (filled : IsFilled sent taken channel) (more : List Frame)
    (hears : later.hasReceiver = channel.hasReceiver)
    (queue : later.queue = channel.queue ++ if channel.hasReceiver then more else []) :
    IsFilled (sent ++ more) taken later where
  whole there := by
    rw [hears] at there
    rw [queue, if_pos there, ← List.append_assoc, filled.whole there]
  ended gone := by
    rw [hears] at gone
    obtain ⟨empty, part⟩ := filled.ended gone
    refine ⟨?_, part.trans (List.prefix_append sent more)⟩
    rw [queue, gone, empty]
    rfl

theorem receive (filled : IsFilled sent taken channel) {frame : Frame} {rest : List Frame}
    (queue : channel.queue = frame :: rest) :
    IsFilled sent (taken ++ [frame]) channel.receive.2 := by
  have left : channel.receive.2 = { channel with queue := rest } := by
    simp only [Channel.receive, queue]
  rw [left]
  refine ⟨fun there => ?_, fun gone => ?_⟩
  · rw [← filled.whole there, queue, List.append_assoc]
    rfl
  · have empty := (filled.ended gone).1
    rw [queue] at empty
    cases empty

theorem dropReceiver (filled : IsFilled sent taken channel) :
    IsFilled sent taken channel.dropReceiver where
  whole := nofun
  ended _ := by
    refine ⟨rfl, ?_⟩
    cases there : channel.hasReceiver with
    | true =>
        exact ⟨channel.queue, filled.whole there⟩
    | false =>
        exact (filled.ended there).2

end IsFilled

/-- Every connection has a channel, and its queue has got what was sent to the connection, one
sending after the other, and nothing else. -/
structure QueuesFilled (connections : List Nat) (traffic : Traffic) : Prop where
  known : ∀ connection, (traffic.channel? connection).isSome ↔ connection ∈ connections
  filled : ∀ connection channel, traffic.channel? connection = some channel →
    IsFilled (traffic.sent connection) (traffic.taken connection) channel

namespace QueuesFilled

variable {connections : List Nat} {traffic : Traffic} {connection : Nat}

theorem start (config : Config) (started : Time) (connections : List Nat) :
    (start config started connections).QueuesFilled connections where
  known connection := by
    rw [channel?, Outbox.channel?, List.find?_isSome]
    simp [Traffic.start]
  filled connection channel found := by
    obtain ⟨id, -, rfl⟩ := List.mem_map.1 (List.mem_of_find?_eq_some found)
    exact ⟨fun _ => rfl, fun gone => by cases gone⟩

theorem delivery (filled : traffic.QueuesFilled connections) (waiting : List Parcel)
    (parcel : Parcel) :
    QueuesFilled connections
      { traffic with
        waiting
        log := traffic.log ++ [.outbox parcel]
        channels := parcel.outbox.deliver traffic.channels } where
  known connection := by
    rw [channel?, Outbox.channel?_deliver, Option.isSome_map]
    exact filled.known connection
  filled connection later found := by
    rw [channel?, Outbox.channel?_deliver] at found
    obtain ⟨channel, there, rfl⟩ := Option.map_eq_some_iff.1 found
    have whole : IsFilled (traffic.sent connection ++ parcel.outbox.framesFor connection)
        (traffic.taken connection) (parcel.outbox.arrive channel) := by
      refine (filled.filled connection channel there).grow _ rfl ?_
      rw [Outbox.arrive, Outbox.id_of_channel? there]
    simpa [sent, Sending.framesFor] using whole

/-- A change of the channel of one connection, with what was sent to it and taken by its writer. -/
theorem of_withChannel (filled : traffic.QueuesFilled connections) {later : Traffic}
    {change : Channel → Channel} (keeps : ∀ channel, (change channel).id = channel.id)
    (channels : later.channels = Outbox.withChannel connection change traffic.channels)
    (others : ∀ other, other ≠ connection →
      later.sent other = traffic.sent other ∧ later.taken other = traffic.taken other)
    (own : ∀ channel, traffic.channel? connection = some channel →
      IsFilled (later.sent connection) (later.taken connection) (change channel)) :
    later.QueuesFilled connections where
  known other := by
    rw [channel?, channels, Outbox.channel?_withChannel keeps, Option.isSome_map]
    exact filled.known other
  filled other channel found := by
    rw [channel?, channels, Outbox.channel?_withChannel keeps] at found
    obtain ⟨before, there, rfl⟩ := Option.map_eq_some_iff.1 found
    by_cases here : other = connection
    · subst here
      rw [if_pos rfl]
      exact own before there
    · obtain ⟨sent, taken⟩ := others other here
      rw [if_neg here, sent, taken]
      exact filled.filled other before there

theorem notice (filled : traffic.QueuesFilled connections) (connection : Nat) :
    QueuesFilled connections
      { traffic with
        log := traffic.log ++ [.notice connection]
        channels :=
          Outbox.withChannel connection (Channel.send Worker.invalidNotice) traffic.channels } := by
  refine filled.of_withChannel (Channel.id_send _) rfl (fun other apart => ⟨?_, rfl⟩)
    fun channel found => ?_
  · simp [sent, Sending.framesFor, Ne.symm apart]
  · have whole := (filled.filled connection channel found).grow [Worker.invalidNotice]
      (Channel.hasReceiver_send _ channel) (Channel.queue_send _ channel)
    simpa [sent, Sending.framesFor] using whole

theorem receive (filled : traffic.QueuesFilled connections) {channel : Channel} {frame : Frame}
    {rest : List Frame} (found : traffic.channel? connection = some channel)
    (queue : channel.queue = frame :: rest) :
    QueuesFilled connections
      { traffic with
        channels :=
          Outbox.withChannel connection (fun channel => channel.receive.2) traffic.channels
        taken := Function.update traffic.taken connection
          (traffic.taken connection ++ [frame]) } := by
  refine filled.of_withChannel Channel.id_receive rfl
    (fun other apart => ⟨rfl, Function.update_of_ne apart _ _⟩) fun other there => ?_
  obtain rfl := Option.some.inj (found.symm.trans there)
  dsimp only
  rw [Function.update_self]
  exact (filled.filled connection channel found).receive queue

theorem hangUp (filled : traffic.QueuesFilled connections) (connection : Nat) :
    QueuesFilled connections
      { traffic with
        channels := Outbox.withChannel connection Channel.dropReceiver traffic.channels } :=
  filled.of_withChannel Channel.id_dropReceiver rfl (fun _ _ => ⟨rfl, rfl⟩) fun channel found =>
    (filled.filled connection channel found).dropReceiver

theorem next (filled : traffic.QueuesFilled connections) (config : Config) (action : Action) :
    (traffic.next config action).QueuesFilled connections := by
  have steps := traffic.next_steps config action
  generalize traffic.next config action = after at steps
  cases steps with
  | idle | transition =>
      exact ⟨filled.known, filled.filled⟩
  | delivery =>
      exact filled.delivery _ _
  | notice =>
      exact filled.notice _
  | receive found queue =>
      exact filled.receive found queue
  | hangUp =>
      exact filled.hangUp _

end QueuesFilled

/-! ## Order -/

/-- The order in which transitions are made and their outboxes delivered. -/
structure Ordered (config : Config) (started : Time) (traffic : Traffic) : Prop where
  tables : traffic.tables = Tables.run config started (traffic.made.map Parcel.event)
  made : ∀ earlier parcel later, traffic.made = earlier ++ parcel :: later →
    parcel.Follows config started earlier
  /-- No outbox is lost, and none is delivered twice. -/
  all : (traffic.delivered ++ traffic.waiting).Perm traffic.made
  order : (traffic.delivered ++ traffic.waiting).Pairwise Parcel.MayPrecede
  waited : traffic.waiting.Pairwise fun earlier later => earlier.number ∈ later.ahead
  past : ∀ parcel ∈ traffic.made, ∀ number ∈ parcel.ahead, number < parcel.number
  /-- Nobody makes a transition while an own outbox is waiting. -/
  own : ∀ parcel ∈ traffic.made, ∀ other ∈ traffic.made, other.actor = parcel.actor →
    other.number ∉ parcel.ahead

namespace Ordered

variable {config : Config} {started : Time} {traffic : Traffic}

theorem number_lt (ordered : traffic.Ordered config started) {parcel : Parcel}
    (made : parcel ∈ traffic.made) : parcel.number < traffic.made.length := by
  obtain ⟨earlier, later, split⟩ := List.append_of_mem made
  rw [(ordered.made earlier parcel later split).number, split]
  simp

theorem number_lt_of_split (ordered : traffic.Ordered config started) {earlier later : List Parcel}
    {parcel other : Parcel} (split : traffic.made = earlier ++ parcel :: later)
    (early : other ∈ earlier) : other.number < parcel.number := by
  obtain ⟨before, between, rfl⟩ := List.append_of_mem early
  have first := ordered.made before other (between ++ parcel :: later) (by rw [split]; simp)
  rw [first.number, (ordered.made _ parcel later split).number, List.length_append,
    List.length_cons]
  omega

/-- The number of a transition is its place. -/
theorem numbers (ordered : traffic.Ordered config started) :
    traffic.made.map Parcel.number = List.range traffic.made.length := by
  apply List.ext_getElem (by simp)
  intro place bound _
  have inside : place < traffic.made.length := by simpa using bound
  have split : traffic.made =
      traffic.made.take place ++ traffic.made[place] :: traffic.made.drop (place + 1) := by
    simp
  rw [List.getElem_map, List.getElem_range, (ordered.made _ _ _ split).number, List.length_take]
  omega

/-- No two transitions have the same number. -/
theorem eq_of_number (ordered : traffic.Ordered config started) {first second : Parcel}
    (here : first ∈ traffic.made) (there : second ∈ traffic.made)
    (same : first.number = second.number) : first = second := by
  refine List.inj_on_of_nodup_map ?_ here there same
  rw [ordered.numbers]
  exact List.nodup_range

theorem start (config : Config) (started : Time) (connections : List Nat) :
    (start config started connections).Ordered config started where
  tables := rfl
  made earlier parcel later split := by
    cases earlier <;> cases split
  all := .refl _
  order := .nil
  waited := .nil
  past := nofun
  own := nofun

theorem transition (ordered : traffic.Ordered config started) {event : Tables.Event}
    (free : ∀ parcel ∈ traffic.waiting, parcel.actor ≠ event.actor) :
    Ordered config started
      { traffic with
        tables := traffic.tables.after config event
        made := traffic.made ++ [traffic.parcel config event]
        waiting := traffic.waiting ++ [traffic.parcel config event] } := by
  have there : ∀ parcel ∈ traffic.delivered ++ traffic.waiting, parcel ∈ traffic.made :=
    fun parcel => ordered.all.mem_iff.1
  have after : traffic.tables.after config event =
      Tables.run config started ((traffic.made ++ [traffic.parcel config event]).map
        Parcel.event) := by
    rw [List.map_append, Tables.run_append, ← ordered.tables]
    rfl
  constructor
  · exact after
  · intro earlier parcel later split
    rcases append_singleton_cases split with ⟨-, rfl, rfl⟩ | ⟨rest, -, old⟩
    · refine ⟨rfl, ?_, after⟩
      rw [← ordered.tables]
      rfl
    · exact ordered.made earlier parcel rest old
  · rw [← List.append_assoc]
    exact ordered.all.append_right _
  · rw [← List.append_assoc, List.pairwise_append]
    refine ⟨ordered.order, List.pairwise_singleton _ _, fun first listed second last earlier => ?_⟩
    -- The new transition is the latest one, and so it comes in order behind all the others.
    rw [List.mem_singleton.1 last] at earlier
    exact absurd (ordered.number_lt (there first listed)) (Nat.lt_asymm earlier)
  · rw [List.pairwise_append]
    refine ⟨ordered.waited, List.pairwise_singleton _ _, fun first waits second last => ?_⟩
    rw [List.mem_singleton.1 last]
    exact List.mem_map_of_mem waits
  · intro parcel listed number ahead
    rcases List.mem_append.1 listed with old | new
    · exact ordered.past parcel old number ahead
    · rw [List.mem_singleton.1 new] at ahead ⊢
      obtain ⟨other, waits, rfl⟩ := List.mem_map.1 ahead
      exact ordered.number_lt (there other (List.mem_append_right _ waits))
  · intro parcel listed other others same ahead
    rcases List.mem_append.1 listed with old | new
    · rcases List.mem_append.1 others with earlier | last
      · exact ordered.own parcel old other earlier same ahead
      -- No outbox can have been waiting before its transition was made.
      · rw [List.mem_singleton.1 last] at ahead
        exact absurd (ordered.past parcel old _ ahead) (Nat.lt_asymm (ordered.number_lt old))
    · obtain rfl := List.mem_singleton.1 new
      obtain ⟨waits, listed, number⟩ := List.mem_map.1 ahead
      have early := there waits (List.mem_append_right _ listed)
      rcases List.mem_append.1 others with earlier | last
      · rw [ordered.eq_of_number early earlier number] at listed
        exact free other listed same
      · rw [List.mem_singleton.1 last] at number
        have before := ordered.number_lt early
        rw [number] at before
        exact absurd before (Nat.lt_irrefl _)

theorem delivered_outbox (traffic : Traffic) (waiting : List Parcel) (parcel : Parcel)
    (channels : List Channel) :
    delivered { traffic with waiting, log := traffic.log ++ [.outbox parcel], channels } =
      traffic.delivered ++ [parcel] :=
  List.filterMap_append

theorem delivery (ordered : traffic.Ordered config started) {before after : List Parcel}
    {parcel : Parcel} (split : traffic.waiting = before ++ parcel :: after)
    (channels : List Channel) :
    Ordered config started
      { traffic with
        waiting := before ++ after
        log := traffic.log ++ [.outbox parcel]
        channels } := by
  have moved : (traffic.delivered ++ traffic.waiting).Perm
      (traffic.delivered ++ [parcel] ++ (before ++ after)) := by
    rw [split, List.append_assoc]
    exact List.perm_middle.append_left _
  have waited := ordered.waited
  rw [split] at waited
  have kept := waited.sublist ((List.sublist_cons_self parcel after).append_left before)
  have order := ordered.order
  rw [split, List.pairwise_append] at order
  obtain ⟨done, left, across⟩ := order
  rw [List.pairwise_append, List.pairwise_cons] at left waited
  obtain ⟨early, ⟨late, behind⟩, around⟩ := left
  obtain ⟨_, _, overtaken⟩ := waited
  refine ⟨ordered.tables, ordered.made, ?_, ?_, ?_, ordered.past, ordered.own⟩
  · rw [delivered_outbox]
    exact moved.symm.trans ordered.all
  · rw [delivered_outbox, List.append_assoc, List.pairwise_append, List.singleton_append,
      List.pairwise_cons, List.pairwise_append]
    refine ⟨done, ⟨fun other listed => ?_, early, behind, fun first before second after => ?_⟩, ?_⟩
    · rcases List.mem_append.1 listed with before | after
      -- Those that still wait were waiting when this transition took place.
      · exact fun _ => overtaken other before parcel List.mem_cons_self
      · exact late other after
    · exact around first before second (List.mem_cons_of_mem parcel after)
    · intro first before second listed
      refine across first before second ?_
      rcases List.mem_cons.1 listed with rfl | listed
      · exact List.mem_append_right _ List.mem_cons_self
      · exact List.mem_append.2 ((List.mem_append.1 listed).imp id (List.mem_cons_of_mem parcel))
  · exact kept

/-- It is only transitions and deliveries that matter to the order. -/
theorem of_delivered_eq (ordered : traffic.Ordered config started) {later : Traffic}
    (tables : later.tables = traffic.tables) (made : later.made = traffic.made)
    (waiting : later.waiting = traffic.waiting)
    (delivered : later.delivered = traffic.delivered) :
    later.Ordered config started where
  tables := by rw [tables, made]; exact ordered.tables
  made := by rw [made]; exact ordered.made
  all := by rw [delivered, waiting, made]; exact ordered.all
  order := by rw [delivered, waiting]; exact ordered.order
  waited := by rw [waiting]; exact ordered.waited
  past := by rw [made]; exact ordered.past
  own := by rw [made]; exact ordered.own

theorem next (ordered : traffic.Ordered config started) (action : Action) :
    (traffic.next config action).Ordered config started := by
  have steps := traffic.next_steps config action
  generalize traffic.next config action = after at steps
  cases steps with
  | idle =>
      exact ordered
  | transition free =>
      exact ordered.transition free
  | delivery split =>
      exact ordered.delivery split _
  | @notice connection =>
      have same : (traffic.log ++ [Sending.notice connection]).filterMap Sending.parcel? =
          traffic.delivered := by
        rw [List.filterMap_append]
        exact List.append_nil _
      exact ordered.of_delivered_eq rfl rfl rfl same
  | receive | hangUp =>
      exact ordered.of_delivered_eq rfl rfl rfl rfl

end Ordered

end Traffic

end Cardroom
