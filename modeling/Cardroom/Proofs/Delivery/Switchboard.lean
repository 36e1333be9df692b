import Cardroom.Proofs.Delivery.Arrival
import Cardroom.Proofs.Delivery.History
import Cardroom.Proofs.Delivery.Waiting

/-!
# Connections at work

A connection is shared by handles, which are cloned and dropped: by whoever sends and closes, and by
the outboxes that wait for their delivery. At its other end somebody receives the frames, and anyone
can watch its close signal. `Switchboard` is the state of any number of connections, and a list of
events is one way in which all that can be interleaved; an outbox is handed over piece by piece, so
that others can come in between.

`run_isFaithful` says what the connections keep to whatever happens: each receiving end yields what
was sent to its own connection, in order, a whole delivery is worth its pieces, and a watcher comes
to its end exactly when the connection was closed or its last handle was dropped.
-/

namespace Cardroom

namespace Outbox

def connections (outbox : Outbox) : List Nat :=
  outbox.frames.map Prod.fst ++ outbox.closing

def Command.connection : Command → Nat
  | push connection _ _ => connection
  | close connection => connection

def nextDeed? (outbox : Outbox) : Option (Nat × Channel.Deed) :=
  match outbox.frames, outbox.closing with
  | entry :: _, _ => some (entry.1, .send entry.2)
  | [], connection :: _ => some (connection, .close)
  | [], [] => none

end Outbox

/-- The close signal of a channel with such a history. -/
def Channel.signal (history : List Channel.Outcome) (channel : Channel) : Signal where
  raised := channel.closed
  changes := history.count .raised
  hasSender := channel.hasSender

/-! ## The switchboard -/

structure Consignment where
  /-- What has been put into it. -/
  commands : List Outbox.Command := []
  /-- How many of its pieces have been handed over. -/
  handed : Nat := 0

def Consignment.rest (consignment : Consignment) : Outbox :=
  (Outbox.ofCommands consignment.commands).left consignment.handed

/-- Connections, numbered in the order in which they were made, and all that is at their ends. -/
structure Switchboard where
  channels : List Channel := []
  /-- The connections of the handles in use, outboxes apart. -/
  handles : List Nat := []
  /-- The outboxes that are being filled or handed over. -/
  outboxes : List Consignment := []
  watchers : List Watcher := []
  /-- What has been done so far, and at which connection. -/
  past : List (Nat × Channel.Outcome) := []

namespace Switchboard

inductive Event where
  /-- A connection is made, with one handle and one watcher. -/
  | connect
  | clone (connection : Nat)
  | drop (connection : Nat)
  | act (connection : Nat) (deed : Channel.Deed)
  | subscribe (connection : Nat)
  /-- A watcher does the next thing. -/
  | watch (index : Nat)
  /-- A watcher begins anew. -/
  | rewatch (index : Nat)
  /-- There is a new outbox. -/
  | begin
  | fill (index : Nat) (command : Outbox.Command)
  /-- The next piece of an outbox is handed over. -/
  | handOver (index : Nat)
  | discard (index : Nat)

def channel? (connection : Nat) (board : Switchboard) : Option Channel :=
  Outbox.channel? connection board.channels

def holders (board : Switchboard) : List Nat :=
  board.handles ++ board.outboxes.flatMap fun outbox => outbox.rest.connections

def history (connection : Nat) (board : Switchboard) : List Channel.Outcome :=
  board.past.filterMap fun entry => if entry.1 = connection then some entry.2 else none

def signal (connection : Nat) (board : Switchboard) : Signal :=
  match board.channel? connection with
  | none => {}
  | some channel => channel.signal (board.history connection)

/-- Whoever sends or closes has a handle, and only a receiving end receives. -/
def allows (connection : Nat) (deed : Channel.Deed) (board : Switchboard) : Bool :=
  if deed.isReceiving then (board.channel? connection).any Channel.hasReceiver
  else board.handles.contains connection

def perform (connection : Nat) (deed : Channel.Deed) (board : Switchboard) : Switchboard :=
  { board with
    channels :=
      Outbox.withChannel connection (fun channel => channel.perform deed) board.channels
    past :=
      board.past ++ ((board.channel? connection).map fun channel =>
        (connection, channel.outcome deed)).toList }

/-- The sending side of a connection is gone when its last handle is. -/
def settle (board : Switchboard) : Switchboard :=
  { board with
    channels := board.channels.map fun channel =>
      if channel.id ∈ board.holders then channel else channel.dropSender }

/-- The switchboard after an event. What cannot happen changes nothing. -/
def next (board : Switchboard) : Event → Switchboard
  | .connect =>
      { board with
        channels := board.channels ++ [{ id := board.channels.length }]
        handles := board.handles ++ [board.channels.length]
        watchers := board.watchers ++ [{ connection := board.channels.length, seen := 0 }] }
  | .clone connection =>
      if connection ∈ board.handles then
        settle { board with handles := board.handles ++ [connection] }
      else
        board
  | .drop connection => settle { board with handles := board.handles.erase connection }
  | .act connection deed =>
      if board.allows connection deed then board.perform connection deed else board
  | .subscribe connection =>
      if connection ∈ board.handles then
        { board with
          watchers :=
            board.watchers ++ [{ connection, seen := (board.signal connection).changes }] }
      else
        board
  | .watch index =>
      { board with
        watchers := board.watchers.modify index fun watcher =>
          watcher.step (board.signal watcher.connection) }
  | .rewatch index =>
      { board with
        watchers := board.watchers.modify index fun watcher => { watcher with stage := .looks } }
  | .begin => settle { board with outboxes := board.outboxes ++ [{}] }
  | .fill index command =>
      match board.outboxes[index]? with
      | none => board
      | some outbox =>
          if command.connection ∈ board.handles ∧ outbox.handed = 0 then
            settle { board with
              outboxes :=
                board.outboxes.set index { outbox with commands := outbox.commands ++ [command] } }
          else
            board
  | .handOver index =>
      match board.outboxes[index]? with
      | none => board
      | some outbox =>
          match outbox.rest.nextDeed? with
          | none => board
          | some (connection, deed) =>
              settle { board.perform connection deed with
                outboxes :=
                  board.outboxes.set index { outbox with handed := outbox.handed + 1 } }
  | .discard index => settle { board with outboxes := board.outboxes.set index {} }

def run (events : List Event) (board : Switchboard) : Switchboard :=
  events.foldl next board

variable {board : Switchboard} {connection other : Nat} {channel : Channel}

theorem channel?_perform (deed : Channel.Deed) :
    (board.perform connection deed).channel? other =
      (board.channel? other).map fun channel =>
        if other = connection then channel.perform deed else channel :=
  Outbox.channel?_withChannel (fun channel => channel.id_perform deed) connection other
    board.channels

theorem history_perform (found : board.channel? connection = some channel)
    (deed : Channel.Deed) :
    (board.perform connection deed).history other =
      board.history other ++ if other = connection then [channel.outcome deed] else [] := by
  unfold history perform
  rw [found, List.filterMap_append]
  by_cases here : other = connection
  · simp [here]
  · simp [here, Ne.symm here]

theorem channel?_settle :
    board.settle.channel? connection =
      (board.channel? connection).map fun channel =>
        if connection ∈ board.holders then channel else channel.dropSender := by
  refine Outbox.channel?_map
    (fun id channel => if id ∈ board.holders then channel else channel.dropSender)
    (fun id channel => ?_) connection board.channels
  split <;> rfl

theorem signal_of_channel? (found : board.channel? connection = some channel) :
    board.signal connection = channel.signal (board.history connection) := by
  rw [signal, found]

/-- Only a close changes the signal. -/
theorem precedes_perform (history : List Channel.Outcome) (channel : Channel)
    (deed : Channel.Deed) :
    (channel.signal history).Precedes
      ((channel.perform deed).signal (history ++ [channel.outcome deed])) where
  changes := by
    cases deed with
    | send frame =>
        refine .inl ⟨?_, channel.closed_send frame⟩
        simp [Channel.signal, Channel.outcome]
    | close =>
        refine .inr ⟨?_, rfl⟩
        simp [Channel.signal, Channel.outcome]
    | receive =>
        refine .inl ⟨?_, ?_⟩
        · simp [Channel.signal, Channel.outcome]
        · simp only [Channel.signal, Channel.perform, Channel.receive]
          split <;> rfl
    | dropReceiver =>
        refine .inl ⟨?_, rfl⟩
        simp [Channel.signal, Channel.outcome]
  hasSender := by
    intro sender
    exact (channel.hasSender_perform deed).symm.trans sender

/-! ## What holds at all times -/

/-- The channels are what their histories say, and have a sender as long as there is a handle; the
watchers have not missed anything. -/
structure IsSound (board : Switchboard) : Prop where
  known : ∀ connection, (board.channel? connection).isSome ↔ connection < board.channels.length
  recorded : ∀ {connection channel}, board.channel? connection = some channel →
    channel.Recorded (board.history connection) ∧
      (channel.hasSender = true ↔ connection ∈ board.holders)
  unknown : ∀ {connection}, board.channel? connection = none →
    board.history connection = [] ∧ connection ∉ board.holders
  watched : ∀ watcher ∈ board.watchers,
    ∃ channel, board.channel? watcher.connection = some channel ∧
      watcher.IsRight (channel.signal (board.history watcher.connection))

namespace IsSound

theorem exists_channel (sound : board.IsSound) (held : connection ∈ board.holders) :
    ∃ channel, board.channel? connection = some channel := by
  cases found : board.channel? connection with
  | none =>
      exact absurd held (sound.unknown found).2
  | some channel =>
      exact ⟨channel, rfl⟩

theorem perform (sound : board.IsSound) (found : board.channel? connection = some channel)
    (deed : Channel.Deed) (possible : deed.isReceiving = true → channel.hasReceiver = true) :
    (board.perform connection deed).IsSound where
  known other := by
    rw [channel?_perform, Option.isSome_map, sound.known]
    simp [Switchboard.perform, Outbox.withChannel]
  recorded := by
    intro other later there
    rw [channel?_perform] at there
    obtain ⟨before, known, rfl⟩ := Option.map_eq_some_iff.1 there
    obtain ⟨recorded, held⟩ := sound.recorded known
    rw [history_perform found]
    by_cases here : other = connection
    · subst here
      obtain rfl := Option.some.inj (known.symm.trans found)
      rw [if_pos rfl, if_pos rfl]
      refine ⟨recorded.perform deed possible, ?_⟩
      rw [Channel.hasSender_perform]
      exact held
    · rw [if_neg here, if_neg here, List.append_nil]
      exact ⟨recorded, held⟩
  unknown := by
    intro other missing
    rw [channel?_perform, Option.map_eq_none_iff] at missing
    have apart : other ≠ connection := by
      rintro rfl
      rw [found] at missing
      cases missing
    rw [history_perform found, if_neg apart, List.append_nil]
    exact sound.unknown missing
  watched := by
    intro watcher listed
    obtain ⟨before, known, right⟩ := sound.watched watcher listed
    rw [channel?_perform, known, history_perform found]
    refine ⟨_, rfl, ?_⟩
    dsimp only
    by_cases here : watcher.connection = connection
    · obtain rfl := Option.some.inj (known.symm.trans (here ▸ found))
      rw [if_pos here, if_pos here]
      exact right.of_precedes (precedes_perform _ before deed)
    · rw [if_neg here, if_neg here, List.append_nil]
      exact right

theorem channel?_connect (board : Switchboard) (connection : Nat) :
    (board.next .connect).channel? connection =
      (board.channel? connection).or
        (if board.channels.length = connection then some { id := board.channels.length } else none) :=
  Outbox.channel?_concat connection board.channels { id := board.channels.length }

theorem mem_holders_connect :
    connection ∈ (board.next .connect).holders ↔
      connection ∈ board.holders ∨ connection = board.channels.length := by
  simp only [holders, next, List.mem_append, List.mem_singleton]
  tauto

theorem connect (sound : board.IsSound) : (board.next .connect).IsSound where
  known connection := by
    rw [channel?_connect, Option.isSome_or, Bool.or_eq_true, sound.known, Option.isSome_ite]
    simp only [next, List.length_append, List.length_singleton]
    omega
  recorded := by
    intro connection channel found
    rw [channel?_connect, Option.or_eq_some_iff] at found
    rw [mem_holders_connect]
    rcases found with known | ⟨missing, new⟩
    · have early := (sound.known connection).1 (Option.isSome_of_eq_some known)
      obtain ⟨recorded, held⟩ := sound.recorded known
      refine ⟨recorded, held.trans (or_iff_left ?_).symm⟩
      exact Nat.ne_of_lt early
    · rw [Option.ite_none_right_eq_some, Option.some.injEq] at new
      obtain ⟨rfl, rfl⟩ := new
      refine ⟨?_, iff_of_true rfl (.inr rfl)⟩
      show Channel.Recorded (board.history board.channels.length) _
      rw [(sound.unknown missing).1]
      exact .new _
  unknown := by
    intro connection missing
    rw [channel?_connect, Option.or_eq_none_iff] at missing
    obtain ⟨nothing, unheld⟩ := sound.unknown missing.1
    refine ⟨nothing, ?_⟩
    rw [mem_holders_connect]
    rintro (held | rfl)
    · exact unheld held
    · simp at missing
  watched := by
    intro watcher listed
    rw [channel?_connect]
    rcases List.mem_append.1 listed with old | new
    · obtain ⟨channel, known, right⟩ := sound.watched watcher old
      rw [known]
      exact ⟨channel, rfl, right⟩
    · obtain rfl := List.mem_singleton.1 new
      have missing : board.channel? board.channels.length = none := by
        rw [← Option.not_isSome_iff_eq_none, sound.known]
        exact Nat.lt_irrefl _
      rw [missing, if_pos rfl]
      exact ⟨_, rfl, .of_looks rfl (Nat.zero_le _)⟩

/-- Handles are dropped, and with the last one of a connection its sending side. -/
theorem settle (sound : board.IsSound) (handles : List Nat) (outboxes : List Consignment)
    (fewer : ∀ connection ∈ ({ board with handles, outboxes } : Switchboard).holders,
      connection ∈ board.holders) :
    ({ board with handles, outboxes } : Switchboard).settle.IsSound where
  known connection := by
    rw [channel?_settle, Option.isSome_map]
    refine (sound.known connection).trans ?_
    simp [Switchboard.settle]
  recorded := by
    intro connection channel found
    rw [channel?_settle] at found
    obtain ⟨before, known, rfl⟩ := Option.map_eq_some_iff.1 found
    obtain ⟨recorded, held⟩ := sound.recorded known
    split
    · next kept =>
        exact ⟨recorded, iff_of_true (held.2 (fewer connection kept)) kept⟩
    · next gone =>
        exact ⟨recorded.dropSender, iff_of_false Bool.noConfusion gone⟩
  unknown := by
    intro connection missing
    rw [channel?_settle, Option.map_eq_none_iff] at missing
    obtain ⟨nothing, unheld⟩ := sound.unknown missing
    exact ⟨nothing, fun held => unheld (fewer connection held)⟩
  watched := by
    intro watcher listed
    obtain ⟨before, known, right⟩ := sound.watched watcher listed
    rw [channel?_settle]
    refine ⟨_, congrArg (Option.map _) known, right.of_precedes ?_⟩
    dsimp only
    split
    · exact .refl _
    · exact ⟨.inl ⟨rfl, rfl⟩, Bool.noConfusion⟩

theorem mem_connections_addTo {outbox : Outbox} {command : Outbox.Command}
    (held : connection ∈ (command.addTo outbox).connections) :
    connection ∈ outbox.connections ∨ connection = command.connection := by
  cases command with
  | push addressee type payload =>
      simp only [Outbox.Command.addTo, Outbox.push, Outbox.connections, List.map_append,
        List.map_cons, List.map_nil, List.mem_append, List.mem_singleton] at held ⊢
      tauto
  | close addressee =>
      simp only [Outbox.Command.addTo, Outbox.close, Outbox.connections, List.mem_append,
        List.mem_singleton] at held ⊢
      tauto

theorem mem_connections_left {outbox : Outbox} {count : Nat}
    (held : connection ∈ (outbox.left count).connections) :
    connection ∈ outbox.connections := by
  rcases List.mem_append.1 held with framed | closing
  · rw [Outbox.left, List.map_drop] at framed
    exact List.mem_append_left _ (List.mem_of_mem_drop framed)
  · exact List.mem_append_right _ (List.mem_of_mem_drop closing)

/-- Only an outbox that is put in the place of another one brings handles. -/
theorem mem_holders_of_set {index : Nat} {outbox : Consignment}
    (held : connection ∈
      ({ board with outboxes := board.outboxes.set index outbox } : Switchboard).holders) :
    connection ∈ outbox.rest.connections ∨ connection ∈ board.holders := by
  rcases List.mem_append.1 held with handle | boxed
  · exact .inr (List.mem_append_left _ handle)
  · obtain ⟨filled, listed, inside⟩ := List.mem_flatMap.1 boxed
    rcases List.mem_or_eq_of_mem_set listed with old | rfl
    · exact .inr (List.mem_append_right _ (List.mem_flatMap.2 ⟨filled, old, inside⟩))
    · exact .inl inside

theorem mem_holders_of_getElem? {index : Nat} {outbox : Consignment}
    (found : board.outboxes[index]? = some outbox)
    (held : connection ∈ outbox.rest.connections) :
    connection ∈ board.holders :=
  List.mem_append_right _ (List.mem_flatMap.2 ⟨outbox, List.mem_of_getElem? found, held⟩)

theorem nextDeed?_spec {outbox : Outbox} {deed : Channel.Deed}
    (due : outbox.nextDeed? = some (connection, deed)) :
    connection ∈ outbox.connections ∧ deed.isReceiving = false := by
  obtain ⟨frames, closing⟩ := outbox
  cases frames with
  | cons entry frames =>
      cases due
      exact ⟨List.mem_cons_self, rfl⟩
  | nil =>
      cases closing with
      | cons first closing =>
          cases due
          exact ⟨List.mem_cons_self, rfl⟩
      | nil =>
          cases due

theorem handOver (sound : board.IsSound) (index : Nat) :
    (board.next (.handOver index)).IsSound := by
  unfold Switchboard.next
  dsimp only
  split
  · exact sound
  · next outbox found =>
      split
      · exact sound
      · next connection deed due =>
          obtain ⟨inside, sends⟩ := nextDeed?_spec due
          obtain ⟨channel, known⟩ := sound.exists_channel (mem_holders_of_getElem? found inside)
          have done : (board.perform connection deed).IsSound := by
            refine sound.perform known deed fun receives => ?_
            rw [sends] at receives
            cases receives
          refine done.settle board.handles _ fun other held => ?_
          rcases mem_holders_of_set held with new | old
          · rw [Consignment.rest, Outbox.left_succ] at new
            exact mem_holders_of_getElem? found (mem_connections_left new)
          · exact old

theorem fill (sound : board.IsSound) (index : Nat) (command : Outbox.Command) :
    (board.next (.fill index command)).IsSound := by
  unfold Switchboard.next
  dsimp only
  split
  · exact sound
  · next outbox found =>
      split
      · next free =>
          obtain ⟨handle, whole⟩ := free
          refine sound.settle board.handles _ fun other held => ?_
          rcases mem_holders_of_set held with new | old
          · have rest : outbox.rest = Outbox.ofCommands outbox.commands := by
              rw [Consignment.rest, whole, Outbox.left_zero]
            rw [Consignment.rest, whole, Outbox.left_zero, Outbox.ofCommands_concat] at new
            rcases mem_connections_addTo new with before | rfl
            · exact mem_holders_of_getElem? found (rest ▸ before)
            · exact List.mem_append_left _ handle
          · exact old
      · exact sound

theorem of_watchers (sound : board.IsSound) {watchers : List Watcher}
    (right : ∀ watcher ∈ watchers,
      ∃ channel, board.channel? watcher.connection = some channel ∧
        watcher.IsRight (channel.signal (board.history watcher.connection))) :
    ({ board with watchers } : Switchboard).IsSound :=
  ⟨sound.known, sound.recorded, sound.unknown, right⟩

theorem of_modify (sound : board.IsSound) (index : Nat) {change : Watcher → Watcher}
    (same : ∀ watcher, (change watcher).connection = watcher.connection)
    (right : ∀ {watcher channel}, board.channel? watcher.connection = some channel →
      watcher.IsRight (channel.signal (board.history watcher.connection)) →
        (change watcher).IsRight (channel.signal (board.history watcher.connection))) :
    ({ board with watchers := board.watchers.modify index change } : Switchboard).IsSound := by
  refine sound.of_watchers fun watcher listed => ?_
  obtain ⟨place, there⟩ := List.mem_iff_getElem?.1 listed
  rw [List.getElem?_modify] at there
  obtain ⟨before, found, rfl⟩ := Option.map_eq_some_iff.1 there
  obtain ⟨channel, known, kept⟩ := sound.watched before (List.mem_of_getElem? found)
  refine ⟨channel, ?_⟩
  split
  · rw [same]
    exact ⟨known, right known kept⟩
  · exact ⟨known, kept⟩

theorem watch (sound : board.IsSound) (index : Nat) : (board.next (.watch index)).IsSound := by
  refine sound.of_modify index (fun _ => Watcher.connection_step) fun known right => ?_
  rw [signal_of_channel? known]
  exact right.step

theorem subscribe (sound : board.IsSound) (connection : Nat) :
    (board.next (.subscribe connection)).IsSound := by
  unfold Switchboard.next
  dsimp only
  split
  · next handle =>
      obtain ⟨channel, known⟩ := sound.exists_channel (List.mem_append_left _ handle)
      refine sound.of_watchers fun watcher listed => ?_
      rcases List.mem_append.1 listed with old | new
      · exact sound.watched watcher old
      · obtain rfl := List.mem_singleton.1 new
        rw [signal_of_channel? known]
        exact ⟨channel, known, .of_looks rfl (Nat.le_refl _)⟩
  · exact sound

theorem act (sound : board.IsSound) (connection : Nat) (deed : Channel.Deed) :
    (board.next (.act connection deed)).IsSound := by
  unfold Switchboard.next
  dsimp only
  split
  · next allowed =>
      unfold allows at allowed
      split at allowed
      · obtain ⟨channel, found, hears⟩ := (Option.any_eq_true _ _).1 allowed
        exact sound.perform found deed fun _ => hears
      · next sends =>
          have handle := List.contains_iff_mem.1 allowed
          obtain ⟨channel, found⟩ := sound.exists_channel (List.mem_append_left _ handle)
          exact sound.perform found deed fun receives => absurd receives sends
  · exact sound

/-- Whatever happens, the switchboard stays sound. -/
theorem next (sound : board.IsSound) (event : Event) : (board.next event).IsSound := by
  cases event with
  | connect =>
      exact sound.connect
  | clone connection =>
      unfold Switchboard.next
      dsimp only
      split
      · next handle =>
          refine sound.settle _ board.outboxes fun other held => ?_
          rcases List.mem_append.1 held with inUse | boxed
          · rcases List.mem_append.1 inUse with old | new
            · exact List.mem_append_left _ old
            · rw [List.mem_singleton.1 new]
              exact List.mem_append_left _ handle
          · exact List.mem_append_right _ boxed
      · exact sound
  | drop connection =>
      refine sound.settle _ board.outboxes fun other held => ?_
      rcases List.mem_append.1 held with inUse | boxed
      · exact List.mem_append_left _ (List.mem_of_mem_erase inUse)
      · exact List.mem_append_right _ boxed
  | act connection deed =>
      exact sound.act connection deed
  | subscribe connection =>
      exact sound.subscribe connection
  | watch index =>
      exact sound.watch index
  | rewatch index =>
      exact sound.of_modify index (fun _ => rfl) fun _ right => .of_looks rfl right.seen
  | begin =>
      refine sound.settle board.handles _ fun other held => ?_
      have empty : Consignment.rest {} = {} := rfl
      simpa [holders, Outbox.connections, empty] using held
  | fill index command =>
      exact sound.fill index command
  | handOver index =>
      exact sound.handOver index
  | discard index =>
      refine sound.settle board.handles _ fun other held => ?_
      exact (mem_holders_of_set held).resolve_left List.not_mem_nil

theorem start : IsSound {} where
  known _ := iff_of_false Bool.noConfusion (Nat.not_lt_zero _)
  recorded found := by cases found
  unknown _ := ⟨rfl, List.not_mem_nil⟩
  watched := nofun

theorem run (sound : board.IsSound) (events : List Event) : (board.run events).IsSound := by
  induction events generalizing board with
  | nil =>
      exact sound
  | cons event events inductionHypothesis =>
      exact inductionHypothesis (sound.next event)

theorem isOver_iff (sound : board.IsSound) (found : board.channel? connection = some channel) :
    channel.isOver ↔ .raised ∈ board.history connection ∨ connection ∉ board.holders := by
  obtain ⟨recorded, held⟩ := sound.recorded found
  rw [Channel.isOver, Bool.or_eq_true, Bool.not_eq_true', ← recorded.closed, ← held,
    Bool.not_eq_true]

theorem ends_iff (sound : board.IsSound) {watcher : Watcher} (listed : watcher ∈ board.watchers) :
    watcher.Ends (board.signal watcher.connection) ↔
      .raised ∈ board.history watcher.connection ∨ watcher.connection ∉ board.holders := by
  obtain ⟨channel, known, right⟩ := sound.watched watcher listed
  rw [signal_of_channel? known, right.ends_iff, ← sound.isOver_iff known, Channel.isOver,
    Bool.or_eq_true, Bool.not_eq_true']
  rfl

end IsSound

theorem deliver_dropSender (outbox : Outbox) (channels : List Channel) :
    outbox.deliver (channels.map Channel.dropSender) =
      (outbox.deliver channels).map Channel.dropSender := by
  rw [Outbox.deliver_eq_map, Outbox.deliver_eq_map, List.map_map, List.map_map]
  rfl

theorem settle_dropSender (board : Switchboard) :
    board.settle.channels.map Channel.dropSender = board.channels.map Channel.dropSender := by
  rw [settle, List.map_map]
  apply List.map_congr_left
  intro channel _
  rw [Function.comp_apply]
  split <;> rfl

theorem handOver_of_nextDeed? {outbox : Outbox} {deed : Channel.Deed}
    (due : outbox.nextDeed? = some (connection, deed)) (channels : List Channel) :
    outbox.handOver channels =
      (outbox.left 1,
        Outbox.withChannel connection (fun channel => channel.perform deed) channels) := by
  obtain ⟨frames, closing⟩ := outbox
  cases frames with
  | cons entry frames =>
      cases due
      simp only [Outbox.handOver, Outbox.left, List.length_cons, Nat.sub_eq_zero_of_le,
        Nat.le_add_left, List.drop_succ_cons, List.drop_zero]
      rfl
  | nil =>
      cases closing with
      | cons first closing =>
          cases due
          rfl
      | nil =>
          cases due

theorem handOver_of_nextDeed?_eq_none {outbox : Outbox} (empty : outbox.nextDeed? = none)
    (channels : List Channel) :
    outbox.handOver channels = (outbox, channels) := by
  obtain ⟨frames, closing⟩ := outbox
  cases frames with
  | cons entry frames =>
      cases empty
  | nil =>
      cases closing with
      | cons first closing =>
          cases empty
      | nil =>
          rfl

/-- A piece that is handed over does to the channels what the outbox has for them, and leaves the
others in the outbox; but a connection may have lost its last handle with it. -/
theorem next_handOver {index : Nat} {outbox : Consignment}
    (found : board.outboxes[index]? = some outbox) :
    (∃ later, (board.next (.handOver index)).outboxes[index]? = some later ∧
        later.rest = (outbox.rest.handOver board.channels).1) ∧
      (board.next (.handOver index)).channels.map Channel.dropSender =
        (outbox.rest.handOver board.channels).2.map Channel.dropSender := by
  obtain ⟨inside, -⟩ := List.getElem?_eq_some_iff.1 found
  cases due : outbox.rest.nextDeed? with
  | none =>
      simp only [next, found, due, handOver_of_nextDeed?_eq_none due]
      exact ⟨⟨outbox, rfl, rfl⟩, trivial⟩
  | some piece =>
      obtain ⟨connection, deed⟩ := piece
      simp only [next, found, due, handOver_of_nextDeed? due]
      refine ⟨⟨{ outbox with handed := outbox.handed + 1 }, ?_, ?_⟩, settle_dropSender _⟩
      · simp [settle, inside]
      · exact Outbox.left_succ _ _

/-- When nothing else comes in between, the pieces are a delivery. -/
theorem run_handOver {index : Nat} {outbox : Consignment} (count : Nat)
    (found : board.outboxes[index]? = some outbox) :
    (board.run (List.replicate count (.handOver index))).channels.map Channel.dropSender =
      ((outbox.rest.handedOver count).deliver board.channels).map Channel.dropSender := by
  induction count generalizing board outbox with
  | zero =>
      have none := congrArg Prod.snd (Outbox.iterate_handOver 0 outbox.rest board.channels)
      exact congrArg _ none
  | succ count inductionHypothesis =>
      obtain ⟨⟨later, there, left⟩, same⟩ := next_handOver found
      have pieces : ((outbox.rest.handOver board.channels).1.handedOver count).deliver
          (outbox.rest.handOver board.channels).2 =
            (outbox.rest.handedOver (count + 1)).deliver board.channels :=
        congrArg Prod.snd ((Outbox.iterate_handOver count _ _).symm.trans
          (Outbox.iterate_handOver (count + 1) outbox.rest board.channels))
      calc ((board.next (.handOver index)).run
              (List.replicate count (.handOver index))).channels.map Channel.dropSender
        _ = (later.rest.handedOver count).deliver
              ((board.next (.handOver index)).channels.map Channel.dropSender) := by
            rw [inductionHypothesis there, deliver_dropSender]
        _ = (((outbox.rest.handOver board.channels).1.handedOver count).deliver
              (outbox.rest.handOver board.channels).2).map Channel.dropSender := by
            rw [left, same, deliver_dropSender]
        _ = ((outbox.rest.handedOver (count + 1)).deliver board.channels).map
              Channel.dropSender := by
            rw [pieces]

/-! ## What connections keep to -/

/-- The connections neither lose nor double a frame, nor does one get a frame of another. -/
structure IsFaithful (board : Switchboard) : Prop where
  /-- What a receiving end has yielded, and what is queued for it, is what was accepted for its
  connection, in order. -/
  carries : ∀ {connection channel}, board.channel? connection = some channel →
    channel.Recorded (board.history connection)
  /-- An outbox that is handed over is delivered. Whether anyone can still send is left out, since
  handles go with the pieces. -/
  delivers : ∀ {index outbox} (count : Nat), board.outboxes[index]? = some outbox →
    (board.run (List.replicate count (.handOver index))).channels.map Channel.dropSender =
      ((outbox.rest.handedOver count).deliver board.channels).map Channel.dropSender
  /-- Waiting is over if the connection was closed or all its handles are gone, and only then. -/
  isOver : ∀ {connection channel}, board.channel? connection = some channel →
    (channel.isOver ↔ .raised ∈ board.history connection ∨ connection ∉ board.holders)
  /-- So a watcher comes to its end, whenever it was subscribed. -/
  ends : ∀ watcher ∈ board.watchers,
    watcher.Ends (board.signal watcher.connection) ↔
      .raised ∈ board.history watcher.connection ∨ watcher.connection ∉ board.holders

/-- Whatever happens at any number of connections, they carry what is sent, and outboxes reach them
as they were filled: each frame in its place, and every close after the frames. -/
theorem run_isFaithful (events : List Event) (commands : List Outbox.Command)
    (channels : List Channel) :
    (run events {}).IsFaithful ∧ Outbox.Arrives commands channels := by
  have sound := IsSound.start.run events
  refine ⟨⟨?_, ?_, ?_, ?_⟩, Outbox.arrives commands channels⟩
  · intro connection channel found
    exact (sound.recorded found).1
  · intro index outbox count found
    exact run_handOver count found
  · intro connection channel found
    exact sound.isOver_iff found
  · intro watcher listed
    exact sound.ends_iff listed

/-- A close that is put into an outbox before the last frame is handed over after it. -/
example :
    let events : List Event :=
      [.connect, .begin, .fill 0 (.push 0 .error "Invalid data"), .fill 0 (.close 0),
        .fill 0 (.push 0 .notice "late"), .handOver 0, .handOver 0]
    let frames : List Frame :=
      [{ type := .error, payload := "Invalid data" }, { type := .notice, payload := "late" }]
    (run events {}).channel? 0 = some { id := 0, queue := frames } ∧
      (run (events ++ [.handOver 0]) {}).channel? 0 =
        some { id := 0, queue := frames, closed := true } := by
  decide

end Switchboard

end Cardroom
