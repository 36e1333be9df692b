import Cardroom.Proofs.Delivery.Interleaving
import Cardroom.Proofs.Server.Shown

/-!
# What the clients are left with

However the workers, the sweeper and the writers take turns: as long as the writer of a connection
is there, its queue gets the frames of the delivered outboxes, one outbox after the other, and
nothing else but what its worker says by itself. An outbox can overtake an earlier one only if that
was still waiting when the later transition took place. `run_delivers` says this, and what it means
for the players of a match whose writers are there: unless the last outbox that shows a player cards
overtakes an earlier one, the last of all frames with cards that were queued for the player shows
the match as it is.
-/

namespace Cardroom

/-- What a frame that showed a match says of it as long as it looks the same. -/
theorem Frame.Shows.now {id : Nat} {shown game : Match} {frame : Frame}
    (shows : frame.Shows id shown) (same : shown.SameFace game) :
    frame.type = .state ∧ ({ game with status := shown.status }).view? id = some frame.payload ∨
      frame.type = .cards ∧ game.handCodes? id = some frame.payload ∧ shown.IsDealt := by
  cases shows with
  | table shows =>
      have same : shown.SameFace { game with status := shown.status } :=
        ⟨same.holdings, same.top, same.combinations, same.current⟩
      exact .inl ⟨rfl, (same.view?_eq rfl id).trans shows⟩
  | hand dealt shows =>
      exact .inr ⟨rfl, (same.handCodes?_eq id).trans shows, dealt⟩

namespace Traffic

/-- Two outboxes have been delivered in the order that is not the one of their transitions. -/
def Overtakes (later earlier : Parcel) (traffic : Traffic) : Prop :=
  earlier.number < later.number ∧ [later, earlier].Sublist traffic.delivered

/-- The last transition that shows a player cards, and the frame with which it does. -/
structure ShowsLast (traffic : Traffic) (id connection place : Nat) (game : Match)
    (parcel : Parcel) (frame : Frame) : Prop where
  cards : parcel.outbox.cardsFor connection = [frame]
  last : ∀ other ∈ traffic.made, parcel.number < other.number →
    other.outbox.cardsFor connection = []
  /-- The frame shows the table as it is, but for whether the match is paused, or the hand of a
  match that was dealt and in which nobody has moved. -/
  current : ∃ shown, parcel.tables.Plays id connection place shown ∧ shown.SameFace game ∧
    (frame.type = .state ∧ ({ game with status := shown.status }).view? id = some frame.payload ∨
      frame.type = .cards ∧ game.handCodes? id = some frame.payload ∧ shown.IsDealt) ∧
    (shown.status = .playing ∨ ∃ payload, parcel.event.LogsIn connection payload)
  queued : parcel ∈ traffic.delivered →
    (∀ other ∈ traffic.made, other.outbox.cardsFor connection ≠ [] →
      ¬traffic.Overtakes parcel other) →
    ∀ channel, traffic.channel? connection = some channel → channel.hasReceiver = true →
      ((traffic.taken connection ++ channel.queue).filter
        fun frame => frame.type.showsCards).getLast? = some frame

structure Delivers (config : Config) (started : Time) (connections : List Nat)
    (traffic : Traffic) : Prop where
  filled : traffic.QueuesFilled connections
  ordered : traffic.Ordered config started
  overtaken : ∀ later earlier, traffic.Overtakes later earlier → earlier.number ∈ later.ahead
  latest : ∀ id connection place game, traffic.tables.Plays id connection place game →
    ∃ parcel ∈ traffic.made, ∃ frame, traffic.ShowsLast id connection place game parcel frame

variable {config : Config} {started : Time} {connections : List Nat} {traffic : Traffic}
  {connection id place : Nat} {game : Match}

/-- What a worker says by itself shows no cards. -/
theorem filter_sent (connection : Nat) (traffic : Traffic) :
    (traffic.sent connection).filter (fun frame => frame.type.showsCards) =
      traffic.delivered.flatMap fun parcel => parcel.outbox.cardsFor connection := by
  unfold sent delivered
  induction traffic.log with
  | nil =>
      rfl
  | cons sending log inductionHypothesis =>
      rw [List.flatMap_cons, List.filter_append, inductionHypothesis]
      cases sending with
      | outbox parcel =>
          rfl
      | notice other =>
          have none : (Sending.framesFor connection (.notice other)).filter
              (fun frame => frame.type.showsCards) = [] := by
            simp only [Sending.framesFor]
            split <;> rfl
          rw [none, List.nil_append]
          rfl

namespace Ordered

theorem mem_made (ordered : traffic.Ordered config started) {parcel : Parcel}
    (delivered : parcel ∈ traffic.delivered) : parcel ∈ traffic.made :=
  ordered.all.mem_iff.1 (List.mem_append_left _ delivered)

theorem delivered_nodup (ordered : traffic.Ordered config started) : traffic.delivered.Nodup := by
  have made : traffic.made.Nodup := by
    refine List.Nodup.of_map Parcel.number ?_
    rw [ordered.numbers]
    exact List.nodup_range
  exact (ordered.all.nodup_iff.2 made).sublist (List.sublist_append_left _ _)

theorem ahead_of_overtakes (ordered : traffic.Ordered config started) {later earlier : Parcel}
    (overtakes : traffic.Overtakes later earlier) : earlier.number ∈ later.ahead := by
  have order := ordered.order.sublist
    (overtakes.2.trans (List.sublist_append_left traffic.delivered traffic.waiting))
  exact List.rel_of_pairwise_cons order (List.mem_singleton.2 rfl) overtakes.1

/-- What is delivered last of all that shows cards. -/
theorem getLast?_sent (ordered : traffic.Ordered config started) {parcel : Parcel}
    {frame : Frame} (cards : parcel.outbox.cardsFor connection = [frame])
    (last : ∀ other ∈ traffic.made, parcel.number < other.number →
      other.outbox.cardsFor connection = [])
    (delivered : parcel ∈ traffic.delivered)
    (clear : ∀ other ∈ traffic.made, other.outbox.cardsFor connection ≠ [] →
      ¬traffic.Overtakes parcel other) :
    ((traffic.sent connection).filter fun frame => frame.type.showsCards).getLast? =
      some frame := by
  obtain ⟨before, after, split⟩ := List.append_of_mem delivered
  have none : ∀ other ∈ after, other.outbox.cardsFor connection = [] := by
    intro other listed
    have made := ordered.mem_made (split ▸ List.mem_append_right _ (List.mem_cons_of_mem _ listed))
    by_contra shows
    -- An earlier outbox would be overtaken, and no later one has any cards.
    rcases Nat.lt_trichotomy other.number parcel.number with less | same | more
    · refine clear other made shows ⟨less, ?_⟩
      rw [split]
      exact (((List.singleton_sublist.2 listed).cons_cons parcel).trans
        (List.sublist_append_right before _))
    · obtain rfl := ordered.eq_of_number made (ordered.mem_made delivered) same
      have distinct := ordered.delivered_nodup
      rw [split, List.nodup_append, List.nodup_cons] at distinct
      exact distinct.2.1.1 listed
    · exact shows (last other made more)
  have rest : (after.flatMap fun other => other.outbox.cardsFor connection) = [] :=
    List.flatMap_eq_nil_iff.2 none
  rw [filter_sent, split, List.flatMap_append, List.flatMap_cons, cards, rest, List.append_nil,
    List.getLast?_concat]

end Ordered

theorem Ordered.exists_showsLast (ordered : traffic.Ordered config started)
    (filled : traffic.QueuesFilled connections)
    (fresh : (traffic.made.filterMap fun parcel => parcel.event.arrival?).Nodup)
    (plays : traffic.tables.Plays id connection place game) :
    ∃ parcel ∈ traffic.made, ∃ frame, traffic.ShowsLast id connection place game parcel frame := by
  rw [ordered.tables] at plays
  have fresh : ((traffic.made.map Parcel.event).filterMap Tables.Event.arrival?).Nodup := by
    rw [List.filterMap_map]
    exact fresh
  obtain ⟨events, event, others, frame, shown, split, last, same⟩ :=
    Tables.run_lastShown config started fresh plays
  obtain ⟨earlier, rest, parted, rfl, tail⟩ := List.map_eq_append_iff.1 split
  obtain ⟨parcel, later, rfl, rfl, rfl⟩ := List.map_eq_cons_iff.1 tail
  have follows := ordered.made earlier parcel later parted
  have cards : parcel.outbox.cardsFor connection = [frame] := by
    rw [follows.outbox]
    exact last.cards
  have silent : ∀ other ∈ traffic.made, parcel.number < other.number →
      other.outbox.cardsFor connection = [] := by
    intro other listed after
    rw [parted, List.mem_append, List.mem_cons] at listed
    rcases listed with early | rfl | late
    · exact absurd after (Nat.lt_asymm (ordered.number_lt_of_split parted early))
    · exact absurd after (Nat.lt_irrefl _)
    -- The parcels made after this one are the events that came after the last frame with cards.
    · obtain ⟨between, afterwards, split⟩ := List.append_of_mem late
      rw [(ordered.made (earlier ++ parcel :: between) other afterwards
        (by rw [parted, split, List.append_assoc, List.cons_append])).outbox, List.map_append]
      refine last.silent (between.map Parcel.event) other.event (afterwards.map Parcel.event) ?_
      rw [split, List.map_append, List.map_cons]
  refine ⟨parcel, ?_, frame, cards, silent, ⟨shown, ?_, same, last.shows.now same, last.stage⟩, ?_⟩
  · rw [parted]
    exact List.mem_append_right _ List.mem_cons_self
  · rw [follows.tables, List.map_append]
    exact last.plays
  · intro delivered clear channel found there
    rw [(filled.filled connection channel found).whole there]
    exact ordered.getLast?_sent cards silent delivered clear

/-- However the work of a server is interleaved and whenever its writers end, as long as no
connection comes twice. -/
theorem run_delivers (config : Config) (started : Time) (connections : List Nat)
    (actions : List Action)
    (fresh : ((run config started connections actions).made.filterMap
      fun parcel => parcel.event.arrival?).Nodup) :
    (run config started connections actions).Delivers config started connections := by
  have filled : (run config started connections actions).QueuesFilled connections :=
    run_preserves config started connections (.start config started connections)
      (fun _ action filled => filled.next config action) actions
  have ordered : (run config started connections actions).Ordered config started :=
    run_preserves config started connections (.start config started connections)
      (fun _ action ordered => ordered.next action) actions
  exact ⟨filled, ordered, fun _ _ => ordered.ahead_of_overtakes, fun _ _ _ _ plays =>
    ordered.exists_showsLast filled fresh plays⟩

/-- A frame comes from a connection, and its worker has not delivered the answers yet. -/
def sends (slot connection : Nat) (type : MessageType) (payload : String) : Action :=
  .transition (.frame { now := 1, token := .nth slot, shuffle := .still } slot connection
    { type, payload })

def worker (connection : Nat) : Action :=
  .delivery (.worker connection)

def opening : List Action :=
  [.transition (.accept 0 0), worker 0, .transition (.accept 0 1), worker 1,
    sends 0 0 .login "ann", worker 0, sends 1 1 .login "ben", worker 1,
    sends 0 0 .createRoom "den", worker 0, sends 1 1 .joinRoom "0", worker 1,
    sends 0 0 .ready "1", worker 0, sends 1 1 .ready "1", worker 1, sends 0 0 .start "", worker 0]

/-- The first player discards a card. Before this is delivered, a third connection comes and sends
what is no frame, its worker is done first, and the writer of the second player ends. -/
theorem delivers_of_newcomer :
    let traffic := run {} 0 [0, 1, 2]
      (opening ++ [sends 0 0 .discard "KS", .transition (.accept 2 2), worker 2, .notice 2,
        .receive 0, .hangUp 1, worker 0])
    (traffic.made.filterMap fun parcel => parcel.event.arrival?).Nodup ∧
      traffic.delivered.map Parcel.number = [0, 1, 2, 3, 4, 5, 6, 7, 8, 10, 9] ∧
      traffic.channels.map Channel.hasReceiver = [true, false, true] ∧
      traffic.Delivers {} 0 [0, 1, 2] ∧
      ∃ game, traffic.tables.Plays 0 0 0 game ∧ game.status = .playing ∧
        ∃ parcel ∈ traffic.made, ∃ frame, traffic.ShowsLast 0 0 0 game parcel frame := by
  intro traffic
  have fresh : (traffic.made.filterMap fun parcel => parcel.event.arrival?).Nodup := by
    decide +kernel
  have delivers : traffic.Delivers {} 0 [0, 1, 2] := run_delivers {} 0 [0, 1, 2] _ fresh
  have connected : traffic.tables.connectionOf? 0 = some 0 := by decide +kernel
  have played : (((Transition.start traffic.tables).gameIn? 0).any fun game =>
      game.status == .playing && (game.seats.map Seat.session).contains 0) = true := by
    decide +kernel
  obtain ⟨game, busy, stage⟩ := (Option.any_eq_true _ _).1 played
  rw [Bool.and_eq_true, beq_iff_eq, List.contains_iff_mem] at stage
  have plays : traffic.tables.Plays 0 0 0 game := ⟨connected, busy, stage.2⟩
  exact ⟨fresh, by decide +kernel, by decide +kernel, delivers, game, plays, stage.1,
    delivers.latest 0 0 0 game plays⟩

/-- A player of a running match has been shown the table, and the last time it was not the table
that there is. -/
def Misleads (traffic : Traffic) (id connection : Nat) : Prop :=
  ∃ place game channel frame, traffic.tables.Plays id connection place game ∧
    game.status = .playing ∧ traffic.channel? connection = some channel ∧
    ((traffic.taken connection ++ channel.queue).filter
      fun frame => frame.type == .state).getLast? = some frame ∧
    game.view? id ≠ some frame.payload

theorem misleads_of_any {traffic : Traffic} {id connection : Nat}
    (connected : traffic.tables.connectionOf? id = some connection) (place : Nat)
    (left : (((Transition.start traffic.tables).gameIn? place).any fun game =>
      game.status == .playing && (game.seats.map Seat.session).contains id &&
        (traffic.channel? connection).any fun channel =>
          ((traffic.taken connection ++ channel.queue).filter
            fun frame => frame.type == .state).getLast?.any fun frame =>
              game.view? id != some frame.payload) = true) :
    traffic.Misleads id connection := by
  obtain ⟨game, busy, left⟩ := (Option.any_eq_true _ _).1 left
  simp only [Bool.and_eq_true, Option.any_eq_true, bne_iff_ne, beq_iff_eq,
    List.contains_iff_mem] at left
  obtain ⟨⟨running, sits⟩, channel, found, frame, last, older⟩ := left
  exact ⟨place, game, channel, frame, ⟨connected, busy, sits⟩, running, found, last, older⟩

/-- The first player discards a card, and the second one, who has sent the next move already, takes
one. The worker of the second player delivers first, and so the first player is left with the table
as it was before the second move.

And without any overtaking: after the first discard both players are dropped. The second one, who is
on turn, comes back first and is told to wait, as the match is paused. When the first player comes
back too, the match goes on, and nobody is shown the table but the one who has come back.

And with nothing out of order at all: the writer of the first player ends before the second move, so
that this is not queued any more. -/
theorem not_always_latest :
    let overtaken := run {} 0 [0, 1]
      (opening ++ [sends 0 0 .discard "KS", sends 1 1 .takeFromDeck "", worker 1, worker 0])
    let returned := run {} 0 [0, 1, 2, 3]
      (opening ++ [sends 0 0 .discard "KS", worker 0, .transition (.disconnect 2 0 0), worker 0,
        .transition (.disconnect 2 1 1), worker 1, .transition (.accept 3 2), worker 2,
        sends 2 2 .login "ben|1000000000", worker 2, .transition (.accept 4 3), worker 3,
        sends 2 3 .login "ann|0000000000", worker 3])
    let deaf := run {} 0 [0, 1]
      (opening ++ [sends 0 0 .discard "KS", worker 0] ++ List.replicate 14 (.receive 0) ++
        [.hangUp 0, sends 1 1 .takeFromDeck "", worker 1])
    (overtaken.waiting.length = 0 ∧ overtaken.Misleads 0 0 ∧
      (∀ channel ∈ overtaken.channels, channel.hasReceiver = true) ∧
      ∃ channel, overtaken.channel? 0 = some channel ∧ overtaken.taken 0 ++ channel.queue ≠
        overtaken.made.flatMap fun parcel => parcel.outbox.framesFor 0) ∧
      (returned.waiting.length = 0 ∧ returned.Misleads 1 2 ∧
        (∀ channel ∈ returned.channels, channel.hasReceiver = true) ∧
        returned.delivered.map Parcel.number = returned.made.map Parcel.number) ∧
      deaf.waiting.length = 0 ∧ deaf.Misleads 0 0 ∧
        deaf.delivered.map Parcel.number = deaf.made.map Parcel.number := by
  intro overtaken returned deaf
  refine ⟨⟨by decide +kernel, ?_, by decide +kernel, ?_⟩,
    ⟨by decide +kernel, ?_, by decide +kernel, by decide +kernel⟩,
    by decide +kernel, ?_, by decide +kernel⟩
  · exact misleads_of_any (by decide +kernel) 0 (by decide +kernel)
  · have reordered : ((overtaken.channel? 0).any fun channel =>
        overtaken.taken 0 ++ channel.queue !=
          overtaken.made.flatMap fun parcel => parcel.outbox.framesFor 0) = true := by
      decide +kernel
    simpa only [Option.any_eq_true, bne_iff_ne] using reordered
  · exact misleads_of_any (by decide +kernel) 0 (by decide +kernel)
  · exact misleads_of_any (by decide +kernel) 0 (by decide +kernel)

end Traffic

end Cardroom
