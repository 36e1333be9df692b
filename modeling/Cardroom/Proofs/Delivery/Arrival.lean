import Mathlib.Data.List.Induction
import Cardroom.Proofs.Delivery.HandingOver

/-!
# What a delivery does to a channel

An outbox is filled with frames and closes in any order. `deliver_ofCommands` says what each channel
has of it after the delivery: exactly the frames that were pushed for its connection, in their order,
behind those that were queued before, and the close signal if the connection was closed.
-/

namespace Cardroom.Outbox

def arrive (outbox : Outbox) (channel : Channel) : Channel :=
  { channel with
    queue := channel.queue ++ if channel.hasReceiver then outbox.framesFor channel.id else []
    closed := channel.closed || outbox.closing.contains channel.id }

theorem arrive_nil (channel : Channel) : arrive {} channel = channel := by
  simp [arrive, framesFor]

/-- A frame that is sent before the others stands before them. -/
theorem arrive_send (connection : Nat) (frame : Frame) (outbox : Outbox) (channel : Channel) :
    outbox.arrive (if channel.id = connection then channel.send frame else channel) =
      arrive { outbox with frames := (connection, frame) :: outbox.frames } channel := by
  by_cases here : channel.id = connection
  · by_cases hears : channel.hasReceiver <;>
      simp [arrive, framesFor, Channel.send, Channel.canSend, here, hears]
  · simp [arrive, framesFor, here, Ne.symm here]

theorem arrive_close (connection : Nat) (closing : List Nat) (channel : Channel) :
    arrive { closing } (if channel.id = connection then channel.close else channel) =
      arrive { closing := connection :: closing } channel := by
  by_cases here : channel.id = connection <;> simp [arrive, framesFor, Channel.close, here]

/-- A delivery does to each channel what the outbox holds for it. -/
theorem deliver_eq_map (outbox : Outbox) (channels : List Channel) :
    outbox.deliver channels = channels.map outbox.arrive := by
  obtain ⟨frames, closing⟩ := outbox
  induction frames generalizing channels with
  | cons entry frames inductionHypothesis =>
      rw [← deliver_handOver]
      refine (inductionHypothesis (withChannel entry.1 (Channel.send entry.2) channels)).trans ?_
      rw [withChannel, List.map_map]
      exact List.map_congr_left fun channel _ => arrive_send entry.1 entry.2 _ channel
  | nil =>
      induction closing generalizing channels with
      | cons connection closing inductionHypothesis =>
          rw [← deliver_handOver]
          refine (inductionHypothesis (withChannel connection Channel.close channels)).trans ?_
          rw [withChannel, List.map_map]
          exact List.map_congr_left fun channel _ => arrive_close connection closing channel
      | nil =>
          exact ((List.map_congr_left fun channel _ => arrive_nil channel).trans
            (List.map_id channels)).symm

theorem channel?_deliver (outbox : Outbox) (connection : Nat) (channels : List Channel) :
    channel? connection (outbox.deliver channels) =
      (channel? connection channels).map outbox.arrive := by
  rw [deliver_eq_map]
  exact channel?_map (fun _ => outbox.arrive) (fun _ _ => rfl) connection channels

inductive Command where
  | push (connection : Nat) (type : MessageType) (payload : String)
  | close (connection : Nat)
deriving DecidableEq, Repr

namespace Command

def addTo (outbox : Outbox) : Command → Outbox
  | push connection type payload => outbox.push connection type payload
  | close connection => outbox.close connection

def frameFor? (connection : Nat) : Command → Option Frame
  | push addressee type payload => if addressee = connection then some { type, payload } else none
  | close _ => none

end Command

def ofCommands (commands : List Command) : Outbox :=
  commands.foldl Command.addTo {}

theorem ofCommands_concat (commands : List Command) (command : Command) :
    ofCommands (commands ++ [command]) = command.addTo (ofCommands commands) := by
  rw [ofCommands, List.foldl_append]
  rfl

theorem framesFor_ofCommands (connection : Nat) (commands : List Command) :
    (ofCommands commands).framesFor connection =
      commands.filterMap (Command.frameFor? connection) := by
  induction commands using List.reverseRecOn with
  | nil =>
      rfl
  | append_singleton commands command inductionHypothesis =>
      rw [ofCommands_concat, List.filterMap_append, ← inductionHypothesis]
      cases command with
      | push addressee type payload =>
          by_cases here : addressee = connection <;>
            simp [Command.addTo, Command.frameFor?, push, framesFor, here]
      | close addressee =>
          simp [Command.addTo, Command.frameFor?, close, framesFor]

theorem mem_closing_ofCommands {connection : Nat} {commands : List Command} :
    connection ∈ (ofCommands commands).closing ↔ .close connection ∈ commands := by
  induction commands using List.reverseRecOn with
  | nil =>
      exact iff_of_false List.not_mem_nil List.not_mem_nil
  | append_singleton commands command inductionHypothesis =>
      rw [ofCommands_concat]
      cases command with
      | push addressee type payload =>
          simpa [Command.addTo, push] using inductionHypothesis
      | close addressee =>
          simp [Command.addTo, close, inductionHypothesis]

/-- What becomes of channels when an outbox that some commands have filled is delivered. -/
structure Arrives (commands : List Command) (channels : List Channel) : Prop where
  /-- Each channel gets the frames of its connection in their order, unless nobody receives them, and
  is closed if its connection was. -/
  whole : (ofCommands commands).deliver channels =
    channels.map fun channel =>
      { channel with
        queue := channel.queue ++
          if channel.hasReceiver then commands.filterMap (Command.frameFor? channel.id) else []
        closed := channel.closed || commands.contains (.close channel.id) }
  /-- What has been handed over at any time is a delivery of its own. -/
  pieces : ∀ count,
    ((fun left : Outbox × List Channel => left.1.handOver left.2)^[count]
      (ofCommands commands, channels)).2 = ((ofCommands commands).handedOver count).deliver channels
  /-- There is no close in it as long as a frame is left. -/
  order : ∀ count, ((ofCommands commands).handedOver count).closing ≠ [] →
    ((ofCommands commands).handedOver count).frames = (ofCommands commands).frames

theorem frames_handedOver {count : Nat} {outbox : Outbox}
    (some : (outbox.handedOver count).closing ≠ []) :
    (outbox.handedOver count).frames = outbox.frames := by
  apply List.take_of_length_le
  apply Nat.le_of_lt
  by_contra few
  apply some
  rw [handedOver, Nat.sub_eq_zero_of_le (Nat.not_lt.1 few), List.take_zero]

theorem arrives (commands : List Command) (channels : List Channel) : Arrives commands channels where
  whole := by
    rw [deliver_eq_map]
    apply List.map_congr_left
    intro channel _
    have closes : (ofCommands commands).closing.contains channel.id =
        commands.contains (.close channel.id) := by
      rw [Bool.eq_iff_iff, List.contains_iff_mem, List.contains_iff_mem]
      exact mem_closing_ofCommands
    rw [arrive, framesFor_ofCommands, closes]
  pieces count := by
    rw [iterate_handOver]
  order _ := frames_handedOver

end Cardroom.Outbox
