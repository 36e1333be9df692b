import Mathlib.Logic.Function.Iterate
import Cardroom.Delivery.Channel

/-!
# Handing over piece by piece

Whoever delivers an outbox queues one frame after the other and then raises one close signal after
the other, and others can do the same in between. `iterate_handOver` says that the pieces that have
been handed over are a delivery of their own, with no close among them as long as a frame is left;
and `handOver_handsOver` what one piece means for a channel: nothing that was queued or raised is
lost, and what has left the outbox has arrived.
-/

namespace Cardroom

namespace Channel

variable (frame : Frame) (channel : Channel)

theorem id_send : (channel.send frame).id = channel.id := by
  unfold send
  split <;> rfl

theorem id_close : channel.close.id = channel.id :=
  rfl

theorem hasReceiver_send : (channel.send frame).hasReceiver = channel.hasReceiver := by
  unfold send
  split <;> rfl

theorem hasSender_send : (channel.send frame).hasSender = channel.hasSender := by
  unfold send
  split <;> rfl

theorem closed_send : (channel.send frame).closed = channel.closed := by
  unfold send
  split <;> rfl

theorem queue_send : (channel.send frame).queue =
    channel.queue ++ if channel.hasReceiver then [frame] else [] := by
  unfold send canSend
  split <;> simp

theorem id_receive : channel.receive.2.id = channel.id := by
  unfold receive
  split <;> rfl

theorem closed_receive : channel.receive.2.closed = channel.closed := by
  unfold receive
  split <;> rfl

theorem hasReceiver_receive : channel.receive.2.hasReceiver = channel.hasReceiver := by
  unfold receive
  split <;> rfl

theorem id_dropReceiver : channel.dropReceiver.id = channel.id :=
  rfl

end Channel

namespace Outbox

def channel? (connection : Nat) (channels : List Channel) : Option Channel :=
  channels.find? fun channel => channel.id == connection

/-- Hands over what comes next: the first frame, or, when no frame is left, the first close. -/
def handOver (outbox : Outbox) (channels : List Channel) : Outbox × List Channel :=
  match outbox.frames, outbox.closing with
  | entry :: frames, closing =>
      ({ frames, closing }, withChannel entry.1 (Channel.send entry.2) channels)
  | [], connection :: closing => ({ closing }, withChannel connection Channel.close channels)
  | [], [] => ({}, channels)

/-- What is left after a piece is delivered as if the piece had not been handed over before. -/
theorem deliver_handOver (outbox : Outbox) (channels : List Channel) :
    (outbox.handOver channels).1.deliver (outbox.handOver channels).2 =
      outbox.deliver channels := by
  obtain ⟨frames, closing⟩ := outbox
  cases frames with
  | cons entry frames =>
      rfl
  | nil =>
      cases closing <;> rfl

/-- What has left the outbox after so many pieces. -/
def handedOver (count : Nat) (outbox : Outbox) : Outbox where
  frames := outbox.frames.take count
  closing := outbox.closing.take (count - outbox.frames.length)

def left (count : Nat) (outbox : Outbox) : Outbox where
  frames := outbox.frames.drop count
  closing := outbox.closing.drop (count - outbox.frames.length)

theorem left_zero (outbox : Outbox) : outbox.left 0 = outbox := by
  rw [left, List.drop_zero, Nat.zero_sub, List.drop_zero]

theorem left_succ (count : Nat) (outbox : Outbox) :
    outbox.left (count + 1) = (outbox.left count).left 1 := by
  simp only [left, List.drop_drop, List.length_drop, Outbox.mk.injEq]
  refine ⟨trivial, ?_⟩
  congr 1
  omega

/-- After so many pieces the channels are as if an outbox of these pieces had been delivered. -/
theorem iterate_handOver (count : Nat) (outbox : Outbox) (channels : List Channel) :
    (fun left : Outbox × List Channel => left.1.handOver left.2)^[count] (outbox, channels) =
      (outbox.left count, (outbox.handedOver count).deliver channels) := by
  induction count generalizing outbox channels with
  | zero =>
      simp only [left, handedOver, List.take_zero, List.drop_zero, Nat.zero_sub]
      rfl
  | succ count inductionHypothesis =>
      rw [Function.iterate_succ_apply]
      refine (inductionHypothesis _ _).trans ?_
      obtain ⟨frames, closing⟩ := outbox
      cases frames with
      | cons entry frames =>
          simp only [left, handedOver, List.length_cons, Nat.add_sub_add_right,
            List.drop_succ_cons, List.take_succ_cons]
          rfl
      | nil =>
          cases closing with
          | cons connection closing =>
              simp only [left, handedOver, List.length_nil, Nat.sub_zero, List.drop_nil,
                List.take_nil, List.drop_succ_cons, List.take_succ_cons]
              rfl
          | nil =>
              simp only [left, handedOver, List.drop_nil, List.take_nil]

theorem id_of_channel? {connection : Nat} {channels : List Channel} {channel : Channel}
    (found : channel? connection channels = some channel) :
    channel.id = connection := by
  have named := List.find?_some found
  exact beq_iff_eq.1 named

theorem channel?_concat (connection : Nat) (channels : List Channel) (channel : Channel) :
    channel? connection (channels ++ [channel]) =
      (channel? connection channels).or
        (if channel.id = connection then some channel else none) := by
  rw [channel?, List.find?_append, List.find?_singleton]
  simp only [beq_iff_eq]
  rfl

/-- A change of all channels that depends on the connection. -/
theorem channel?_map (change : Nat → Channel → Channel)
    (keeps : ∀ id channel, (change id channel).id = channel.id) (connection : Nat)
    (channels : List Channel) :
    channel? connection (channels.map fun channel => change channel.id channel) =
      (channel? connection channels).map (change connection) := by
  have alike : ((fun channel : Channel => channel.id == connection) ∘ fun channel =>
      change channel.id channel) = fun channel => channel.id == connection := by
    funext channel
    exact congrArg (· == connection) (keeps channel.id channel)
  rw [channel?, List.find?_map, alike, ← channel?]
  cases found : channel? connection channels with
  | none =>
      rfl
  | some channel =>
      rw [Option.map_some, Option.map_some, id_of_channel? found]

theorem channel?_withChannel {change : Channel → Channel}
    (keeps : ∀ channel, (change channel).id = channel.id) (connection other : Nat)
    (channels : List Channel) :
    channel? other (withChannel connection change channels) =
      (channel? other channels).map fun channel =>
        if other = connection then change channel else channel := by
  refine channel?_map (fun id channel => if id = connection then change channel else channel)
    (fun id channel => ?_) other channels
  split
  · exact keeps channel
  · rfl

/-- What handing over a piece of an outbox means for the close signal of a channel. -/
structure HandsOver (outbox rest : Outbox) (connection : Nat) (channel later : Channel) : Prop where
  closed : channel.closed → later.closed
  closing : connection ∈ outbox.closing → later.closed ∨ connection ∈ rest.closing

theorem handOver_handsOver (outbox : Outbox) {connection : Nat} {channels : List Channel}
    {channel : Channel} (found : channel? connection channels = some channel) :
    ∃ later, channel? connection (outbox.handOver channels).2 = some later ∧
      outbox.HandsOver (outbox.handOver channels).1 connection channel later := by
  obtain ⟨frames, closing⟩ := outbox
  cases frames with
  | cons entry frames =>
      have there := channel?_withChannel (Channel.id_send entry.2) entry.1 connection channels
      rw [found, Option.map_some] at there
      refine ⟨_, there, ?_, .inr⟩
      split
      · rw [Channel.closed_send]
        exact id
      · exact id
  | nil =>
      cases closing with
      | cons other closing =>
          have there := channel?_withChannel Channel.id_close other connection channels
          rw [found, Option.map_some] at there
          refine ⟨_, there, ?_⟩
          by_cases here : connection = other
          · rw [if_pos here]
            exact ⟨fun _ => rfl, fun _ => .inl rfl⟩
          · rw [if_neg here]
            exact ⟨id, fun waits => .inr ((List.mem_cons.1 waits).resolve_left here)⟩
      | nil =>
          exact ⟨channel, found, id, nofun⟩

end Outbox

end Cardroom
