import Cardroom.Proofs.Delivery.HandingOver

/-!
# The history of a channel

What has been done to a channel, and what came of it, tells everything about it. `Recorded` says
how: the frames that were accepted and not yielded are still queued, in order, as long as the
receiving end is there. `Recorded.perform` says that whatever is done next keeps to that, and that
what comes of it is justified by what was before: a frame is refused only if the receiving end is
gone, and what is received is the oldest frame that was not.
-/

namespace Cardroom.Channel

inductive Deed where
  | send (frame : Frame)
  | close
  | receive
  | dropReceiver
deriving DecidableEq, Repr

inductive Outcome where
  | sent (frame : Frame) (accepted : Bool)
  | raised
  | received (found : Received)
  | deafened
deriving DecidableEq, Repr

def perform (channel : Channel) : Deed → Channel
  | .send frame => channel.send frame
  | .close => channel.close
  | .receive => channel.receive.2
  | .dropReceiver => channel.dropReceiver

def outcome (channel : Channel) : Deed → Outcome
  | .send frame => .sent frame channel.canSend
  | .close => .raised
  | .receive => .received channel.receive.1
  | .dropReceiver => .deafened

def Deed.isReceiving : Deed → Bool
  | .send _ | .close => false
  | .receive | .dropReceiver => true

theorem id_perform (channel : Channel) (deed : Deed) : (channel.perform deed).id = channel.id := by
  cases deed with
  | send frame =>
      exact channel.id_send frame
  | close | dropReceiver =>
      rfl
  | receive =>
      exact channel.id_receive

theorem hasSender_perform (channel : Channel) (deed : Deed) :
    (channel.perform deed).hasSender = channel.hasSender := by
  cases deed with
  | send frame =>
      exact channel.hasSender_send frame
  | close | dropReceiver =>
      rfl
  | receive =>
      rw [perform, receive]
      split <;> rfl

def Outcome.accepted? : Outcome → Option Frame
  | .sent frame true => some frame
  | _ => none

def Outcome.yielded? : Outcome → Option Frame
  | .received (.frame frame) => some frame
  | _ => none

def accepted (history : List Outcome) : List Frame :=
  history.filterMap Outcome.accepted?

def yielded (history : List Outcome) : List Frame :=
  history.filterMap Outcome.yielded?

/-- An outcome is right after a history: a frame is accepted as long as there is a receiving end, and
what is received is the first frame that was accepted and not yielded, if there is one. -/
def Outcome.IsJust (earlier : List Outcome) : Outcome → Prop
  | .sent _ accepted => accepted = true ↔ .deafened ∉ earlier
  | .received (.frame frame) =>
      ∃ later, Channel.accepted earlier = yielded earlier ++ frame :: later
  | .received .empty | .received .disconnected => Channel.accepted earlier = yielded earlier
  | .raised | .deafened => True

inductive IsJust : List Outcome → Prop
  | nil : IsJust []
  | concat {earlier : List Outcome} {outcome : Outcome} :
      IsJust earlier → outcome.IsJust earlier → IsJust (earlier ++ [outcome])

/-- A channel is what its history says. -/
structure Recorded (history : List Outcome) (channel : Channel) : Prop where
  /-- Frames are lost only with the receiving end. -/
  frames : ∃ lost, accepted history = yielded history ++ channel.queue ++ lost ∧
    (channel.hasReceiver = true → lost = [])
  hears : channel.hasReceiver = true ↔ .deafened ∉ history
  closed : channel.closed = true ↔ .raised ∈ history
  just : IsJust history

namespace Recorded

theorem new (connection : Nat) : Recorded [] { id := connection } where
  frames := ⟨[], rfl, fun _ => rfl⟩
  hears := iff_of_true rfl List.not_mem_nil
  closed := iff_of_false Bool.noConfusion List.not_mem_nil
  just := .nil

variable {history : List Outcome} {channel : Channel}

theorem accepted_concat (history : List Outcome) (outcome : Outcome) :
    accepted (history ++ [outcome]) = accepted history ++ outcome.accepted?.toList := by
  rw [accepted, List.filterMap_append]
  cases found : outcome.accepted? <;> simp [accepted, found]

theorem yielded_concat (history : List Outcome) (outcome : Outcome) :
    yielded (history ++ [outcome]) = yielded history ++ outcome.yielded?.toList := by
  rw [yielded, List.filterMap_append]
  cases found : outcome.yielded? <;> simp [yielded, found]

theorem send (recorded : Recorded history channel) (frame : Frame) :
    Recorded (history ++ [.sent frame channel.canSend]) (channel.send frame) where
  frames := by
    obtain ⟨lost, all, none⟩ := recorded.frames
    rw [accepted_concat, yielded_concat, Channel.queue_send, Channel.hasReceiver_send, all]
    cases hears : channel.hasReceiver with
    | true =>
        refine ⟨[], ?_, fun _ => rfl⟩
        simp [none hears, canSend, hears, Outcome.accepted?, Outcome.yielded?]
    | false =>
        refine ⟨lost, ?_, Bool.noConfusion⟩
        simp [canSend, hears, Outcome.accepted?, Outcome.yielded?]
  hears := by
    rw [Channel.hasReceiver_send, recorded.hears]
    simp
  closed := by
    rw [Channel.closed_send, recorded.closed]
    simp
  just := recorded.just.concat recorded.hears

theorem close (recorded : Recorded history channel) :
    Recorded (history ++ [.raised]) channel.close where
  frames := by
    rw [accepted_concat, yielded_concat]
    simpa [Outcome.accepted?, Outcome.yielded?, Channel.close] using recorded.frames
  hears := by
    rw [Channel.close, recorded.hears]
    simp
  closed := iff_of_true rfl (by simp)
  just := recorded.just.concat trivial

theorem received (recorded : Recorded history channel) {found : Received} {queue : List Frame}
    (just : Outcome.IsJust history (.received found))
    (rest : accepted history = yielded history ++ (Outcome.received found).yielded?.toList ++ queue) :
    Recorded (history ++ [.received found]) { channel with queue } where
  frames := by
    refine ⟨[], ?_, fun _ => rfl⟩
    rw [accepted_concat, yielded_concat, rest]
    simp [Outcome.accepted?]
  hears := by
    rw [recorded.hears]
    simp
  closed := by
    rw [recorded.closed]
    simp
  just := recorded.just.concat just

theorem receive (recorded : Recorded history channel) (hears : channel.hasReceiver = true) :
    Recorded (history ++ [.received channel.receive.1]) channel.receive.2 := by
  obtain ⟨lost, all, none⟩ := recorded.frames
  rw [none hears, List.append_nil] at all
  unfold Channel.receive
  split
  · next frame rest queue =>
      rw [queue] at all
      exact recorded.received ⟨rest, all⟩ (by simpa [Outcome.yielded?] using all)
  · next queue =>
      rw [queue, List.append_nil] at all
      have same : channel = { channel with queue := [] } := by
        rw [← queue]
      rw [same]
      dsimp only
      split
      · exact recorded.received all (by simpa [Outcome.yielded?] using all)
      · exact recorded.received all (by simpa [Outcome.yielded?] using all)

theorem dropReceiver (recorded : Recorded history channel) :
    Recorded (history ++ [.deafened]) channel.dropReceiver where
  frames := by
    obtain ⟨lost, all, -⟩ := recorded.frames
    rw [accepted_concat, yielded_concat, all]
    refine ⟨channel.queue ++ lost, ?_, Bool.noConfusion⟩
    simp [Outcome.accepted?, Outcome.yielded?, Channel.dropReceiver]
  hears := iff_of_false Bool.noConfusion (by simp)
  closed := by
    rw [Channel.dropReceiver, recorded.closed]
    simp
  just := recorded.just.concat trivial

/-- Whatever is done, the channel is what its history says; only a receiving end that is there can
do something. -/
theorem perform (recorded : Recorded history channel) (deed : Deed)
    (possible : deed.isReceiving = true → channel.hasReceiver = true) :
    Recorded (history ++ [channel.outcome deed]) (channel.perform deed) := by
  cases deed with
  | send frame =>
      exact recorded.send frame
  | close =>
      exact recorded.close
  | receive =>
      exact recorded.receive (possible rfl)
  | dropReceiver =>
      exact recorded.dropReceiver

theorem dropSender (recorded : Recorded history channel) : Recorded history channel.dropSender :=
  ⟨recorded.frames, recorded.hears, recorded.closed, recorded.just⟩

end Recorded

end Cardroom.Channel
