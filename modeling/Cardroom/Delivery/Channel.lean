import Cardroom.Delivery.Outbox

/-!
# Channels

A channel carries frames from the server to the writer of one connection. The server's side queues
frames without waiting and can raise a close signal; the writer's side takes the frames out in
order. Each side can tell when the other one is gone.
-/

namespace Cardroom

/-- One connection as the server and its writer share it. -/
structure Channel where
  /-- The number of the connection. -/
  id : Nat
  /-- The frames that have been sent and not yet received. -/
  queue : List Frame := []
  /-- Whether the close signal has been raised. -/
  closed : Bool := false
  /-- Whether anyone can still send. -/
  hasSender : Bool := true
  /-- Whether anyone can still receive. -/
  hasReceiver : Bool := true
deriving DecidableEq, Repr

inductive Received where
  | frame (frame : Frame)
  /-- Nothing is queued, but something may still come. -/
  | empty
  /-- Nothing is queued, and nobody is left to send. -/
  | disconnected
deriving DecidableEq, Repr

namespace Channel

def canSend (channel : Channel) : Bool :=
  channel.hasReceiver

/-- Queues a frame. Without a receiving side it is lost. -/
def send (frame : Frame) (channel : Channel) : Channel :=
  if channel.canSend then { channel with queue := channel.queue ++ [frame] } else channel

def close (channel : Channel) : Channel :=
  { channel with closed := true }

def receive (channel : Channel) : Received × Channel :=
  match channel.queue with
  | frame :: queue => (.frame frame, { channel with queue })
  | [] => (if channel.hasSender then .empty else .disconnected, channel)

/-- The last handle of the sending side is given up. -/
def dropSender (channel : Channel) : Channel :=
  { channel with hasSender := false }

/-- The receiving side is given up, and the queued frames with it. -/
def dropReceiver (channel : Channel) : Channel :=
  { channel with hasReceiver := false, queue := [] }

/-- Whether waiting for the close signal is over. It does not matter when one began to wait: the
signal stays raised, and with no sender left nobody can raise it any more. -/
def isOver (channel : Channel) : Bool :=
  channel.closed || !channel.hasSender

end Channel

namespace Outbox

def withChannel (connection : Nat) (change : Channel → Channel) (channels : List Channel) :
    List Channel :=
  channels.map fun channel => if channel.id = connection then change channel else channel

/-- Delivers an outbox: every frame is queued on its channel, and then the closes are applied. -/
def deliver (outbox : Outbox) (channels : List Channel) : List Channel :=
  let sent := outbox.frames.foldl
    (fun channels entry => withChannel entry.1 (Channel.send entry.2) channels) channels
  outbox.closing.foldl
    (fun channels connection => withChannel connection Channel.close channels) sent

end Outbox

end Cardroom
