import Cardroom.Delivery.Channel
import Cardroom.Delivery.Writer
import Cardroom.Service.Worker

/-!
# Peers

A peer is the other end of a connection. What it sends goes to the connection's worker; what the
server queues for it is written by the connection's writer, and waits until the peer reads it.
-/

namespace Cardroom

structure Peer where
  channel : Channel
  /-- The worker, unless the connection was turned away. -/
  worker : Option Worker
  /-- Whether the peer may still send bytes. -/
  mayGoOn : Bool := true
  /-- What the writer has written and the peer has not read yet. -/
  sink : Sink := {}
deriving DecidableEq, Repr

namespace Peer

def id (peer : Peer) : Nat :=
  peer.channel.id

/-- Whether the peer will get nothing more than what has been written. -/
def hasEnded (peer : Peer) : Bool :=
  !peer.channel.hasReceiver

/-- The writer writes what is queued. When a frame fails, or the connection is closing and nothing
is queued any more, it ends. -/
def write (peer : Peer) : Peer :=
  if peer.hasEnded then
    peer
  else
    let progress := Writer.writeQueue Writer.writeTimeout peer.sink peer.channel.queue
    if progress.failed || peer.channel.isOver then
      { peer with channel := peer.channel.dropReceiver, sink := (Writer.windUp progress).1 }
    else
      { peer with channel := { peer.channel with queue := [] }, sink := progress.sink }

def send (bytes : List UInt8) (peer : Peer) : Peer :=
  { peer with
    worker := peer.worker.map fun worker =>
      { worker with
        source := { worker.source with chunks := worker.source.chunks ++ [bytes] } } }

def hangUp (peer : Peer) : Peer :=
  { peer with mayGoOn := false }

/-- The next frame that the peer reads, or the error that it meets; `none` while there is nothing to
read yet. -/
def receive? (peer : Peer) : Option (Except WireError Frame × Peer) :=
  let written : Source := { chunks := [peer.sink.taken], fault := none }
  let (result, rest) := Frame.read Frame.garbageBudget written
  match result, peer.hasEnded with
  | .error .disconnected, false => none
  | _, _ => some (result, { peer with sink := { peer.sink with taken := rest.bytes } })

/-- What a peer has read: frames, and the error that ended the stream, if one did. -/
structure Reading where
  frames : List Frame
  error : Option WireError
  peer : Peer

def receiveUpTo : Nat → Peer → Reading
  | 0, peer => { frames := [], error := none, peer }
  | count + 1, peer =>
      match peer.receive? with
      | none => { frames := [], error := none, peer }
      | some (.error error, peer) => { frames := [], error := some error, peer }
      | some (.ok frame, peer) =>
          let rest := receiveUpTo count peer
          { rest with frames := frame :: rest.frames }

end Peer

end Cardroom
