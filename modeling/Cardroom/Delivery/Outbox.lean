import Cardroom.Wire.Frame

/-!
# Outboxes

What a transition of the server has to say is collected while it runs and delivered afterwards:
first the frames, in order, and then the closes, so that no close overtakes a frame.
-/

namespace Cardroom

/-- The frames that wait for delivery, each with the connection it goes to, and the connections that
are closed after that. -/
structure Outbox where
  frames : List (Nat × Frame) := []
  closing : List Nat := []
deriving DecidableEq, Repr

namespace Outbox

def push (connection : Nat) (type : MessageType) (payload : String) (outbox : Outbox) : Outbox :=
  { outbox with frames := outbox.frames ++ [(connection, { type, payload })] }

/-- Closes a connection after all frames have been delivered. -/
def close (connection : Nat) (outbox : Outbox) : Outbox :=
  { outbox with closing := outbox.closing ++ [connection] }

def framesFor (connection : Nat) (outbox : Outbox) : List Frame :=
  (outbox.frames.filter fun entry => entry.1 == connection).map Prod.snd

end Outbox

end Cardroom
