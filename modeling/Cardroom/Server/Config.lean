import Cardroom.Time

/-!
# Configuration

What can be set before the server starts: where it listens, how large its tables are, and when it
loses patience.
-/

namespace Cardroom

structure Config where
  /-- The address at which the server listens. -/
  host : String := "0.0.0.0"
  /-- The port on which the server listens. -/
  port : Nat := 10000
  /-- How many players the server knows at a time, those it waits for included. -/
  maxSessions : Nat := 10
  /-- How many rooms can be open at a time. -/
  maxRooms : Nat := 7
  /-- The time between two sweeps. -/
  sweepInterval : Time := Time.seconds 5
  /-- The silence after which a connected player is dropped. -/
  heartbeatTimeout : Time := Time.seconds 10
  /-- How long a dropped player may stay away. -/
  reconnectTimeout : Time := Time.seconds 120
  /-- Whether the deck is shuffled before it is dealt. -/
  shuffleDeck : Bool := false
deriving DecidableEq, Repr

namespace Config

def address (config : Config) : String :=
  config.host ++ ":" ++ toString config.port

end Config

end Cardroom
