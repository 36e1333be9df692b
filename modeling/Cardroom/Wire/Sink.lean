import Cardroom.Wire.Frame

/-!
# Sinks for bytes

The other end of a connection takes bytes in portions, which can be of any size, and may stop taking
them: then it fails, takes nothing, or does not answer at all.
-/

namespace Cardroom

inductive Refusal where
  | fault (fault : Fault)
  /-- It takes no byte and says so. -/
  | nothing
  /-- It never answers. -/
  | silence
deriving DecidableEq, Repr

/-- Where a connection's bytes go. -/
structure Sink where
  /-- The most bytes it takes at each of the next writes. -/
  portions : List Nat := []
  /-- The most bytes it takes at a time after these writes, if that is limited. -/
  portion : Option Nat := none
  /-- How many more bytes it takes, if that is limited. -/
  room : Option Nat := none
  /-- What it does when it takes no more. -/
  refusal : Refusal := .fault .brokenPipe
  /-- The bytes it has taken, in order. -/
  taken : List UInt8 := []
  /-- How often it has been told that no more bytes follow. -/
  shutdowns : Nat := 0
deriving DecidableEq, Repr

inductive Writing where
  | done
  | failed (error : WireError)
  /-- It did not end: the sink does not answer. -/
  | stalled
deriving DecidableEq, Repr

namespace Sink

def limit? (sink : Sink) : Option Nat :=
  sink.portions.head?.or sink.portion

def accepts (offered : Nat) (sink : Sink) : Nat :=
  let portion := min offered (sink.limit?.getD offered)
  min portion (sink.room.getD portion)

/-- The sink after a write has handed over so many of the bytes. -/
def accept (count : Nat) (bytes : List UInt8) (sink : Sink) : Sink :=
  { sink with
    portions := sink.portions.tail
    room := sink.room.map (· - count)
    taken := sink.taken ++ bytes.take count }

/-- Hands bytes over, write after write, until the sink has them all or refuses. -/
def write (bytes : List UInt8) (sink : Sink) : Writing × Sink :=
  let count := sink.accepts bytes.length
  if bytes = [] then
    (.done, sink)
  else if count = 0 then
    match sink.refusal with
    | .fault fault => (.failed (.failed fault), sink)
    | .nothing => (.failed (.failed .writeZero), sink)
    | .silence => (.stalled, sink)
  else
    write (bytes.drop count) (sink.accept count bytes)
termination_by bytes.length
decreasing_by
  have := List.length_pos_iff.2 ‹bytes ≠ []›
  simp only [List.length_drop]
  omega

/-- Writes a whole frame. One whose payload is too long is not begun. -/
def writeFrame (frame : Frame) (sink : Sink) : Writing × Sink :=
  match frame.encode with
  | .error error => (.failed error, sink)
  | .ok bytes => sink.write bytes

def shutdown (sink : Sink) : Sink :=
  { sink with shutdowns := sink.shutdowns + 1 }

end Sink

end Cardroom
