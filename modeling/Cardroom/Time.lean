/-!
# Time

The server reads a clock that never goes back. Readings of the clock and spans of time are counted
in microseconds.
-/

namespace Cardroom

/-- A reading of the clock, or the span between two readings. -/
abbrev Time := Nat

namespace Time

def milliseconds (count : Nat) : Time :=
  count * 1000

def seconds (count : Nat) : Time :=
  count * 1000000

def since (start now : Time) : Time :=
  now - start

end Time

end Cardroom
