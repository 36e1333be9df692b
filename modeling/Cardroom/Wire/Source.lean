import Cardroom.Wire.Frame

/-!
# Sources of bytes

A peer's bytes arrive in pieces, and sooner or later they end. A reader takes one byte, or a given
number of bytes, and waits for as many pieces as that needs.
-/

namespace Cardroom

/-- The bytes that a reader has not taken yet, in the pieces in which they arrive, and what happens
when they are used up: the end of the stream, or a fault. -/
structure Source where
  chunks : List (List UInt8)
  fault : Option Fault
deriving DecidableEq, Repr

namespace Source

/-- The bytes that are left, however they are cut into pieces. -/
def bytes (source : Source) : List UInt8 :=
  source.chunks.flatten

def left (source : Source) : Nat :=
  source.bytes.length

/-- The error of a reader that needs more bytes than there are. -/
def exhausted (source : Source) : WireError :=
  match source.fault with
  | none => .disconnected
  | some fault => if fault.isDeparture then .disconnected else .failed fault

def nextByte? : List (List UInt8) → Option (UInt8 × List (List UInt8))
  | [] => none
  | [] :: chunks => nextByte? chunks
  | (byte :: rest) :: chunks => some (byte, rest :: chunks)

theorem flatten_eq_of_nextByte? {chunks rest : List (List UInt8)} {byte : UInt8}
    (read : nextByte? chunks = some (byte, rest)) :
    chunks.flatten = byte :: rest.flatten := by
  fun_induction nextByte? chunks with
  | case1 => simp at read
  | case2 chunks inductive_step => simpa using inductive_step read
  | case3 first tail chunks =>
      simp only [Option.some.injEq, Prod.mk.injEq] at read
      obtain ⟨rfl, rfl⟩ := read
      simp

theorem flatten_eq_nil_of_nextByte? {chunks : List (List UInt8)}
    (read : nextByte? chunks = none) :
    chunks.flatten = [] := by
  fun_induction nextByte? chunks with
  | case1 => rfl
  | case2 chunks inductive_step => simpa using inductive_step read
  | case3 first tail chunks => cases read

def next? (source : Source) : Option (UInt8 × Source) :=
  (nextByte? source.chunks).map fun read => (read.1, { source with chunks := read.2 })

theorem bytes_eq_of_next? {source rest : Source} {byte : UInt8}
    (read : source.next? = some (byte, rest)) :
    source.bytes = byte :: rest.bytes := by
  obtain ⟨⟨first, chunks⟩, found, equality⟩ := Option.map_eq_some_iff.1 read
  simp only [Prod.mk.injEq] at equality
  obtain ⟨rfl, rfl⟩ := equality
  exact flatten_eq_of_nextByte? found

theorem left_lt_of_next? {source rest : Source} {byte : UInt8}
    (read : source.next? = some (byte, rest)) :
    rest.left < source.left := by
  simp [left, bytes_eq_of_next? read]

theorem bytes_eq_nil_of_next? {source : Source} (read : source.next? = none) :
    source.bytes = [] :=
  flatten_eq_nil_of_nextByte? (Option.map_eq_none_iff.1 read)

theorem fault_eq_of_next? {source rest : Source} {byte : UInt8}
    (read : source.next? = some (byte, rest)) :
    rest.fault = source.fault := by
  obtain ⟨_, _, equality⟩ := Option.map_eq_some_iff.1 read
  rw [← (Prod.mk.inj equality).2]

/-- Takes exactly so many bytes. If there are fewer, it takes them all and fails. -/
def take : Nat → Source → Except WireError (List UInt8) × Source
  | 0, source => (.ok [], source)
  | count + 1, source =>
      match source.next? with
      | none => (.error source.exhausted, source)
      | some (byte, rest) =>
          let (taken, rest) := take count rest
          (taken.map (byte :: ·), rest)

end Source

end Cardroom
