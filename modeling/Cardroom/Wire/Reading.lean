import Cardroom.Wire.Source

/-!
# Reading frames

A reader looks for the start mark byte by byte and skips what comes before it, up to a budget. What
follows the mark has to be a frame: a known type, four digits and so many bytes of text.
-/

namespace Cardroom.Frame

/-- The budget of a server's reader: it gives up when so many bytes have gone by. -/
def garbageBudget : Nat := 1024

def headerSize : Nat := 8

/-- Reads on until the bytes read last are the start mark. The window holds the last bytes, at most
as many as the mark has; a byte that is pushed out of the window is discarded. -/
def findStart (budget : Nat) (window : List UInt8) (discarded : Nat) (source : Source) :
    Except WireError Unit × Source :=
  match read : source.next? with
  | none => (.error source.exhausted, source)
  | some (byte, rest) =>
      let full := window.length = startMark.length
      let window := (if full then window.drop 1 else window) ++ [byte]
      let discarded := if full then discarded + 1 else discarded
      if budget ≤ discarded then
        (.error (.noStart discarded), rest)
      else if window = startMark then
        (.ok (), rest)
      else
        findStart budget window discarded rest
termination_by source.left
decreasing_by exact Source.left_lt_of_next? read

/-- The type and the length of the payload, as the header states them. The type is looked at
first. -/
def parseHeader (header : List UInt8) : Except WireError (MessageType × Nat) :=
  let (code, digits) := header.splitAt 4
  match MessageType.ofCodeBytes? code with
  | none => .error (.unknownType (Text.lossy code))
  | some type =>
      if digits.all fun byte => 0x30 ≤ byte ∧ byte ≤ 0x39 then
        .ok (type, Text.ofDigits (digits.map fun byte => Char.ofNat byte.toNat))
      else
        .error (.malformedLength (Text.lossy digits))

def readBody (source : Source) : Except WireError Frame × Source :=
  match source.take headerSize with
  | (.error error, source) => (.error error, source)
  | (.ok header, source) =>
      match parseHeader header with
      | .error error => (.error error, source)
      | .ok (type, size) =>
          match source.take size with
          | (.error error, source) => (.error error, source)
          | (.ok payload, source) =>
              match Text.ofBytes? payload with
              | none => (.error .invalidUtf8, source)
              | some payload => (.ok { type, payload }, source)

/-- Reads the next frame, or the reason why there is none, and gives what is left of the source. -/
def read (budget : Nat) (source : Source) : Except WireError Frame × Source :=
  match findStart budget [] 0 source with
  | (.error error, source) => (.error error, source)
  | (.ok (), source) => readBody source

end Cardroom.Frame
