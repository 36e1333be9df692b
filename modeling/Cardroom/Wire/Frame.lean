import Cardroom.Text.Decimal
import Cardroom.Text.Quoted
import Cardroom.Wire.MessageType

/-!
# Frames

A message travels as one frame: the four bytes of the start mark, the four bytes of the type's code,
the length of the payload in four decimal digits, and the payload, a text in UTF-8.
-/

namespace Cardroom

structure Frame where
  type : MessageType
  payload : String
deriving DecidableEq, Repr

inductive Fault where
  | connectionReset
  | connectionAborted
  | unexpectedEnd
  | brokenPipe
  | timedOut
  /-- The other side takes no more bytes. -/
  | writeZero
deriving DecidableEq, Repr

namespace Fault

def message : Fault → String
  | connectionReset => "connection reset"
  | connectionAborted => "connection aborted"
  | unexpectedEnd => "unexpected end of file"
  | brokenPipe => "broken pipe"
  | timedOut => "timed out"
  | writeZero => "write zero"

/-- Whether a reader takes the fault for the peer's departure. -/
def isDeparture : Fault → Bool
  | connectionReset | connectionAborted | unexpectedEnd => true
  | brokenPipe | timedOut | writeZero => false

end Fault

inductive WireError where
  /-- The peer is gone. -/
  | disconnected
  /-- So many bytes have gone by without a start mark. -/
  | noStart (discarded : Nat)
  /-- The code is not in the catalog. -/
  | unknownType (code : String)
  /-- The length is not made of digits. -/
  | malformedLength (digits : String)
  /-- The payload has so many bytes, more than four digits can say. -/
  | payloadTooLarge (size : Nat)
  /-- The payload is no text. -/
  | invalidUtf8
  /-- The connection failed. -/
  | failed (fault : Fault)
deriving DecidableEq, Repr

namespace WireError

/-- Whether the connection failed, rather than that something invalid was sent on it. -/
def isTransport : WireError → Bool
  | disconnected | failed _ => true
  | _ => false

def message : WireError → String
  | disconnected => "peer closed the connection"
  | noStart discarded =>
      "no frame start found after " ++ toString discarded ++ " garbage bytes"
  | unknownType code => "unknown message type " ++ Text.quoted code
  | malformedLength digits => "malformed length field " ++ Text.quoted digits
  | payloadTooLarge size =>
      "payload of " ++ toString size ++ " bytes exceeds the 9999 byte limit"
  | invalidUtf8 => "payload is not valid UTF-8"
  | failed fault => "i/o error: " ++ fault.message

end WireError

namespace Frame

/-- The bytes with which every frame starts. -/
def startMark : List UInt8 :=
  Text.bytes "JOKE"

def maxPayload : Nat := 9999

/-- The bytes of a frame, whatever the length of its payload. -/
def wireBytes (frame : Frame) : List UInt8 :=
  let payload := Text.bytes frame.payload
  startMark ++ frame.type.codeBytes ++
    Text.bytes (String.ofList (Text.padded 4 payload.length)) ++ payload

def encode (frame : Frame) : Except WireError (List UInt8) :=
  if frame.payload.utf8ByteSize ≤ maxPayload then
    .ok frame.wireBytes
  else
    .error (.payloadTooLarge frame.payload.utf8ByteSize)

end Frame

end Cardroom
