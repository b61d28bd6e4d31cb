import Messenger.Text.Utf8
import Messenger.Text.Quoted

/-!
# Why a frame is refused

The causes for which a message cannot be written as a frame, a frame cannot be
read as a message, or a payload cannot be read as its kind demands.
-/

namespace Messenger

/-- The octets that a header takes. -/
def headerLength : Nat := 32

/-- The fields of a header, in the order in which they are checked. -/
inductive HeaderField where
  | version
  | sender
  | nodeId
  | receiver
  | kind
  | extensionLength
  | timestamp
  | payloadLength
  | seq
deriving DecidableEq, Repr

namespace HeaderField

/-- The bits that a header gives a field. -/
def bits : HeaderField → Nat
  | version => 18
  | sender => 46
  | nodeId => 18
  | receiver => 46
  | kind => 12
  | extensionLength => 6
  | timestamp => 46
  | payloadLength => 14
  | seq => 50

/-- The name of a field in messages. -/
def label : HeaderField → String
  | version => "version"
  | sender => "sender"
  | nodeId => "node_id"
  | receiver => "receiver"
  | kind => "type"
  | extensionLength => "extension_length"
  | timestamp => "timestamp"
  | payloadLength => "payload_length"
  | seq => "seq_num"

/-- How many values a field can hold. -/
def capacity (field : HeaderField) : Nat :=
  1 <<< field.bits

/-- The largest value that a field holds. -/
def largest (field : HeaderField) : Nat :=
  field.capacity - 1

end HeaderField

/-- The parts of a frame after its header. -/
inductive Part where
  | payload
  | extension
deriving DecidableEq, Repr

/-- The name of a part in messages. -/
def Part.label : Part → String
  | .payload => "payload"
  | .extension => "extension"

/-- Why a payload, or a text in its place, cannot be read. -/
inductive PayloadFault where
  /-- The payload is not text. -/
  | notText (fault : Utf8.Fault)
  /-- The text is not the numeral of a timestamp. -/
  | mintedTimestamp (text : String)
  /-- A remaining count takes eight octets. -/
  | remainingLength (length : Nat)
  /-- The text names no channel. -/
  | channelText (text : String)
  /-- The payload is not a list of pairs of words. -/
  | roster
deriving DecidableEq, Repr

/-- The fault in words. -/
def PayloadFault.message : PayloadFault → String
  | .notText fault => "payload is not utf-8: " ++ fault.message
  | .mintedTimestamp text => "ack timestamp " ++ Quoted.quote text
  | .remainingLength length => s!"sync payload is {length} bytes, expected 8"
  | .channelText text => "channel key " ++ Quoted.quote text
  | .roster => "roster: not a list of identifier and time pairs"

/-- Why a frame or its payload is refused. -/
inductive FrameError where
  /-- Fewer octets than a header. -/
  | truncated (length : Nat)
  /-- Fewer octets than the header declares. -/
  | overrun (declared available : Nat)
  /-- More octets than the header declares. -/
  | trailing (declared available : Nat)
  /-- A value does not fit its field. -/
  | fieldOverflow (field : HeaderField) (value : Nat)
  /-- A declared length is not the length of the part. -/
  | lengthMismatch (part : Part) (declared actual : Nat)
  /-- No kind has this code. -/
  | unknownKind (code : Nat)
  /-- The payload cannot be read for its kind. -/
  | malformedPayload (fault : PayloadFault)
deriving DecidableEq, Repr

/-- The cause in words. -/
def FrameError.message : FrameError → String
  | .truncated length => s!"frame truncated: {length} bytes, header needs {headerLength}"
  | .overrun declared available =>
      s!"frame overrun: header declares {declared} bytes, buffer has {available}"
  | .trailing declared available =>
      s!"trailing bytes: header declares {declared} bytes, buffer has {available}"
  | .fieldOverflow field value =>
      s!"field {field.label} value {value} exceeds {field.bits}-bit width"
  | .lengthMismatch part declared actual =>
      s!"{part.label} length mismatch: header says {declared}, actual {actual}"
  | .unknownKind code => s!"unknown message type: {code}"
  | .malformedPayload fault => "malformed payload: " ++ fault.message

end Messenger
