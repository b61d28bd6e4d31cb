import Messenger.Channel
import Messenger.Kind

/-!
# Frame headers

A header is four big-endian words.  Each word packs its fields from the most
significant bit down:

* version (18 bits), sender (46);
* node (18), receiver (46);
* kind (12), extension length (6), timestamp (46);
* payload length (14), sequence number (50).

A value that is wider than its field is refused and never cut.
-/

namespace Messenger

/-- Where a message sits in its channel. -/
inductive Position where
  /-- Written here and not yet confirmed, ordered by its timestamp. -/
  | pending (timestamp : UInt64)
  /-- Numbered by the server. -/
  | confirmed (seq : UInt64)
deriving DecidableEq, Repr

namespace Position

/-- A zero sequence number means that none is assigned. -/
def ofWire (seq timestamp : UInt64) : Position :=
  if seq = 0 then .pending timestamp else .confirmed seq

/-- Whether the message is not yet confirmed. -/
def isPending : Position → Bool
  | .pending _ => true
  | .confirmed _ => false

/-- The sequence number, if one is assigned. -/
def seq? : Position → Option UInt64
  | .pending _ => none
  | .confirmed seq => some seq

end Position

/-- The fields that a frame begins with. -/
structure Header where
  version : UInt32
  sender : AccountId
  /-- The server node that owns the sender's connection. -/
  nodeId : UInt32
  /-- Zero stands for the local account. -/
  receiver : AccountId
  kind : Kind
  extensionLength : UInt8
  /-- Milliseconds. -/
  timestamp : UInt64
  payloadLength : UInt16
  /-- Zero while none is assigned. -/
  seq : UInt64
deriving DecidableEq, Repr

namespace Header

/-- The value of a field. -/
def value (header : Header) : HeaderField → Nat
  | .version => header.version.toNat
  | .sender => header.sender.toNat
  | .nodeId => header.nodeId.toNat
  | .receiver => header.receiver.toNat
  | .kind => header.kind.code
  | .extensionLength => header.extensionLength.toNat
  | .timestamp => header.timestamp.toNat
  | .payloadLength => header.payloadLength.toNat
  | .seq => header.seq.toNat

/-- The fields in the order in which they are checked. -/
def fields : List HeaderField :=
  [.version, .sender, .nodeId, .receiver, .kind, .extensionLength, .timestamp,
    .payloadLength, .seq]

/-- Refuse a value that does not fit its field. -/
def checkField (field : HeaderField) (value : Nat) : Except FrameError Unit :=
  if value < field.capacity then .ok () else .error (.fieldOverflow field value)

/-- Refuse the first field whose value does not fit. -/
def check (header : Header) : Except FrameError Unit :=
  fields.forM fun field => checkField field (header.value field)

/-- The four words of a header whose fields fit. -/
def words (header : Header) : List Nat :=
  [ header.version.toNat <<< 46 + header.sender.toNat,
    header.nodeId.toNat <<< 46 + header.receiver.toNat,
    header.kind.code <<< 52 + header.extensionLength.toNat <<< 46 + header.timestamp.toNat,
    header.payloadLength.toNat <<< 50 + header.seq.toNat ]

/-- The octets of a header. -/
def encode (header : Header) : Except FrameError Octets := do
  header.check
  return header.words.flatMap (Octets.bigEndian 8)

/-- The word at an index of octets. -/
def wordAt (octets : Octets) (index : Nat) : Nat :=
  Octets.number ((octets.drop (8 * index)).take 8)

/-- The header that the first octets spell. -/
def decode (octets : Octets) : Except FrameError Header :=
  if octets.length < headerLength then .error (.truncated octets.length)
  else
    let first := wordAt octets 0
    let second := wordAt octets 1
    let third := wordAt octets 2
    let fourth := wordAt octets 3
    let code := third >>> 52
    match Kind.ofCode? code with
    | none => .error (.unknownKind code)
    | some kind =>
        .ok
          { version := UInt32.ofNat (first >>> 46)
            sender := UInt64.ofNat (first % (1 <<< 46))
            nodeId := UInt32.ofNat (second >>> 46)
            receiver := UInt64.ofNat (second % (1 <<< 46))
            kind
            extensionLength := UInt8.ofNat (third >>> 46 % (1 <<< 6))
            timestamp := UInt64.ofNat (third % (1 <<< 46))
            payloadLength := UInt16.ofNat (fourth >>> 50)
            seq := UInt64.ofNat (fourth % (1 <<< 50)) }

/-- The octets of the whole frame that a header declares. -/
def frameLength (header : Header) : Nat :=
  headerLength + header.payloadLength.toNat + header.extensionLength.toNat

/-- Where the message sits in its channel. -/
def position (header : Header) : Position :=
  Position.ofWire header.seq header.timestamp

end Header

end Messenger
