import Messenger.Message.Basic

/-!
# Composing messages

A composed message declares the lengths of its parts and has no sequence
number, except an acknowledgement, which carries the number it assigns.
-/

namespace Messenger.Message

/-- A message with the given parts, refused if a part or a field is too large. -/
def compose (kind : Kind) (sender receiver : AccountId) (nodeId : UInt32)
    (timestamp : UInt64) (payload extension : Octets) : Except FrameError Message := do
  Header.checkField .payloadLength payload.length
  Header.checkField .extensionLength extension.length
  let header : Header :=
    { version := 0
      sender
      nodeId
      receiver
      kind
      extensionLength := UInt8.ofNat extension.length
      timestamp
      payloadLength := UInt16.ofNat payload.length
      seq := 0 }
  header.check
  return { header, payload, extension }

/-- A text message. -/
def ofText (sender receiver : AccountId) (nodeId : UInt32) (timestamp : UInt64)
    (text : String) : Except FrameError Message :=
  compose .text sender receiver nodeId timestamp (Utf8.encode text) []

/-- The same message under a sequence number. -/
def withSeq (message : Message) (seq : UInt64) : Message :=
  { message with header := { message.header with seq } }

/-- A composed message under a sequence number of any size. -/
def composeNumbered (kind : Kind) (sender receiver : AccountId) (nodeId : UInt32)
    (timestamp seq : UInt64) (payload extension : Octets) : Except FrameError Message := do
  return (← compose kind sender receiver nodeId timestamp payload extension).withSeq seq

/-- The acknowledgement of a message minted at `minted`: it carries the
parties of that message, the assigned sequence number and the server's timestamp. -/
def acknowledgement (sender receiver : AccountId) (nodeId : UInt32)
    (timestamp seq minted : UInt64) : Except FrameError Message := do
  let message ← compose .ack sender receiver nodeId timestamp
    (Utf8.encode (toString minted.toNat)) []
  (message.withSeq seq).header.check
  return message.withSeq seq

/-- A request to be authenticated by a token. -/
def authentication (account : AccountId) (nodeId : UInt32) (timestamp : UInt64)
    (token : String) : Except FrameError Message :=
  compose .auth account 0 nodeId timestamp (Utf8.encode token) []

/-- A probe that keeps a session alive. -/
def probe (account : AccountId) (nodeId : UInt32) (timestamp : UInt64) :
    Except FrameError Message :=
  compose .ping account 0 nodeId timestamp [] []

/-- A report of how much history remains. -/
def historyProgress (sender receiver : AccountId) (timestamp remaining : UInt64) :
    Except FrameError Message :=
  compose .sync sender receiver 0 timestamp (Octets.bigEndian 8 remaining.toNat) []

/-- A report that no history remains. -/
def historyEnd (sender receiver : AccountId) (timestamp : UInt64) :
    Except FrameError Message :=
  historyProgress sender receiver timestamp 0

/-- A request for the roster. -/
def rosterRequest (account : AccountId) (nodeId : UInt32) (timestamp : UInt64) :
    Except FrameError Message :=
  compose .box account 0 nodeId timestamp [] []

end Messenger.Message
