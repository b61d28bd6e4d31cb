import Messenger.Frame.Header

/-!
# Messages and their frames

A message is a header with a payload and an extension.  Its frame is the
header, the payload and the extension in this order, and a frame holds exactly
the octets that its header declares.
-/

namespace Messenger

/-- A header with the two parts that follow it. -/
structure Message where
  header : Header
  payload : Octets
  extension : Octets
deriving DecidableEq, Repr

namespace Message

/-- Refuse a part whose length is not the declared one. -/
def checkLength (part : Part) (declared actual : Nat) : Except FrameError Unit :=
  if actual = declared then .ok () else .error (.lengthMismatch part declared actual)

/-- The frame of a message. -/
def encode (message : Message) : Except FrameError Octets := do
  checkLength .payload message.header.payloadLength.toNat message.payload.length
  checkLength .extension message.header.extensionLength.toNat message.extension.length
  let octets ← message.header.encode
  return octets ++ message.payload ++ message.extension

/-- The message of a frame. -/
def decode (frame : Octets) : Except FrameError Message :=
  match Header.decode frame with
  | .error cause => .error cause
  | .ok header =>
      let declared := header.frameLength
      if frame.length < declared then .error (.overrun declared frame.length)
      else if declared < frame.length then .error (.trailing declared frame.length)
      else
        let parts := frame.drop headerLength
        .ok
          { header
            payload := parts.take header.payloadLength.toNat
            extension := parts.drop header.payloadLength.toNat }

/-- Where the message sits in its channel. -/
def position (message : Message) : Position :=
  message.header.position

/-- The sequence number, if one is assigned. -/
def seq? (message : Message) : Option UInt64 :=
  message.position.seq?

/-- The receiver, the local account standing in for zero. -/
def resolvedReceiver (message : Message) (me : AccountId) : AccountId :=
  if message.header.receiver = 0 then me else message.header.receiver

/-- The channel that a message belongs to. -/
def channel (message : Message) (me : AccountId) : Channel :=
  Channel.between message.header.sender (message.resolvedReceiver me)

/-- The other party of the conversation: the group of group traffic, else the
side that is not `me`. -/
def peer (message : Message) (me : AccountId) : AccountId :=
  let receiver := message.resolvedReceiver me
  if isGroup receiver || message.header.sender = me then receiver else message.header.sender

/-- One line that describes a message, its payload in hexadecimal. -/
def render (message : Message) : String :=
  let header := message.header
  header.kind.render ++ " " ++ toString header.sender.toNat ++ "->" ++
    toString header.receiver.toNat ++ " seq=" ++ toString header.seq.toNat ++ " ts=" ++
    toString header.timestamp.toNat ++ " payload=" ++ Octets.hex message.payload

end Message

end Messenger
