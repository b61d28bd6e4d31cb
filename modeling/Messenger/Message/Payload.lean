import Messenger.Message.Basic
import Messenger.Text.Blank
import Messenger.Text.Numeral

/-!
# Reading payloads

What the payload of a message says, for the kinds whose payload has a form:
text, the timestamp that an acknowledgement echoes, and the count that remains
of a history.
-/

namespace Messenger.Message

/-- The payload as text. -/
def text (message : Message) : Except FrameError String :=
  match Utf8.decode message.payload with
  | .ok text => .ok text
  | .error fault => .error (.malformedPayload (.notText fault))

/-- The timestamp that an acknowledgement echoes, blanks around it ignored. -/
def mintedTimestamp (message : Message) : Except FrameError UInt64 := do
  let text ← message.text
  match Numeral.word? (Blank.trim text.toList) with
  | some timestamp => return timestamp
  | none => throw (.malformedPayload (.mintedTimestamp text))

/-- The count of messages that remain, eight big-endian octets. -/
def remaining (message : Message) : Except FrameError UInt64 :=
  if message.payload.length = 8 then .ok (UInt64.ofNat (Octets.number message.payload))
  else .error (.malformedPayload (.remainingLength message.payload.length))

/-- Whether a message says that no history remains.  A count that cannot be read
does not. -/
def endsHistory (message : Message) : Bool :=
  message.header.kind = .sync && match message.remaining with
    | .ok count => count = 0
    | .error _ => false

/-- The lowercase form of an ASCII text. -/
def lowercase (name : String) : String :=
  String.ofList (name.toList.map Char.toLower)

/-- The short text that stands for a message in a list of conversations. -/
def preview (message : Message) : String :=
  match message.header.kind with
  | .text | .meme =>
      match message.text with
      | .ok text => text
      | .error _ => "[message]"
  | kind => "[" ++ lowercase kind.name ++ "]"

end Messenger.Message
