import Messenger.Message.Basic
import Messenger.Word

/-!
# Numbered series

Runs of text messages between two parties in which every message spells its own
sequence number and later numbers are later in time.
-/

namespace Messenger.Series

/-- The text that spells a sequence number. -/
def spell (seq : UInt64) : String :=
  "m" ++ toString seq.toNat

/-- The message of a series with a sequence number, as long after `base` as the
number says. -/
def message (sender receiver : AccountId) (base seq : UInt64) : Message :=
  let payload := Utf8.encode (spell seq)
  { header :=
      { version := 0
        sender
        nodeId := 0
        receiver
        kind := .text
        extensionLength := 0
        timestamp := Word.addSat base seq
        payloadLength := UInt16.ofNat payload.length
        seq }
    payload
    extension := [] }

end Messenger.Series
