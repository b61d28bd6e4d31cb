import Messenger.Json.Form
import Messenger.Message.Basic

/-!
# Messages in JSON

A kind is its name, a position a choice with one field, and a channel the
number made of its parties.  Octets are a list of numbers; a string in their
place is read as its octets.
-/

namespace Messenger

instance : JsonForm Kind where
  ofJson value := (Json.bareChoice? value).bind Kind.ofName?
  toText kind := Json.writeString kind.name

instance : JsonForm Position where
  ofJson value := do
    let (name, content) ← Json.choice? value
    if name = "Pending" then
      let [timestamp] ← Json.fields? ["timestamp"] false content | none
      return .pending (← Json.required? JsonForm.ofJson timestamp)
    else if name = "Confirmed" then
      let [seq] ← Json.fields? ["seq_num"] false content | none
      return .confirmed (← Json.required? JsonForm.ofJson seq)
    else none
  toText
    | .pending timestamp =>
        Json.writeObject
          [("Pending", Json.writeObject [("timestamp", JsonForm.toText timestamp)])]
    | .confirmed seq =>
        Json.writeObject [("Confirmed", Json.writeObject [("seq_num", JsonForm.toText seq)])]

instance : JsonForm Channel where
  ofJson value := (Json.natural? Channel.count value).bind Channel.ofNumber?
  toText channel := toString channel.number

/-- The octets that a JSON value stands for. -/
def Json.octetsOf? : Json → Option Octets
  | .string written => Json.octets? written
  | value => JsonForm.ofJson value

instance : JsonForm Header where
  ofJson value := do
    let [version, sender, nodeId, receiver, kind, extensionLength, timestamp, payloadLength, seq] ←
      Json.fields?
        [ "version", "sender", "node_id", "receiver", "typ", "extension_length", "timestamp",
          "payload_length", "seq_num" ] false value | none
    return {
      version := ← Json.required? JsonForm.ofJson version
      sender := ← Json.required? JsonForm.ofJson sender
      nodeId := ← Json.required? JsonForm.ofJson nodeId
      receiver := ← Json.required? JsonForm.ofJson receiver
      kind := ← Json.required? JsonForm.ofJson kind
      extensionLength := ← Json.required? JsonForm.ofJson extensionLength
      timestamp := ← Json.required? JsonForm.ofJson timestamp
      payloadLength := ← Json.required? JsonForm.ofJson payloadLength
      seq := ← Json.required? JsonForm.ofJson seq }
  toText header := Json.writeObject
    [ ("version", JsonForm.toText header.version),
      ("sender", JsonForm.toText header.sender),
      ("node_id", JsonForm.toText header.nodeId),
      ("receiver", JsonForm.toText header.receiver),
      ("typ", JsonForm.toText header.kind),
      ("extension_length", JsonForm.toText header.extensionLength),
      ("timestamp", JsonForm.toText header.timestamp),
      ("payload_length", JsonForm.toText header.payloadLength),
      ("seq_num", JsonForm.toText header.seq) ]

instance : JsonForm Message where
  ofJson value := do
    let [header, payload, extension] ←
      Json.fields? ["head", "payload", "extension"] false value | none
    return {
      header := ← Json.required? JsonForm.ofJson header
      payload := ← Json.required? Json.octetsOf? payload
      extension := ← Json.required? Json.octetsOf? extension }
  toText message := Json.writeObject
    [ ("head", JsonForm.toText message.header),
      ("payload", JsonForm.toText message.payload),
      ("extension", JsonForm.toText message.extension) ]

end Messenger
