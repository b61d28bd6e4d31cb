import Messenger.Message.Compose

/-!
# Golden frames

Known messages with the exact hexadecimal text of their frames.  Every client
that speaks the protocol writes these messages as these frames.
-/

namespace Messenger

/-- A message with its known frame. -/
structure GoldenFrame where
  name : String
  version : UInt32
  sender : AccountId
  nodeId : UInt32
  receiver : AccountId
  kind : Kind
  timestamp : UInt64
  seq : UInt64
  payload : Octets
  extension : Octets
  /-- The hexadecimal text of the frame. -/
  expected : String
deriving DecidableEq, Repr

namespace GoldenFrame

/-- The message of a golden frame. -/
def message (golden : GoldenFrame) : Except FrameError Message := do
  let composed ← Message.compose golden.kind golden.sender golden.receiver golden.nodeId
    golden.timestamp golden.payload golden.extension
  return {
    composed with
    header := { composed.header with version := golden.version, seq := golden.seq } }

/-- The hexadecimal text of the frame that the message is written as. -/
def written (golden : GoldenFrame) : String :=
  match golden.message.bind Message.encode with
  | .ok frame => Octets.hex frame
  | .error cause => "encode failed: " ++ cause.message

/-- Whether the message is written as the known frame. -/
def holds (golden : GoldenFrame) : Bool :=
  golden.written = golden.expected

/-- All golden frames. -/
def all : List GoldenFrame :=
  [ { name := "pending text"
      version := 0
      sender := 1
      nodeId := 0
      receiver := 2
      kind := .text
      timestamp := 1000
      seq := 0
      payload := Utf8.encode "hi"
      extension := []
      expected := "0000000000000001000000000000000202000000000003e800080000000000006869" },
    { name := "sequenced text with extension and widest sender"
      version := 1
      sender := 70368744177663
      nodeId := 3
      receiver := 7
      kind := .text
      timestamp := 1736870400000
      seq := 42
      payload := Utf8.encode "hello"
      extension := Utf8.encode "xy"
      expected :=
        "00007fffffffffff0000c0000000000702008194658b1000001400000000002a68656c6c6f7879" },
    { name := "ack carrying minted timestamp"
      version := 0
      sender := 1
      nodeId := 0
      receiver := 2
      kind := .ack
      timestamp := 2000
      seq := 42
      payload := Utf8.encode "1000"
      extension := []
      expected := "0000000000000001000000000000000200100000000007d0001000000000002a31303030" },
    { name := "sync completion sentinel"
      version := 0
      sender := 2
      nodeId := 0
      receiver := 1
      kind := .sync
      timestamp := 0
      seq := 0
      payload := List.replicate 8 0
      extension := []
      expected :=
        "00000000000000020000000000000001067000000000000000200000000000000000000000000000" },
    { name := "image to group"
      version := 0
      sender := 5
      nodeId := 0
      receiver := 68719476743
      kind := .image
      timestamp := 1736870400000
      seq := 9
      payload := [0x89, 0x50, 0x4e, 0x47]
      extension := []
      expected := "0000000000000005000000100000000702300194658b1000001000000000000989504e47" } ]

end GoldenFrame

end Messenger
