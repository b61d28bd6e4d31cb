import Messenger.History.Forms
import Messenger.Session.Basic
import Messenger.Transport.Forms

/-!
# Client settings

What a client is set up with, and its JSON document, in which every field has a
default.
-/

namespace Messenger

/-- The settings of a client. -/
structure ClientConfig where
  account : AccountId := 0
  /-- The server node that the client is pinned to. -/
  nodeId : UInt32 := 0
  /-- Where the server listens. -/
  address : String := "127.0.0.1:8190"
  token : String := ""
  mode : ConnectMode := .tcp
  /-- How many messages may wait to be sent. -/
  capacity : UInt64 := 256
  /-- How many messages a history window holds. -/
  window : UInt64 := 100
  sync : SyncConfig := {}
deriving DecidableEq, Repr, Inhabited

namespace ClientConfig

/-- What the client's session is set up with. -/
def session (config : ClientConfig) : SessionConfig :=
  { capacity := config.capacity, window := config.window, sync := config.sync }

instance : JsonForm ClientConfig where
  ofJson value := do
    let default : ClientConfig := {}
    let [account, nodeId, address, token, mode, capacity, window, sync] ←
      Json.fields?
        [ "account_id", "node_id", "address", "token", "mode", "send_buffer_capacity",
          "history_window", "sync" ] false value | none
    return {
      account := ← Json.defaulted? JsonForm.ofJson default.account account
      nodeId := ← Json.defaulted? JsonForm.ofJson default.nodeId nodeId
      address := ← Json.defaulted? JsonForm.ofJson default.address address
      token := ← Json.defaulted? JsonForm.ofJson default.token token
      mode := ← Json.defaulted? JsonForm.ofJson default.mode mode
      capacity := ← Json.defaulted? JsonForm.ofJson default.capacity capacity
      window := ← Json.defaulted? JsonForm.ofJson default.window window
      sync := ← Json.defaulted? JsonForm.ofJson default.sync sync }
  toText config := Json.writeObject
    [ ("account_id", JsonForm.toText config.account),
      ("node_id", JsonForm.toText config.nodeId),
      ("address", JsonForm.toText config.address),
      ("token", JsonForm.toText config.token),
      ("mode", JsonForm.toText config.mode),
      ("send_buffer_capacity", JsonForm.toText config.capacity),
      ("history_window", JsonForm.toText config.window),
      ("sync", JsonForm.toText config.sync) ]

end ClientConfig

end Messenger
