import Messenger.Conversation.Basic
import Messenger.Message.Forms

/-!
# Conversations in JSON
-/

namespace Messenger

instance : JsonForm Conversation where
  ofJson value := do
    let [peer, lastActivity, preview, unread, lastKind] ←
      Json.fields? ["peer_id", "last_activity", "preview", "unread", "last_type"] false value
        | none
    return {
      peer := ← Json.required? JsonForm.ofJson peer
      lastActivity := ← Json.required? JsonForm.ofJson lastActivity
      preview := ← Json.required? JsonForm.ofJson preview
      unread := ← Json.required? JsonForm.ofJson unread
      lastKind := ← Json.required? JsonForm.ofJson lastKind }
  toText conversation := Json.writeObject
    [ ("peer_id", JsonForm.toText conversation.peer),
      ("last_activity", JsonForm.toText conversation.lastActivity),
      ("preview", JsonForm.toText conversation.preview),
      ("unread", JsonForm.toText conversation.unread),
      ("last_type", JsonForm.toText conversation.lastKind) ]

end Messenger
