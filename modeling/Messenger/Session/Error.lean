import Messenger.History.Source

/-!
# Why a session refuses a request
-/

namespace Messenger

/-- Why the program ends in the middle of a request. -/
inductive Abort where
  /-- No duration is as long as the pause before the next attempt at a page. -/
  | pauseOverflow
  /-- No more unread messages of a peer can be counted. -/
  | unreadOverflow (peer : AccountId)
deriving DecidableEq, Repr

/-- The cause in words. -/
def Abort.message : Abort → String
  | .pauseOverflow => "overflow when adding durations"
  | .unreadOverflow peer => "too many unread messages from " ++ toString peer.toNat

/-- Why a request to a session, its transport or its client fails. -/
inductive SessionError where
  /-- A frame cannot be written or read. -/
  | frame (cause : FrameError)
  /-- The store fails. -/
  | store (cause : StoreError)
  /-- History cannot be had. -/
  | history (cause : HistoryError)
  /-- The transport cannot deliver or receive. -/
  | transport (reason : String)
  /-- As many messages wait as may wait. -/
  | bufferFull (capacity : Nat)
  | notConnected
  /-- The server turned the account away. -/
  | rejected (reason : String)
  /-- The program ends.  Nothing handles this: a request in the middle of which it
  happens neither answers nor reports a failure. -/
  | aborted (cause : Abort)
deriving DecidableEq, Repr

/-- A fetch that comes to nothing fails the request that needs it, or ends the program. -/
def SessionError.ofFetch : FetchError → SessionError
  | .failed cause => .history cause
  | .pauseOverflow => .aborted .pauseOverflow

/-- The cause in words. -/
def SessionError.message : SessionError → String
  | .frame cause => "codec error: " ++ cause.message
  | .store cause => "storage error: " ++ cause.message
  | .history cause => "sync error: " ++ cause.message
  | .transport reason => "transport error: " ++ reason
  | .bufferFull capacity => "send buffer full (" ++ toString capacity ++ " messages queued)"
  | .notConnected => "not connected"
  | .rejected reason => "authentication failed: " ++ reason
  | .aborted cause => cause.message

end Messenger
