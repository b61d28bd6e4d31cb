import Messenger.Conversation.Stored
import Messenger.History.Backfill
import Messenger.History.Tracker
import Messenger.Session.Error
import Messenger.Timeline

/-!
# Sessions

A session is all that a client knows between its transport and its owner: the
timelines, what the tracker knows, the conversation list, the messages that
wait to be sent, and the events the owner has not taken.  A request changes the
session even if it fails: what was done before the failure stays done.
-/

namespace Messenger

/-- What a session tells its owner. -/
inductive Event where
  /-- The server accepted the account. -/
  | authenticated
  /-- The server turned the account away. -/
  | rejected (reason : String)
  /-- A content message was merged into a channel. -/
  | message (channel : Channel) (message : Message)
  /-- A pending message received its sequence number. -/
  | confirmed (channel : Channel) (seq minted : UInt64)
  /-- The server sent a roster. -/
  | roster (peers : List AccountId)
  /-- A channel has no more history to fetch. -/
  | syncCompleted (channel : Channel)
  /-- The history of a channel could not be fetched. -/
  | syncFailed (channel : Channel) (reason : String)
  /-- The server reports an error. -/
  | serverError (kind : Kind) (detail : String)
  /-- The server takes the session offline. -/
  | offline (reason : String)
  /-- Any other message for the owner. -/
  | notice (message : Message)
  /-- The transport went away. -/
  | disconnected
deriving DecidableEq, Repr

/-- Whether the server let the account in. -/
inductive AuthState where
  | pending
  | authenticated
  | rejected (reason : String)
deriving DecidableEq, Repr

/-- What happened to a frame. -/
inductive Routed where
  | content (channel : Channel) (inserted : Timeline.Inserted)
  | ack (channel : Channel) (promoted : Bool)
  | roster (peers : Nat)
  | syncDone (channel : Channel)
  | auth (accepted : Bool)
  | surfaced (kind : Kind)
  | ignored (kind : Kind)
deriving DecidableEq, Repr

/-- What a backfill cycle came to. -/
inductive SyncOutcome where
  /-- There is nothing to fetch, or the cycle was used up. -/
  | skipped
  /-- The cycle ran to its end. -/
  | completed (merged : Nat)
  /-- A page could not be fetched. -/
  | failed (merged : Nat) (reason : String)
deriving DecidableEq, Repr

/-- What a session is set up with. -/
structure SessionConfig where
  /-- How many messages may wait to be sent. -/
  capacity : UInt64
  /-- How many messages a history window holds. -/
  window : UInt64
  sync : SyncConfig
deriving DecidableEq, Repr

/-- The state of a session over a store and a source of history. -/
structure Session (σ η : Type) where
  me : AccountId
  config : SessionConfig
  store : σ
  history : η
  tracker : Tracker
  timelines : Assoc Channel Timeline
  conversations : ConversationList
  /-- The messages that wait to be sent, oldest first. -/
  outbox : List Message
  /-- The channel that the owner looks at. -/
  active : Option Channel
  auth : AuthState
  /-- The events that the owner has not taken, oldest first. -/
  events : List Event
deriving DecidableEq

/-- A request to a session: it answers or fails, and leaves a session in both cases. -/
abbrev SessionM (σ η : Type) := EStateM SessionError (Session σ η)

namespace Session

variable {σ η : Type}

/-- A session that knows nothing. -/
def start (me : AccountId) (config : SessionConfig) (store : σ) (history : η) : Session σ η :=
  { me
    config
    store
    history
    tracker := Tracker.start config.sync.pageSize
    timelines := .empty
    conversations := .empty
    outbox := []
    active := none
    auth := .pending
    events := [] }

/-- The timeline of a channel, empty if there is none. -/
def timeline (session : Session σ η) (channel : Channel) : Timeline :=
  (session.timelines.find? channel).getD .empty

/-- Replace the timeline of a channel. -/
def setTimeline (session : Session σ η) (channel : Channel) (timeline : Timeline) :
    Session σ η :=
  { session with timelines := session.timelines.insert channel timeline }

/-- The events that the owner has not taken, and the session without them. -/
def takeEvents (session : Session σ η) : List Event × Session σ η :=
  (session.events, { session with events := [] })

/-- Tell the owner. -/
def emit (event : Event) : SessionM σ η Unit :=
  modify fun session => { session with events := session.events ++ [event] }

/-- Change what the tracker knows. -/
def track (change : Tracker → Tracker) : SessionM σ η Unit :=
  modify fun session => { session with tracker := change session.tracker }

/-- Change the conversation list. -/
def revise (change : ConversationList → ConversationList) : SessionM σ η Unit :=
  modify fun session => { session with conversations := change session.conversations }

/-- Account for a message in the conversation with a peer. -/
def note (peer : AccountId) (message : Message) (countsUnread : Bool) : SessionM σ η Unit :=
  fun session =>
    match session.conversations.noteMessage? peer message countsUnread with
    | some conversations => .ok () { session with conversations }
    | none => .error (.aborted (.unreadOverflow peer)) session

variable [MessageStore σ]

/-- Ask the store. -/
def query {α : Type} (ask : σ → Except StoreError α) : SessionM σ η α := fun session =>
  match ask session.store with
  | .ok answer => .ok answer session
  | .error cause => .error (.store cause) session

/-- Save a message under a channel. -/
def save (channel : Channel) (message : Message) : SessionM σ η SaveOutcome := fun session =>
  match MessageStore.save session.store channel message with
  | .ok (outcome, store) => .ok outcome { session with store }
  | .error cause => .error (.store cause) session

/-- Store the conversation list. -/
def saveConversations : SessionM σ η Unit := fun session =>
  match session.conversations.save session.store session.me with
  | .ok store => .ok () { session with store }
  | .error cause => .error (.store cause) session

/-- Take the stored conversation list in place of the present one. -/
def reload : SessionM σ η Unit := fun session =>
  match ConversationList.load session.store session.me with
  | .ok conversations => .ok () { session with conversations }
  | .error cause => .error (.store cause) session

/-- Begin to track a channel.  Its newest number comes from the store, unless it is
known. -/
def anchor (channel : Channel) : SessionM σ η Unit := fun session =>
  if session.tracker.isAnchored channel then .ok () session
  else
    match MessageStore.latest session.store channel with
    | .ok tail => .ok () { session with tracker := session.tracker.anchor channel tail }
    | .error cause => .error (.history (.store cause)) session

end Session

end Messenger
