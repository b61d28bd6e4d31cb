import Messenger.Message.Payload

/-!
# Conversation lists

One summary per peer, latest activity first.  A summary is changed in place or
added, and never removed.  Summaries with the same activity keep their order.
-/

namespace Messenger

/-- One line of a conversation list. -/
structure Conversation where
  peer : AccountId
  /-- The time of the latest message, in milliseconds. -/
  lastActivity : UInt64
  preview : String
  unread : UInt32
  lastKind : Kind
deriving DecidableEq, Repr

/-- The conversations of an account. -/
structure ConversationList where
  entries : List Conversation
deriving DecidableEq, Repr, Inhabited

namespace ConversationList

/-- A list without conversations. -/
def empty : ConversationList :=
  ⟨[]⟩

/-- Put the latest activity first. -/
def arrange (entries : List Conversation) : ConversationList :=
  ⟨entries.mergeSort fun a b => b.lastActivity ≤ a.lastActivity⟩

/-- The conversation with a peer. -/
def find? (list : ConversationList) (peer : AccountId) : Option Conversation :=
  list.entries.find? fun entry => entry.peer = peer

/-- Change the first conversation with a peer. -/
def change (peer : AccountId) (f : Conversation → Conversation) :
    List Conversation → List Conversation
  | [] => []
  | entry :: rest =>
      if entry.peer = peer then f entry :: rest else entry :: change peer f rest

/-- What a message says about the conversation with a peer. -/
def summarize (peer : AccountId) (message : Message) (unread : UInt32) : Conversation :=
  { peer
    lastActivity := message.header.timestamp
    preview := message.preview
    unread
    lastKind := message.header.kind }

/-- How many unread messages of a peer a message adds: one if the peer sent it and
it is to be counted. -/
def unreadBy (peer : AccountId) (message : Message) (countsUnread : Bool) : UInt32 :=
  if message.header.sender = peer ∧ countsUnread then 1 else 0

/-- Account for a message in the conversation with a peer.  An older message than
the latest activity changes nothing.  A message of the peer adds to the unread
ones if `countsUnread`. -/
def noteMessage (list : ConversationList) (peer : AccountId) (message : Message)
    (countsUnread : Bool) : ConversationList :=
  let added := unreadBy peer message countsUnread
  match list.find? peer with
  | none => arrange (list.entries ++ [summarize peer message added])
  | some entry =>
      if message.header.timestamp < entry.lastActivity then list
      else
        arrange (change peer (fun entry => summarize peer message (entry.unread + added))
          list.entries)

/-- Whether the unread messages can still be counted when a message is accounted for. -/
def hasRoom (list : ConversationList) (peer : AccountId) (message : Message)
    (countsUnread : Bool) : Bool :=
  match list.find? peer with
  | none => true
  | some entry =>
      message.header.timestamp < entry.lastActivity ||
        entry.unread.toNat + (unreadBy peer message countsUnread).toNat < UInt32.size

/-- Account for a message, unless the unread ones could no longer be counted. -/
def noteMessage? (list : ConversationList) (peer : AccountId) (message : Message)
    (countsUnread : Bool) : Option ConversationList :=
  if list.hasRoom peer message countsUnread then
    some (list.noteMessage peer message countsUnread)
  else none

/-- A conversation whose activity is at least as late as a time. -/
def notBefore (time : UInt64) (entry : Conversation) : Conversation :=
  { entry with lastActivity := max entry.lastActivity time }

/-- Move a conversation to the time of a confirmation, if it is in the list. -/
def noteConfirmation (list : ConversationList) (peer : AccountId) (time : UInt64) :
    ConversationList :=
  match list.find? peer with
  | none => list
  | some _ => arrange (change peer (notBefore time) list.entries)

/-- Account for one entry of a roster, without arranging the list. -/
def admitPeer (entries : List Conversation) (entry : AccountId × UInt64) : List Conversation :=
  match entries.find? fun conversation => conversation.peer = entry.1 with
  | some _ => change entry.1 (notBefore entry.2) entries
  | none =>
      entries ++
        [{ peer := entry.1, lastActivity := entry.2, preview := "", unread := 0, lastKind := .na }]

/-- Account for a roster of peers and the times of their latest activity. -/
def noteRoster (list : ConversationList) (roster : List (AccountId × UInt64)) :
    ConversationList :=
  arrange (roster.foldl admitPeer list.entries)

/-- Forget that messages of a peer are unread. -/
def clearUnread (list : ConversationList) (peer : AccountId) : ConversationList :=
  ⟨change peer (fun entry => { entry with unread := 0 }) list.entries⟩

end ConversationList

end Messenger
