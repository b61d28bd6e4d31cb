import Messenger.Json.Form
import Messenger.Session.CatchUp
import Messenger.Text.Blank

/-!
# Inbound frames

Every frame that the server sends is decoded and handled by its kind.  A frame
that cannot be decoded, or whose payload cannot be read for its kind, is
refused before anything changes.
-/

namespace Messenger.Session

variable {σ η : Type} [MessageStore σ] [HistorySource η]

/-- Merge content, tell the owner if it is new, and run the cycle of a channel that
is seen for the first time. -/
def receiveContent (message : Message) : SessionM σ η Routed := do
  let session ← get
  let channel := message.channel session.me
  let firstSeen := (session.tracker.state? channel).isNone
  anchor channel
  let inserted ← merge channel message
  if inserted.isNew then
    note (message.peer session.me) message (session.active ≠ some channel)
    saveConversations
    emit (.message channel message)
  if firstSeen then
    let _ ← catchUp channel
  return .content channel inserted

/-- Confirm the pending message that an acknowledgement names. -/
def receiveAck (message : Message) : SessionM σ η Routed := do
  let minted ← match message.mintedTimestamp with
    | .ok minted => pure minted
    | .error cause => throw (.frame cause)
  let session ← get
  let channel := message.channel session.me
  let header := message.header
  let (entry, timeline) := (session.timeline channel).confirm header.sender header.receiver
    minted header.seq header.timestamp
  match entry with
  | none => return .ack channel false
  | some entry =>
      set (session.setTimeline channel timeline)
      let _ ← save channel entry
      track fun tracker => (tracker.arrive channel entry.header.seq).2
      revise fun list =>
        list.noteConfirmation (message.peer session.me) entry.header.timestamp
      saveConversations
      emit (.confirmed channel entry.header.seq minted)
      return .ack channel true

/-- The pairs of peer and time that the payload of a roster holds; an empty payload
holds none. -/
def readRoster (message : Message) : Except FrameError (List (AccountId × UInt64)) :=
  if message.payload.isEmpty then .ok []
  else
    match Utf8.decode message.payload with
    | .error _ => .error (.malformedPayload .roster)
    | .ok text =>
        match (JsonForm.parse text : Option (List (AccountId × UInt64))) with
        | some roster => .ok roster
        | none => .error (.malformedPayload .roster)

/-- Track and catch up with the channel of each peer in turn. -/
def catchUpWith : List AccountId → SessionM σ η Unit
  | [] => return ()
  | peer :: rest => do
      let session ← get
      let channel := Channel.between session.me peer
      anchor channel
      let _ ← catchUp channel
      catchUpWith rest

/-- Take in a roster and catch up with every peer on it. -/
def receiveRoster (message : Message) : SessionM σ η Routed := do
  let roster ← match readRoster message with
    | .ok roster => pure roster
    | .error cause => throw (.frame cause)
  revise fun list => list.noteRoster roster
  saveConversations
  let peers := roster.map Prod.fst
  emit (.roster peers)
  catchUpWith peers
  return .roster peers.length

/-- Take note of how much history remains. -/
def receiveSync (message : Message) : SessionM σ η Routed := do
  let remaining ← match message.remaining with
    | .ok remaining => pure remaining
    | .error cause => throw (.frame cause)
  let session ← get
  let channel := message.channel session.me
  if remaining = 0 then finishSync channel
  return .syncDone channel

/-- Whether a reply to credentials accepts them: it is empty or says so in ASCII
letters of either case. -/
def accepts (reply : List Char) : Bool :=
  reply.isEmpty || reply.map Char.toLower = ['o', 'k']

/-- Take note of the server's reply to the credentials. -/
def receiveAuth (message : Message) : SessionM σ η Routed := do
  let reply := Blank.trim (Utf8.decodeLossy message.payload).toList
  if accepts reply then
    modify fun session => { session with auth := .authenticated }
    emit .authenticated
    return .auth true
  else
    let reason := String.ofList reply
    modify fun session => { session with auth := .rejected reason }
    emit (.rejected reason)
    return .auth false

/-- Handle a message by its kind. -/
def receiveMessage (message : Message) : SessionM σ η Routed := do
  let kind := message.header.kind
  if kind.isContent then receiveContent message
  else
    match kind with
    | .ack => receiveAck message
    | .box => receiveRoster message
    | .sync => receiveSync message
    | .auth => receiveAuth message
    | .error | .internalError =>
        emit (.serverError kind (Utf8.decodeLossy message.payload))
        return .surfaced kind
    | .beOffline =>
        emit (.offline (Utf8.decodeLossy message.payload))
        return .surfaced kind
    | _ =>
        if kind.isInternal || kind = .na then return .ignored kind
        else
          emit (.notice message)
          return .surfaced kind

/-- Decode a frame and handle its message. -/
def receive (frame : Octets) : SessionM σ η Routed :=
  match Message.decode frame with
  | .ok message => receiveMessage message
  | .error cause => throw (.frame cause)

/-- Take note that the transport went away: every channel may catch up once more. -/
def disconnect : SessionM σ η Unit := do
  track Tracker.rearm
  emit .disconnected

end Messenger.Session
