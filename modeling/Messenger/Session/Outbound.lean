import Messenger.Session.Basic
import Messenger.Transport.Basic

/-!
# Outbound messages

Messages wait in submission order and are sent in this order.  Sent content is
pending in its channel until the server confirms it.  A message that cannot be
sent keeps its place; one that cannot be written as a frame loses it.
-/

namespace Messenger.Session

variable {τ σ η : Type}

/-- Queue a message, unless as many wait as may wait. -/
def submit (message : Message) : SessionM σ η Unit := do
  let session ← get
  if session.config.capacity.toNat ≤ session.outbox.length then
    throw (.bufferFull session.config.capacity.toNat)
  set { session with outbox := session.outbox ++ [message] }

/-- Take note of a sent message: content becomes a pending entry of its channel and
the latest message of its conversation. -/
def noteSent (session : Session σ η) (message : Message) : Session σ η :=
  if message.header.kind.isContent then
    let channel := message.channel session.me
    let timeline := ((session.timeline channel).insert message).2
    { session.setTimeline channel timeline with
      conversations :=
        session.conversations.noteMessage (message.peer session.me) message false }
  else session

/-- A request to a session and its transport together. -/
abbrev LinkedM (τ σ η : Type) := EStateM SessionError (τ × Session σ η)

/-- A request to the session alone. -/
def linked {α : Type} (request : SessionM σ η α) : LinkedM τ σ η α := fun (link, session) =>
  match request session with
  | .ok answer session => .ok answer (link, session)
  | .error cause session => .error cause (link, session)

/-- Send a frame over the transport. -/
def transmit [Transport τ] (frame : Octets) : LinkedM τ σ η Unit := fun (link, session) =>
  match Transport.send link frame with
  | (.ok (), link) => .ok () (link, session)
  | (.error cause, link) => .error cause (link, session)

variable [Transport τ] [MessageStore σ]

/-- Send the given messages, which are the ones that wait; the result counts the
messages sent after `sent`. -/
def flushQueue (sent : Nat) : List Message → LinkedM τ σ η Nat
  | [] => return sent
  | message :: rest => do
      match message.encode with
      | .error cause =>
          modify fun (link, session) => (link, { session with outbox := rest })
          throw (.frame cause)
      | .ok frame =>
          transmit frame
          modify fun (link, session) => (link, noteSent { session with outbox := rest } message)
          flushQueue (sent + 1) rest

/-- Send the messages that wait; the result counts them. -/
def flush : LinkedM τ σ η Nat := do
  let (_, session) ← get
  let sent ← flushQueue 0 session.outbox
  if 0 < sent then linked saveConversations
  return sent

end Messenger.Session
