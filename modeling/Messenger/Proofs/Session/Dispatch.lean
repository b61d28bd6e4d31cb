import Messenger.Proofs.Session.Backing
import Messenger.Proofs.Timeline.Waiting
import Messenger.Session.Outbound

/-!
# What a flush puts into the timelines

A flush sends the messages that wait, up to the first one that cannot be written or
sent.  Whether it answers or fails, the content among the sent messages is inserted
into the timeline of its channel, in the order in which it was sent.
-/

namespace Messenger.Session

variable {τ σ η : Type} [Transport τ]

/-- The messages of a queue that are sent over a transport: all up to the first one that cannot
be written or sent. -/
def dispatched (link : τ) : List Message → List Message
  | [] => []
  | message :: rest =>
      match message.encode with
      | .error _ => []
      | .ok frame =>
          match Transport.send link frame with
          | (.ok (), link) => message :: dispatched link rest
          | (.error _, _) => []

/-- The content of a channel of `me` among messages. -/
def contentOf (me : AccountId) (channel : Channel) (messages : List Message) : List Message :=
  messages.filter fun message =>
    message.header.kind.isContent && message.channel me = channel

omit [Transport τ] in
theorem me_noteSent (session : Session σ η) (message : Message) :
    (noteSent session message).me = session.me := by
  unfold noteSent
  split <;> rfl

omit [Transport τ] in
/-- Sent content is inserted into the timeline of its channel. -/
theorem timeline_noteSent (session : Session σ η) (message : Message) (channel : Channel) :
    (noteSent session message).timeline channel =
      if message.header.kind.isContent && message.channel session.me = channel then
        ((session.timeline channel).insert message).2
      else session.timeline channel := by
  cases content : message.header.kind.isContent with
  | false =>
      unfold noteSent
      rw [content]
      rfl
  | true =>
      have placed := timeline_setTimeline session (message.channel session.me) channel
        ((session.timeline (message.channel session.me)).insert message).2
      unfold noteSent
      rw [if_pos content]
      refine placed.trans ?_
      by_cases here : channel = message.channel session.me
      · subst here
        simp
      · rw [if_neg here, if_neg]
        simpa using fun same => here same.symm

/-! ## One message of the queue -/

section Queue

variable {message : Message} {rest : List Message} {link moved : τ} {frame : Octets}
  {cause : SessionError}

theorem transmit_of_sent (session : Session σ η)
    (sending : Transport.send link frame = (.ok (), moved)) :
    transmit frame (link, session) = .ok () (moved, session) := by
  unfold transmit
  dsimp only
  rw [sending]

theorem transmit_of_unsent (session : Session σ η)
    (sending : Transport.send link frame = (.error cause, moved)) :
    transmit frame (link, session) = .error cause (moved, session) := by
  unfold transmit
  dsimp only
  rw [sending]

theorem flushQueue_of_sent (sent : Nat) (session : Session σ η)
    (encoded : message.encode = .ok frame)
    (sending : Transport.send link frame = (.ok (), moved)) :
    flushQueue sent (message :: rest) (link, session) =
      flushQueue (sent + 1) rest (moved, noteSent { session with outbox := rest } message) := by
  rw [flushQueue]
  simp only [encoded]
  rw [bind_of_ok (transmit_of_sent session sending)]
  rfl

theorem flushQueue_of_unsent (sent : Nat) (session : Session σ η)
    (encoded : message.encode = .ok frame)
    (sending : Transport.send link frame = (.error cause, moved)) :
    flushQueue sent (message :: rest) (link, session) = .error cause (moved, session) := by
  rw [flushQueue]
  simp only [encoded]
  exact bind_of_error (transmit_of_unsent session sending) _

theorem flushQueue_of_unwritable {cause : FrameError} (sent : Nat) (session : Session σ η)
    (refused : message.encode = .error cause) :
    flushQueue sent (message :: rest) (link, session) =
      .error (.frame cause) (link, { session with outbox := rest }) := by
  rw [flushQueue]
  simp only [refused]
  rfl

end Queue

/-! ## The timelines after a flush -/

/-- The messages that are sent, by what happens to the first one. -/
theorem dispatched_cons (link : τ) (message : Message) (rest : List Message) :
    dispatched link (message :: rest) =
      match message.encode with
      | .error _ => []
      | .ok frame =>
          match Transport.send link frame with
          | (.ok (), moved) => message :: dispatched moved rest
          | (.error _, _) => [] :=
  rfl

theorem timeline_flushQueue (sent : Nat) (queue : List Message) (link : τ) (session : Session σ η)
    (channel : Channel) :
    (leaves (flushQueue sent queue) (link, session)).2.timeline channel =
      (session.timeline channel).insertAll
        (contentOf session.me channel (dispatched link queue)) := by
  induction queue generalizing sent link session with
  | nil => rfl
  | cons message rest ih =>
      rw [dispatched_cons]
      cases encoded : message.encode with
      | error cause =>
          rw [leaves_of_error (flushQueue_of_unwritable sent session encoded)]
          rfl
      | ok frame =>
          dsimp only
          cases sending : Transport.send link frame with
          | mk outcome moved =>
              cases outcome with
              | error cause =>
                  rw [leaves_of_error (flushQueue_of_unsent sent session encoded sending)]
                  rfl
              | ok =>
                  unfold leaves
                  rw [flushQueue_of_sent sent session encoded sending]
                  change (leaves (flushQueue (sent + 1) rest)
                    (moved, noteSent { session with outbox := rest } message)).2.timeline
                      channel = _
                  rw [ih, timeline_noteSent, me_noteSent]
                  unfold contentOf
                  rw [List.filter_cons]
                  split <;> rfl

/-- A flush inserts the sent content of a channel into its timeline. -/
theorem timeline_flush [MessageStore σ] (link : τ) (session : Session σ η) (channel : Channel) :
    (leaves flush (link, session)).2.timeline channel =
      (session.timeline channel).insertAll
        (contentOf session.me channel (dispatched link session.outbox)) := by
  have saves : ∀ state : τ × Session σ η,
      (leaves (linked saveConversations) state).2.timelines = state.2.timelines := by
    intro state
    unfold leaves linked saveConversations
    dsimp only
    cases state.2.conversations.save state.2.store state.2.me <;> rfl
  have kept : (leaves flush (link, session)).2.timelines =
      (leaves (flushQueue 0 session.outbox) (link, session)).2.timelines := by
    cases sending : flushQueue 0 session.outbox (link, session) with
    | error cause left =>
        have failed : flush (link, session) = .error cause left := bind_of_error sending _
        rw [leaves_of_error failed, leaves_of_error sending]
    | ok sent left =>
        have goesOn : leaves flush (link, session) =
            leaves (do
              if 0 < sent then linked saveConversations
              return sent : LinkedM τ σ η Nat) left := leaves_bind_of_ok sending _
        rw [goesOn, leaves_of_ok sending]
        split
        · rw [leaves_bind_pure, saves]
        · rfl
  rw [← timeline_flushQueue 0]
  unfold Session.timeline
  rw [kept]

end Messenger.Session
