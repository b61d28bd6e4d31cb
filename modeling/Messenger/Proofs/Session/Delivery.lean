import Messenger.Proofs.Frame.Exactness
import Messenger.Proofs.Session.Dispatch
import Messenger.Transport.Flaky
import Messenger.Transport.Link

/-!
# Outbound messages keep their order

Whatever happens to a link, the frames that it has carried and the frames of the messages
that still wait are those of the submitted messages, in the order of their submission.
Only messages that cannot be written are missing: each of them ends one flush, which
names it as the cause.
-/

namespace Messenger

namespace Message

/-- The frame of a message, if it can be written. -/
def frame? (message : Message) : Option Octets :=
  match message.encode with
  | .ok frame => some frame
  | .error _ => none

/-- Why a message cannot be written, if it cannot. -/
def fault? (message : Message) : Option FrameError :=
  match message.encode with
  | .ok _ => none
  | .error fault => some fault

end Message

/-- The fault of a message that is given as the cause. -/
def SessionError.fault? : SessionError → Option FrameError
  | .frame fault => some fault
  | _ => none

theorem SessionError.fault?_eq_none {cause : SessionError}
    (blameless : ∀ fault, cause ≠ .frame fault) : cause.fault? = none := by
  cases cause with
  | frame fault => exact (blameless fault rfl).elim
  | _ => rfl

namespace Flaky

variable {flaky moved : Flaky Link} {frame : Octets} {cause : SessionError}

/-- A call is either stopped by the script or reaches the link. -/
theorem send_cases (flaky : Flaky Link) (frame : Octets) :
    Transport.send flaky frame = (.error (failure "send"), flaky) ∨
      ∃ sends, Transport.send flaky frame =
        ((flaky.link.send frame).1, { flaky with link := (flaky.link.send frame).2, sends }) := by
  change send flaky frame = _ ∨ ∃ _, send flaky frame = _
  unfold send
  cases use flaky.sends with
  | none => exact .inl rfl
  | some sends => exact .inr ⟨sends, rfl⟩

/-- A sent frame is behind all others that the link has carried. -/
theorem toServer_of_sent (sending : Transport.send flaky frame = (.ok (), moved)) :
    moved.link.toServer = flaky.link.toServer ++ [frame] := by
  rcases send_cases flaky frame with stopped | ⟨sends, reached⟩
  · cases stopped.symm.trans sending
  · obtain ⟨sent, rfl⟩ := Prod.ext_iff.mp (reached.symm.trans sending)
    unfold Link.send at sent ⊢
    cases connection : flaky.link.connection with
    | none =>
        rw [connection] at sent
        cases sent
    | some connection => rfl

/-- A frame that is not sent leaves no trace, and its message is not to blame. -/
theorem of_unsent (sending : Transport.send flaky frame = (.error cause, moved)) :
    moved.link.toServer = flaky.link.toServer ∧ ∀ fault, cause ≠ .frame fault := by
  rcases send_cases flaky frame with stopped | ⟨sends, reached⟩
  · cases stopped.symm.trans sending
    exact ⟨rfl, nofun⟩
  · obtain ⟨refused, rfl⟩ := Prod.ext_iff.mp (reached.symm.trans sending)
    unfold Link.send at refused ⊢
    cases connection : flaky.link.connection with
    | none =>
        rw [connection] at refused
        cases refused
        exact ⟨rfl, nofun⟩
    | some connection =>
        rw [connection] at refused
        cases refused

theorem toServer_connect (flaky : Flaky Link) (address : String) (credentials : Credentials)
    (mode : ConnectMode) :
    (Transport.connect flaky address credentials mode).2.link.toServer =
      flaky.link.toServer := by
  change (connect flaky address credentials mode).2.link.toServer = _
  unfold connect
  cases use flaky.connects <;> rfl

end Flaky

namespace Session

variable {σ η : Type}

/-- Between two states the link has carried the frames of some messages, and nothing else. -/
structure Carries (sent : List Message) (before after : Flaky Link × Session σ η) : Prop where
  written : ∀ message ∈ sent, ∃ frame, message.encode = .ok frame
  toServer : after.1.link.toServer =
    before.1.link.toServer ++ sent.filterMap Message.frame?
  config : after.2.config = before.2.config

/-- How a flush ends that has sent `count` messages before. -/
inductive Flushed (count : Nat) (before : Flaky Link × Session σ η) :
    EStateM.Result SessionError (Flaky Link × Session σ η) Nat → Prop where
  /-- Every message was sent. -/
  | sent {after : Flaky Link × Session σ η} (carries : Carries before.2.outbox before after)
      (emptied : after.2.outbox = []) :
      Flushed count before (.ok (count + before.2.outbox.length) after)
  /-- Every message was sent, but the conversation list could not be stored. -/
  | unlisted {after : Flaky Link × Session σ η} (cause : StoreError)
      (carries : Carries before.2.outbox before after) (emptied : after.2.outbox = []) :
      Flushed count before (.error (.store cause) after)
  /-- A message could not be written, and waits no more. -/
  | dropped {after : Flaky Link × Session σ η} {sent rest : List Message} {message : Message}
      {fault : FrameError} (waited : before.2.outbox = sent ++ message :: rest)
      (unwritable : message.encode = .error fault) (carries : Carries sent before after)
      (wait : after.2.outbox = rest) : Flushed count before (.error (.frame fault) after)
  /-- A message could not be sent.  It waits still, and so do all behind it. -/
  | unsent {after : Flaky Link × Session σ η} {sent rest : List Message} {message : Message}
      {frame : Octets} {cause : SessionError}
      (waited : before.2.outbox = sent ++ message :: rest)
      (written : message.encode = .ok frame) (blameless : ∀ fault, cause ≠ .frame fault)
      (carries : Carries sent before after) (wait : after.2.outbox = message :: rest) :
      Flushed count before (.error cause after)

/-- Whatever was sent can be written. -/
theorem Carries.filterMap_fault? {sent : List Message} {before after : Flaky Link × Session σ η}
    (carries : Carries sent before after) : sent.filterMap Message.fault? = [] := by
  refine List.filterMap_eq_nil_iff.mpr fun message member => ?_
  obtain ⟨frame, written⟩ := carries.written message member
  unfold Message.fault?
  rw [written]

theorem outbox_noteSent (session : Session σ η) (message : Message) :
    (noteSent session message).outbox = session.outbox := by
  unfold noteSent
  split <;> rfl

theorem config_noteSent (session : Session σ η) (message : Message) :
    (noteSent session message).config = session.config := by
  unfold noteSent
  split <;> rfl

variable {link moved : Flaky Link} {session : Session σ η} {message : Message}
  {rest : List Message} {frame : Octets}

/-- A message that was sent comes before the messages that are sent after it. -/
theorem Carries.cons {sent : List Message} {after : Flaky Link × Session σ η}
    (written : message.encode = .ok frame)
    (sending : Transport.send link frame = (.ok (), moved))
    (carries : Carries sent (moved, noteSent { session with outbox := rest } message) after) :
    Carries (message :: sent) (link, session) after where
  written := List.forall_mem_cons.mpr ⟨⟨frame, written⟩, carries.written⟩
  toServer := by
    have spelled : message.frame? = some frame := by
      unfold Message.frame?
      rw [written]
    rw [carries.toServer, Flaky.toServer_of_sent sending, List.filterMap_cons_some spelled,
      List.append_assoc]
    rfl
  config := carries.config.trans (config_noteSent _ _)

/-- After a message was sent, the flush goes on with the rest of the queue. -/
theorem Flushed.cons {count : Nat}
    {result : EStateM.Result SessionError (Flaky Link × Session σ η) Nat}
    (waits : session.outbox = message :: rest) (written : message.encode = .ok frame)
    (sending : Transport.send link frame = (.ok (), moved))
    (flushed : Flushed (count + 1) (moved, noteSent { session with outbox := rest } message)
      result) : Flushed count (link, session) result := by
  have left : (noteSent { session with outbox := rest } message).outbox = rest :=
    outbox_noteSent _ _
  cases flushed with
  | @sent after carries emptied =>
      dsimp only at carries ⊢
      rw [left] at carries ⊢
      have counted : count + 1 + rest.length = count + session.outbox.length := by
        rw [waits, List.length_cons]
        omega
      rw [counted]
      exact .sent (waits ▸ carries.cons written sending) emptied
  | unlisted cause carries emptied =>
      dsimp only at carries
      rw [left] at carries
      exact .unlisted cause (waits ▸ carries.cons written sending) emptied
  | dropped waited unwritable carries wait =>
      dsimp only at waited
      rw [left] at waited
      exact .dropped (waits.trans (congrArg _ waited)) unwritable (carries.cons written sending)
        wait
  | unsent waited stillWritten blameless carries wait =>
      dsimp only at waited
      rw [left] at waited
      exact .unsent (waits.trans (congrArg _ waited)) stillWritten blameless
        (carries.cons written sending) wait

theorem Carries.of_same {before after : Flaky Link × Session σ η}
    (toServer : after.1.link.toServer = before.1.link.toServer)
    (config : after.2.config = before.2.config) : Carries [] before after :=
  ⟨List.forall_mem_nil _, toServer.trans (List.append_nil _).symm, config⟩

theorem flushed_flushQueue (count : Nat) (queue : List Message) (link : Flaky Link)
    (session : Session σ η) (waits : session.outbox = queue) :
    Flushed count (link, session) (flushQueue count queue (link, session)) := by
  induction queue generalizing count link session with
  | nil =>
      have carries : Carries session.outbox (link, session) (link, session) :=
        waits ▸ .of_same rfl rfl
      have done : flushQueue count [] (link, session) =
          .ok (count + session.outbox.length) (link, session) := by
        rw [waits]
        rfl
      rw [done]
      exact .sent carries waits
  | cons message rest ih =>
      cases written : message.encode with
      | error fault =>
          rw [flushQueue_of_unwritable count session written]
          have waited : session.outbox = [] ++ message :: rest := waits
          exact .dropped waited written (.of_same rfl rfl) rfl
      | ok frame =>
          cases sending : Transport.send link frame with
          | mk outcome moved =>
              cases outcome with
              | error cause =>
                  obtain ⟨nothing, blameless⟩ := Flaky.of_unsent sending
                  rw [flushQueue_of_unsent count session written sending]
                  have waited : session.outbox = [] ++ message :: rest := waits
                  exact .unsent waited written blameless (.of_same nothing rfl) waits
              | ok =>
                  rw [flushQueue_of_sent count session written sending]
                  exact (ih (count + 1) moved _ (outbox_noteSent _ _)).cons waits written sending

/-- Storing the conversation list changes nothing but the store, which may refuse it. -/
theorem linked_saveConversations_cases [MessageStore σ] (state : Flaky Link × Session σ η) :
    (∃ store, linked saveConversations state = .ok () (state.1, { state.2 with store })) ∨
      ∃ cause, linked saveConversations state = .error (.store cause) state := by
  unfold linked saveConversations
  dsimp only
  cases state.2.conversations.save state.2.store state.2.me with
  | ok store => exact .inl ⟨store, rfl⟩
  | error cause => exact .inr ⟨cause, rfl⟩

theorem flushed_flush [MessageStore σ] (link : Flaky Link) (session : Session σ η) :
    Flushed 0 (link, session) (flush (link, session)) := by
  have flushed := flushed_flushQueue 0 session.outbox link session rfl
  have flush_eq : flush (link, session) = (flushQueue 0 session.outbox >>= fun sent => do
      if 0 < sent then linked saveConversations
      return sent : LinkedM (Flaky Link) σ η Nat) (link, session) := rfl
  rw [flush_eq]
  generalize sending : flushQueue 0 session.outbox (link, session) = result at flushed
  cases flushed with
  | @sent after carries emptied =>
      rw [bind_of_ok sending]
      split
      · rcases linked_saveConversations_cases after with ⟨store, saved⟩ | ⟨cause, refused⟩
        · rw [bind_of_ok saved]
          exact .sent ⟨carries.written, carries.toServer, carries.config⟩ emptied
        · rw [bind_of_error refused]
          exact .unlisted cause carries emptied
      · exact .sent carries emptied
  | unlisted cause carries emptied =>
      rw [bind_of_error sending]
      exact .unlisted cause carries emptied
  | dropped waited unwritable carries wait =>
      rw [bind_of_error sending]
      exact .dropped waited unwritable carries wait
  | unsent waited written blameless carries wait =>
      rw [bind_of_error sending]
      exact .unsent waited written blameless carries wait

/-- A message waits behind all others, unless as many wait as may wait. -/
theorem submit_eq (message : Message) (session : Session σ η) :
    submit message session =
      if session.config.capacity.toNat ≤ session.outbox.length then
        .error (.bufferFull session.config.capacity.toNat) session
      else .ok () { session with outbox := session.outbox ++ [message] } := by
  unfold submit
  dsimp only [bind, EStateM.bind, get, getThe, MonadStateOf.get, EStateM.get]
  split <;> rfl

/-! ## Runs -/

/-- What can happen between a session and its link. -/
inductive Call where
  | submit (message : Message)
  | flush
  | connect (address : String) (credentials : Credentials) (mode : ConnectMode)
  /-- The server cuts the connection. -/
  | cut
  /-- From now on only so many frames can be sent, or any number. -/
  | limit (sends : Option Nat)
  /-- The server takes the frames that the link has carried. -/
  | take
deriving DecidableEq, Repr

/-- A session and its link, and what has become of the messages. -/
structure Delivery (σ η : Type) where
  link : Flaky Link
  session : Session σ η
  /-- The frames that the server has taken, oldest first. -/
  taken : List Octets := []
  /-- The messages whose submission was accepted, oldest first. -/
  submitted : List Message := []
  /-- What the flushes that could not write a message gave as their cause, oldest first. -/
  faults : List FrameError := []

namespace Delivery

/-- The frames that the link has carried, oldest first. -/
def carried (delivery : Delivery σ η) : List Octets :=
  delivery.taken ++ delivery.link.link.toServer

variable [MessageStore σ]

/-- What a call does. -/
def step (delivery : Delivery σ η) : Call → Delivery σ η
  | .submit message =>
      match Session.submit message delivery.session with
      | .ok () session =>
          { delivery with session, submitted := delivery.submitted ++ [message] }
      | .error _ session => { delivery with session }
  | .flush =>
      match Session.flush (delivery.link, delivery.session) with
      | .ok _ (link, session) => { delivery with link, session }
      | .error cause (link, session) =>
          { delivery with link, session, faults := delivery.faults ++ cause.fault?.toList }
  | .connect address credentials mode =>
      { delivery with link := (Transport.connect delivery.link address credentials mode).2 }
  | .cut => { delivery with link.link := delivery.link.link.cut }
  | .limit sends => { delivery with link.sends := sends }
  | .take =>
      let (frames, link) := delivery.link.link.takeSent
      { delivery with taken := delivery.taken ++ frames, link.link := link }

/-- What calls do, one after the other. -/
def run (delivery : Delivery σ η) (calls : List Call) : Delivery σ η :=
  calls.foldl step delivery

/-- The submitted messages are settled or wait, in this order, and there is room for those that
wait.  Of the settled messages the link has carried the frames, behind all that it had carried
before, and the flushes have named the others. -/
structure InOrder (config : SessionConfig) (before : List Octets) (delivery : Delivery σ η) :
    Prop where
  settled : ∃ settled, delivery.submitted = settled ++ delivery.session.outbox ∧
    delivery.carried = before ++ settled.filterMap Message.frame? ∧
    delivery.faults = settled.filterMap Message.fault?
  room : delivery.session.outbox.length ≤ config.capacity.toNat
  config_eq : delivery.session.config = config

namespace InOrder

variable {config : SessionConfig} {before : List Octets} {delivery after : Delivery σ η}

omit [MessageStore σ] in
/-- The oldest messages that wait are settled. -/
theorem settle {gone : List Message} (inOrder : delivery.InOrder config before)
    (outbox : delivery.session.outbox = gone ++ after.session.outbox)
    (submitted : after.submitted = delivery.submitted)
    (carried : after.carried = delivery.carried ++ gone.filterMap Message.frame?)
    (faults : after.faults = delivery.faults ++ gone.filterMap Message.fault?)
    (sameConfig : after.session.config = delivery.session.config) :
    after.InOrder config before := by
  obtain ⟨settled, split, frames, named⟩ := inOrder.settled
  refine ⟨⟨settled ++ gone, ?_, ?_, ?_⟩, ?_, sameConfig.trans inOrder.config_eq⟩
  · rw [submitted, split, outbox, List.append_assoc]
  · rw [carried, frames, List.filterMap_append, List.append_assoc]
  · rw [faults, named, List.filterMap_append]
  · have room := inOrder.room
    rw [outbox, List.length_append] at room
    omega

omit [MessageStore σ] in
/-- What happens to the link alone settles nothing. -/
theorem relink (inOrder : delivery.InOrder config before)
    (session : after.session = delivery.session)
    (submitted : after.submitted = delivery.submitted) (faults : after.faults = delivery.faults)
    (carried : after.carried = delivery.carried) : after.InOrder config before := by
  have outbox : delivery.session.outbox = [] ++ after.session.outbox := session ▸ rfl
  refine inOrder.settle outbox submitted ?_ ?_ (session ▸ rfl)
  · rw [carried]
    exact (List.append_nil _).symm
  · rw [faults]
    exact (List.append_nil _).symm

theorem submit (inOrder : delivery.InOrder config before) (message : Message) :
    (delivery.step (.submit message)).InOrder config before := by
  obtain ⟨settled, split, frames, named⟩ := inOrder.settled
  unfold Delivery.step
  dsimp only
  rw [submit_eq]
  by_cases full : delivery.session.config.capacity.toNat ≤ delivery.session.outbox.length
  · rw [if_pos full]
    exact inOrder
  · rw [if_neg full]
    refine ⟨⟨settled, ?_, frames, named⟩, ?_, inOrder.config_eq⟩
    · change delivery.submitted ++ [message] = settled ++ (delivery.session.outbox ++ [message])
      rw [split, List.append_assoc]
    · rw [inOrder.config_eq] at full
      change (delivery.session.outbox ++ [message]).length ≤ _
      rw [List.length_append, List.length_singleton]
      omega

omit [MessageStore σ] in
/-- What a flush has sent is settled. -/
theorem settle_sent {sent : List Message} {state : Flaky Link × Session σ η}
    (inOrder : delivery.InOrder config before)
    (carries : Carries sent (delivery.link, delivery.session) state)
    (waited : delivery.session.outbox = sent ++ state.2.outbox) :
    InOrder config before { delivery with link := state.1, session := state.2 } := by
  refine inOrder.settle waited rfl ?_ ?_ carries.config
  · unfold carried
    rw [carries.toServer, List.append_assoc]
  · rw [carries.filterMap_fault?, List.append_nil]

omit [MessageStore σ] in
/-- So is the message that it could not write. -/
theorem settle_dropped {sent : List Message} {message : Message} {fault : FrameError}
    {state : Flaky Link × Session σ η} (inOrder : delivery.InOrder config before)
    (carries : Carries sent (delivery.link, delivery.session) state)
    (waited : delivery.session.outbox = sent ++ message :: state.2.outbox)
    (unwritable : message.encode = .error fault) :
    InOrder config before
      { delivery with
        link := state.1
        session := state.2
        faults := delivery.faults ++ [fault] } := by
  have noFrame : message.frame? = none := by
    unfold Message.frame?
    rw [unwritable]
  have named : message.fault? = some fault := by
    unfold Message.fault?
    rw [unwritable]
  have outbox : delivery.session.outbox = (sent ++ [message]) ++ state.2.outbox := by
    rw [waited, List.append_assoc]
    rfl
  refine inOrder.settle outbox rfl ?_ ?_ carries.config
  · unfold carried
    rw [carries.toServer, List.filterMap_append, List.filterMap_cons_none noFrame,
      List.append_assoc]
    exact congrArg _ (congrArg _ (List.append_nil _).symm)
  · rw [List.filterMap_append, carries.filterMap_fault?, List.filterMap_cons_some named]
    rfl

theorem flush (inOrder : delivery.InOrder config before) :
    (delivery.step .flush).InOrder config before := by
  have flushed := flushed_flush delivery.link delivery.session
  unfold Delivery.step
  dsimp only
  generalize Session.flush (delivery.link, delivery.session) = result at flushed ⊢
  cases flushed with
  | sent carries emptied =>
      exact inOrder.settle_sent carries (by rw [emptied, List.append_nil])
  | unlisted cause carries emptied =>
      have unnamed : delivery.faults ++ (SessionError.store cause).fault?.toList =
          delivery.faults := List.append_nil _
      dsimp only
      rw [unnamed]
      exact inOrder.settle_sent carries (by rw [emptied, List.append_nil])
  | dropped waited unwritable carries wait =>
      exact inOrder.settle_dropped carries (wait.symm ▸ waited) unwritable
  | @unsent _ _ _ _ _ cause waited written blameless carries wait =>
      dsimp only
      rw [SessionError.fault?_eq_none blameless, Option.toList_none, List.append_nil]
      exact inOrder.settle_sent carries (wait.symm ▸ waited)

theorem step (inOrder : delivery.InOrder config before) (call : Call) :
    (delivery.step call).InOrder config before := by
  cases call with
  | submit message => exact inOrder.submit message
  | flush => exact inOrder.flush
  | connect address credentials mode =>
      exact inOrder.relink rfl rfl rfl
        (congrArg (delivery.taken ++ ·) (Flaky.toServer_connect ..))
  | cut => exact inOrder.relink rfl rfl rfl rfl
  | limit sends => exact inOrder.relink rfl rfl rfl rfl
  | take => exact inOrder.relink rfl rfl rfl (List.append_nil _)

theorem run (inOrder : delivery.InOrder config before) (calls : List Call) :
    (delivery.run calls).InOrder config before := by
  induction calls generalizing delivery with
  | nil => exact inOrder
  | cons call rest ih => exact ih (inOrder.step call)

end InOrder

end Delivery

/-- From an empty queue on, whatever happens to a session and its link: the frames that the link
has carried and the frames of the messages that wait are those of the submitted messages in their
order; every message that cannot be written is dropped by one flush, which gives its fault as the
cause; no more messages wait than may wait; a refused submission changes nothing, and a flush
leaves exactly the messages behind the last one that it sent or dropped. -/
theorem delivered_in_order [MessageStore σ] {session : Session σ η} (idle : session.outbox = [])
    (link : Flaky Link) (calls : List Call) :
    let delivery := Delivery.run { link, session } calls
    (∃ settled, delivery.submitted = settled ++ delivery.session.outbox ∧
        delivery.carried = link.link.toServer ++ settled.filterMap Message.frame? ∧
        delivery.faults = settled.filterMap Message.fault?) ∧
      delivery.carried ++ delivery.session.outbox.filterMap Message.frame? =
        link.link.toServer ++ delivery.submitted.filterMap Message.frame? ∧
      delivery.session.outbox.length ≤ session.config.capacity.toNat ∧
      (∀ message cause left, submit message delivery.session = .error cause left →
        left = delivery.session) ∧
      Flushed 0 (delivery.link, delivery.session) (flush (delivery.link, delivery.session)) := by
  intro delivery
  have initially : Delivery.InOrder session.config link.link.toServer { link, session } := by
    refine ⟨⟨[], ?_, ?_, rfl⟩, ?_, rfl⟩
    · exact idle.symm
    · exact (List.append_nil _).symm
    · rw [idle]
      exact Nat.zero_le _
  have inOrder : delivery.InOrder session.config link.link.toServer := initially.run calls
  refine ⟨inOrder.settled, ?_, inOrder.room, ?_, flushed_flush ..⟩
  · obtain ⟨settled, split, frames, -⟩ := inOrder.settled
    rw [frames, split, List.filterMap_append, List.append_assoc]
  · intro message cause left refused
    rw [submit_eq] at refused
    split at refused
    · cases refused
      rfl
    · cases refused

/-- A text whose header declares an octet that it does not have. -/
def unwritableText : Message :=
  let text := Message.bareText 1 2 0 1001
  { text with header := { text.header with payloadLength := 1 } }

/-- Two texts are sent around one that cannot be written, a third one waits behind a failed send,
and a fourth one found no room. -/
theorem delivered_around_unwritable :
    let session : Session MemoryStore Unit := start 1 ⟨2, 8, {}⟩ MemoryStore.empty ()
    let first := Message.bareText 1 2 0 1000
    let second := Message.bareText 1 2 0 1002
    let third := Message.bareText 1 2 0 1003
    let calls : List Call :=
      [.submit first, .submit unwritableText, .submit third, .flush,
        .connect "address" ⟨1, "token"⟩ .tcp, .flush, .submit second, .submit third,
        .limit (some 1), .flush, .cut]
    let delivery := Delivery.run { link := { link := {} }, session } calls
    session.outbox = [] ∧ delivery.session.outbox = [third] ∧
      delivery.faults = [.lengthMismatch .payload 1 0] ∧
      delivery.submitted = [first, unwritableText, second, third] ∧
      delivery.carried = [first.spelling, second.spelling] := by
  intro session first second third calls delivery
  have idle : session.outbox = [] := rfl
  have waits : delivery.session.outbox = [third] := by decide +kernel
  have faults : delivery.faults = [.lengthMismatch .payload 1 0] := by decide +kernel
  have submitted : delivery.submitted = [first, unwritableText, second, third] := by decide +kernel
  have whole : delivery.carried ++ delivery.session.outbox.filterMap Message.frame? =
      [] ++ delivery.submitted.filterMap Message.frame? :=
    (delivered_in_order idle { link := {} } calls).2.1
  have frames : [first, unwritableText, second, third].filterMap Message.frame? =
      [first.spelling, second.spelling] ++ [third].filterMap Message.frame? := by decide +kernel
  rw [waits, submitted, List.nil_append, frames] at whole
  exact ⟨idle, waits, faults, submitted, List.append_cancel_right whole⟩

end Session

end Messenger
