import Messenger.Proofs.Frame.Exactness
import Messenger.Proofs.Session.Arrival
import Messenger.Proofs.Session.Dispatch

/-!
# Sent messages and their acknowledgements

An acknowledgement takes effect exactly if a copy of the message waits in the
timeline of its channel.  A flush puts the copy there unless its insertion is taken
for a duplicate, and no other frame takes it away.
-/

namespace Messenger

/-- A message acknowledges another one: it names its parties and the time at which it was
minted. -/
structure Message.Acknowledges (ack message : Message) : Prop where
  kind : ack.header.kind = .ack
  sender : ack.header.sender = message.header.sender
  receiver : ack.header.receiver = message.header.receiver
  minted : ack.mintedTimestamp = .ok message.header.timestamp

theorem Message.Acknowledges.channel_eq {ack message : Message}
    (acknowledges : ack.Acknowledges message) (me : AccountId) :
    ack.channel me = message.channel me := by
  unfold Message.channel Message.resolvedReceiver
  rw [acknowledges.sender, acknowledges.receiver]

namespace Session

variable {η : Type} {message ack : Message} {frame : Octets} {seq : UInt64}

/-! ## Inbound frames take no copy away -/

section Inbound

variable {σ : Type} [MessageStore σ]

/-- How many copies of a message wait in a channel. -/
def copies (session : Session σ η) (channel : Channel) (message : Message) : Nat :=
  (session.timeline channel).copies message

/-- A change that takes no copy of a message away. -/
def KeepsCopies (channel : Channel) (message : Message) (before after : Session σ η) : Prop :=
  before.copies channel message ≤ after.copies channel message

theorem Intake.keepsCopies {before after : Session σ η} (intake : Intake before after)
    (channel : Channel) (message : Message) : KeepsCopies channel message before after := by
  have inserted : ∀ (place : Channel) (arriving : Message),
      before.copies channel message ≤ ((before.setTimeline place
        ((before.timeline place).insert arriving).2).timeline channel).copies message := by
    intro place arriving
    rw [timeline_setTimeline]
    split
    · next here => exact here ▸ Timeline.copies_le_insert ..
    · exact Nat.le_refl _
  cases intake with
  | @sync place _ _ change =>
      cases change with
      | placed => exact inserted place _
      | repeated => exact inserted place _
      | merged => exact inserted place _
      | unsaved => exact inserted place _
      | _ => exact Nat.le_refl _
  | _ => exact Nat.le_refl _

theorem keepsCopies_receiveAck (session : Session σ η) (channel : Channel)
    (kind : ack.header.kind = .ack) (other : ¬ack.Acknowledges message) :
    Follows (KeepsCopies channel message) (receiveAck ack) session := by
  have confirmed : ∀ {minted : UInt64} {entry : Option Message} {timeline : Timeline},
      ack.mintedTimestamp = .ok minted →
      (session.timeline (ack.channel session.me)).confirm ack.header.sender ack.header.receiver
        minted ack.header.seq ack.header.timestamp = (entry, timeline) →
      session.copies channel message ≤
        ((session.setTimeline (ack.channel session.me) timeline).timeline channel).copies
          message := by
    intro minted entry timeline read confirms
    rw [timeline_setTimeline]
    split
    · next here =>
        rw [here, ← show _ = timeline from congrArg Prod.snd confirms]
        refine Timeline.copies_le_confirm fun same => other ⟨kind, ?_, ?_, ?_⟩
        · exact same.1.symm
        · exact same.2.1.symm
        · exact same.2.2.symm ▸ read
    · exact Nat.le_refl _
  have intakes : ∀ before after : Session σ η, Intake before after →
      KeepsCopies channel message before after := fun _ _ intake =>
    intake.keepsCopies channel message
  exact .receiveAck (fun read confirms _ => confirmed read confirms)
    (fun read confirms _ _ => confirmed read confirms) (fun _ _ => Stores.of_intake intakes _)
    fun event middle => (follows_tell middle event).mono intakes

variable [HistorySource η]

/-- A frame that is no acknowledgement of a message takes no copy of it away. -/
theorem copies_le_receive (session : Session σ η) (channel : Channel)
    (others : ∀ ack, Message.decode frame = .ok ack → ¬ack.Acknowledges message) :
    session.copies channel message ≤ (leaves (receive frame) session).copies channel message := by
  have run : Follows (KeepsCopies channel message) (receive frame) session := by
    apply Follows.receive
    intro arriving decoded
    by_cases kind : arriving.header.kind = .ack
    · rw [receiveMessage_of_ack kind]
      exact keepsCopies_receiveAck session channel kind (others arriving decoded)
    · exact (follows_receiveMessage session kind).mono fun _ _ intake =>
        intake.keepsCopies channel message
  exact preserved_run (P := KeepsCopies channel message session)
    (fun _ _ kept le => Nat.le_trans le kept) run (Nat.le_refl _)

/-- The session that frames leave, one after the other. -/
def receiveAll (session : Session σ η) (frames : List Octets) : Session σ η :=
  frames.foldl (fun session frame => leaves (receive frame) session) session

theorem copies_le_receiveAll (session : Session σ η) (channel : Channel) {frames : List Octets}
    (others : ∀ frame ∈ frames, ∀ ack, Message.decode frame = .ok ack →
      ¬ack.Acknowledges message) :
    session.copies channel message ≤ (session.receiveAll frames).copies channel message := by
  induction frames generalizing session with
  | nil => exact Nat.le_refl _
  | cons frame rest ih =>
      have first := copies_le_receive session channel (others frame List.mem_cons_self)
      exact Nat.le_trans first
        (ih _ fun later behind => others later (List.mem_cons_of_mem frame behind))

theorem later_receiveAll (submits : Message → Prop) (session : Session σ η)
    (frames : List Octets) : Later submits session (session.receiveAll frames) := by
  induction frames generalizing session with
  | nil => exact .refl
  | cons frame rest ih => exact .head (.receive session frame) (ih _)

end Inbound

/-! ## One acknowledgement -/

section Memory

variable {session : Session MemoryStore η}

theorem announceConfirmed_eq_ok (session middle : Session MemoryStore η) (ack entry : Message)
    (minted : UInt64) :
    ∃ after, announceConfirmed session ack entry minted middle =
        .ok (.ack (ack.channel session.me) true) after ∧
      after.timelines = middle.timelines ∧ middle.store.Within after.store ∧
      after.tracker = middle.tracker ∧ after.events = middle.events ++
        [.confirmed (ack.channel session.me) entry.header.seq minted] :=
  ⟨_, rfl, rfl, .refl _, rfl, rfl⟩

/-- An acknowledgement of a message that waits is kept, and takes one copy away. -/
theorem receiveAck_of_copies (acknowledges : ack.Acknowledges message)
    (numbered : ack.seq? = some seq)
    (waits : 0 < session.copies (message.channel session.me) message) :
    ∃ after, receiveAck ack session = .ok (.ack (message.channel session.me) true) after ∧
      after.Keeps (message.channel session.me) seq ∧
      after.copies (message.channel session.me) message + 1 =
        session.copies (message.channel session.me) message := by
  obtain ⟨rfl, nonzero⟩ := Message.seq?_eq_some_iff.mp numbered
  obtain ⟨entry, timeline, confirms, entrySeq, listed, taken⟩ :=
    Timeline.confirm_of_copies ack.header.timestamp waits nonzero
  rw [← acknowledges.channel_eq session.me] at confirms taken ⊢
  rw [← acknowledges.sender, ← acknowledges.receiver] at confirms
  obtain ⟨outcome, store, saved, -, held⟩ :=
    session.store.save_of_numbered (ack.channel session.me) entrySeq
  obtain ⟨after, announced, timelines, within, -⟩ := announceConfirmed_eq_ok session
    { session.setTimeline (ack.channel session.me) timeline with
      store
      tracker := (session.tracker.arrive (ack.channel session.me) entry.header.seq).2 }
    ack entry message.header.timestamp
  have placed : after.timeline (ack.channel session.me) = timeline := by
    have same := timeline_setTimeline_self session (ack.channel session.me) timeline
    unfold Session.timeline at same ⊢
    rw [timelines]
    exact same
  have done := (receiveAck_of_saved session acknowledges.minted confirms saved).trans announced
  refine ⟨after, done, ?_⟩
  unfold Keeps copies
  rw [placed]
  exact ⟨⟨listed, held.mono within⟩, taken⟩

/-- A frame that acknowledges a message of which no copy waits changes nothing. -/
theorem receive_ack_of_no_copies [HistorySource η] (session : Session MemoryStore η)
    (decoded : Message.decode frame = .ok ack) (acknowledges : ack.Acknowledges message)
    (none : session.copies (message.channel session.me) message = 0) :
    receive frame session = .ok (.ack (message.channel session.me) false) session := by
  have confirms := Timeline.confirm_of_no_copies ack.header.seq ack.header.timestamp none
  rw [← acknowledges.channel_eq session.me, ← acknowledges.sender,
    ← acknowledges.receiver] at confirms
  rw [receive_of_decoded decoded, receiveMessage_of_ack acknowledges.kind,
    receiveAck_of_none session acknowledges.minted confirms, acknowledges.channel_eq]

/-- A frame that acknowledges a message takes effect exactly if a copy of the message waits, and
no copy is left exactly if it was the only one. -/
theorem receive_ack_iff [HistorySource η] (session : Session MemoryStore η)
    (decoded : Message.decode frame = .ok ack)
    (acknowledges : ack.Acknowledges message) (numbered : ack.seq? = some seq) :
    (∃ after, receive frame session = .ok (.ack (message.channel session.me) true) after ∧
        after.Keeps (message.channel session.me) seq ∧
        after.copies (message.channel session.me) message = 0) ↔
      session.copies (message.channel session.me) message = 1 := by
  rcases Nat.eq_zero_or_pos (session.copies (message.channel session.me) message) with
    none | waits
  · rw [receive_ack_of_no_copies session decoded acknowledges none, none]
    apply iff_of_false
    · rintro ⟨_, unnoticed, -⟩
      exact nomatch (Routed.ack.inj (EStateM.Result.ok.inj unnoticed).1).2
    · exact Nat.zero_ne_one
  · obtain ⟨after, done, keeps, taken⟩ := receiveAck_of_copies acknowledges numbered waits
    rw [receive_of_decoded decoded, receiveMessage_of_ack acknowledges.kind, done, ← taken]
    constructor
    · rintro ⟨_, same, -, left⟩
      cases same
      exact congrArg (· + 1) left
    · intro one
      exact ⟨after, rfl, keeps, Nat.succ.inj one⟩

end Memory

/-! ## From a flush to the acknowledgement -/

/-- A sent message is acknowledged, whatever frames came before that do not acknowledge it,
exactly if one copy of it waits then.  The flush adds a copy exactly if the insertion of the
message was not taken for a duplicate, and the frames before take no copy away. -/
theorem acknowledged_iff_one_copy {τ : Type} [Transport τ] [HistorySource η]
    {session : Session MemoryStore η} {link : τ} {earlier later : List Message}
    {frames : List Octets}
    (sent : dispatched link session.outbox = earlier ++ message :: later)
    (content : message.header.kind.isContent = true) (unnumbered : message.seq? = none)
    (distinct : ∀ other ∈ earlier ++ later,
      (other.header.receiver, other.header.timestamp) ≠
        (message.header.receiver, message.header.timestamp))
    (others : ∀ frame ∈ frames, ∀ other, Message.decode frame = .ok other →
      ¬other.Acknowledges message)
    (decoded : Message.decode frame = .ok ack) (acknowledges : ack.Acknowledges message)
    (numbered : ack.seq? = some seq) :
    let channel := message.channel session.me
    let flushed := (leaves flush (link, session)).2
    let arrived := flushed.receiveAll frames
    let placed := (session.timeline channel).insertAll (contentOf session.me channel earlier)
    ((∃ after, receive frame arrived = .ok (.ack channel true) after ∧
        after.Keeps channel seq ∧ after.copies channel message = 0) ↔
      arrived.copies channel message = 1) ∧
    flushed.copies channel message = session.copies channel message +
      (if (placed.insert message).1.isNew then 1 else 0) ∧
    flushed.copies channel message ≤ arrived.copies channel message := by
  intro channel flushed arrived placed
  have sameAccount : arrived.me = session.me := by
    have later : Later (fun _ => False) session arrived :=
      .head (.flush session link) (later_receiveAll _ flushed frames)
    exact later.preserves (fun _ _ change same => change.me_eq.trans same) rfl
  refine ⟨?_, ?_, copies_le_receiveAll flushed channel others⟩
  · have effect := receive_ack_iff arrived decoded acknowledges numbered
    rw [sameAccount] at effect
    exact effect
  · have content : contentOf session.me channel (earlier ++ message :: later) =
        contentOf session.me channel earlier ++
          message :: contentOf session.me channel later := by
      unfold contentOf
      rw [List.filter_append, List.filter_cons_of_pos (by simp [content, channel])]
    have unlike : ∀ other ∈ contentOf session.me channel earlier ++
        contentOf session.me channel later, Timeline.awaits message.header.sender
          message.header.receiver message.header.timestamp other = false := by
      intro other member
      have among : other ∈ earlier ++ later := by
        unfold contentOf at member
        rw [← List.filter_append] at member
        exact (List.mem_filter.mp member).1
      rw [← Bool.not_eq_true, Timeline.awaits_eq_true_iff]
      rintro ⟨-, -, receiver, timestamp⟩
      exact distinct other among (Prod.ext receiver timestamp)
    unfold copies
    rw [timeline_flush, sent, content]
    exact Timeline.copies_insertAll_between _ unnumbered unlike

/-- A session of account 1 that has taken in a text of account 2 of some time, and is about to
send a text of time 1000. -/
def aboutToSend (time : UInt64) : Session MemoryStore Silence :=
  let fresh : Session MemoryStore Silence := start 1 ⟨8, 8, {}⟩ MemoryStore.empty Silence.silence
  leaves (submit (.bareText 1 2 0 1000))
    (leaves (receive (Message.bareText 2 1 1 time).spelling) fresh)

theorem reachable_aboutToSend (time : UInt64) :
    Reachable (· = .bareText 1 2 0 1000) (aboutToSend time) := by
  unfold aboutToSend
  refine .submit (.receive (.start 1 ⟨8, 8, {}⟩ MemoryStore.empty Silence.silence) _) ?_
  rfl

/-- A transport that is connected. -/
def connected : Link :=
  { connection := some ⟨"", 1, .tcp⟩ }

/-- The acknowledgement of the text of time 1000, under the number 3. -/
def textAck : Message where
  header := { (Message.bareText 1 2 3 1005).header with kind := .ack, payloadLength := 4 }
  payload := [49, 48, 48, 48]
  extension := []

theorem decode_textAck : Message.decode textAck.spelling = .ok textAck := by
  decide +kernel

theorem textAck_acknowledges : textAck.Acknowledges (.bareText 1 2 0 1000) := by
  constructor <;> decide +kernel

/-- After a text of time 900 and before one of time 2000, the text of time 1000 is
acknowledged. -/
theorem acknowledged_between_texts :
    dispatched connected (aboutToSend 900).outbox = [.bareText 1 2 0 1000] ∧
      ∃ after, receive textAck.spelling
          ((leaves flush (connected, aboutToSend 900)).2.receiveAll
            [(Message.bareText 2 1 2 2000).spelling]) = .ok (.ack ⟨1, 2⟩ true) after ∧
        after.Keeps ⟨1, 2⟩ 3 ∧ after.copies ⟨1, 2⟩ (.bareText 1 2 0 1000) = 0 := by
  have sent : dispatched connected (aboutToSend 900).outbox =
      [] ++ .bareText 1 2 0 1000 :: [] := by decide +kernel
  have others : ∀ frame ∈ [(Message.bareText 2 1 2 2000).spelling], ∀ other,
      Message.decode frame = .ok other → ¬other.Acknowledges (.bareText 1 2 0 1000) := by
    intro frame member other decoded acknowledges
    rw [List.mem_singleton.mp member] at decoded
    have text : Message.decode (Message.bareText 2 1 2 2000).spelling =
        .ok (.bareText 2 1 2 2000) := by decide +kernel
    cases text.symm.trans decoded
    cases acknowledges.kind
  have one : ((leaves flush (connected, aboutToSend 900)).2.receiveAll
      [(Message.bareText 2 1 2 2000).spelling]).copies ⟨1, 2⟩ (.bareText 1 2 0 1000) = 1 := by
    decide +kernel
  have distinct : ∀ other ∈ ([] ++ [] : List Message),
      (other.header.receiver, other.header.timestamp) ≠ ((2 : AccountId), (1000 : UInt64)) :=
    List.forall_mem_nil _
  exact ⟨sent, (acknowledged_iff_one_copy sent rfl rfl distinct others decode_textAck
    textAck_acknowledges rfl).1.mpr one⟩

/-- After a text of time 1000, the sent text of the same time is not inserted, and its
acknowledgement finds nothing. -/
theorem unacknowledged_on_tie :
    ∃ session : Session MemoryStore Silence, ∃ link : Link, ∃ message ack frame,
      Reachable (· = message) session ∧ link.connection.isSome ∧
      message.header.sender = session.me ∧ message.header.kind.isContent = true ∧
      message.seq? = none ∧ dispatched link session.outbox = [message] ∧
      Message.decode frame = .ok ack ∧ ack.Acknowledges message ∧ ack.seq? = some 3 ∧
      receive frame (leaves flush (link, session)).2 =
        .ok (.ack (message.channel session.me) false) (leaves flush (link, session)).2 := by
  have sent : dispatched connected (aboutToSend 1000).outbox = [.bareText 1 2 0 1000] := by
    decide +kernel
  have uninserted : (leaves flush (connected, aboutToSend 1000)).2.copies ⟨1, 2⟩
      (.bareText 1 2 0 1000) = 0 := by decide +kernel
  have unnoticed := receive_ack_of_no_copies (leaves flush (connected, aboutToSend 1000)).2
    decode_textAck textAck_acknowledges uninserted
  exact ⟨aboutToSend 1000, connected, .bareText 1 2 0 1000, textAck, textAck.spelling,
    reachable_aboutToSend 1000, rfl, rfl, rfl, rfl, sent, decode_textAck, textAck_acknowledges,
    rfl, unnoticed⟩

end Session

end Messenger
