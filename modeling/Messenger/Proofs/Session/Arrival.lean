import Messenger.Proofs.Session.Backing
import Messenger.Proofs.Session.Silence
import Messenger.Transport.Link

/-!
# Content on its arrival

A content message with a number is lost on its arrival only if the scan of its
channel stops at an entry that ties with it, and its number is not kept already.
In sessions that only submit unnumbered messages, the entry is pending and has
the time of the arriving message.
-/

namespace Messenger

namespace Session

variable {η : Type} {submits : Message → Prop}

/-- A number is in the timeline of its channel and in the store. -/
def Keeps (session : Session MemoryStore η) (channel : Channel) (seq : UInt64) : Prop :=
  seq ∈ (session.timeline channel).seqs ∧ session.store.Holds channel seq

instance (session : Session MemoryStore η) (channel : Channel) (seq : UInt64) :
    Decidable (session.Keeps channel seq) :=
  inferInstanceAs (Decidable (_ ∧ _))

/-- A message is taken for a duplicate although its number is not kept. -/
def Overlooks (session : Session MemoryStore η) (channel : Channel) (message : Message) : Prop :=
  ((session.timeline channel).insert message).1 = .duplicate ∧
    ¬session.Keeps channel message.header.seq

instance (session : Session MemoryStore η) (channel : Channel) (message : Message) :
    Decidable (session.Overlooks channel message) :=
  inferInstanceAs (Decidable (_ ∧ _))

/-- The scan for the place of a message stops at a pending entry with the same time. -/
def Ties (timeline : Timeline) (message : Message) : Prop :=
  ∃ older waiting newer, timeline.StopsAt message older waiting newer ∧
    waiting.seq? = none ∧ waiting.header.timestamp = message.header.timestamp

/-- The same session over another source of history. -/
def withHistory {σ η' : Type} (session : Session σ η) (history : η') : Session σ η' where
  me := session.me
  config := session.config
  store := session.store
  history := history
  tracker := session.tracker
  timelines := session.timelines
  conversations := session.conversations
  outbox := session.outbox
  active := session.active
  auth := session.auth
  events := session.events

/-! ## What is kept stays -/

theorem Keeps.change {before after : Session MemoryStore η} {channel : Channel} {seq : UInt64}
    (change : Change submits before after) (keeps : before.Keeps channel seq) :
    after.Keeps channel seq :=
  ⟨change.conserves.seqs channel keeps.1, keeps.2.mono change.conserves.store⟩

theorem Keeps.follows {α : Type} {request : SessionM MemoryStore η α}
    {session : Session MemoryStore η} {channel : Channel} {seq : UInt64}
    (keeps : session.Keeps channel seq) (follows : Follows Intake request session) :
    (leaves request session).Keeps channel seq :=
  have run : Follows (Change fun _ => False) request session := follows.change
  preserved_run (P := fun left => left.Keeps channel seq) (fun _ _ => Keeps.change) run keeps

/-! ## Merging content -/

variable {session : Session MemoryStore η} {message : Message} {seq : UInt64} {channel : Channel}

/-- In a backed session only a tie with a pending entry makes a message overlooked. -/
theorem Backed.overlooks_iff (backed : session.Backed) (numbered : message.seq? = some seq) :
    session.Overlooks channel message ↔
      Ties (session.timeline channel) message ∧ seq ∉ (session.timeline channel).seqs := by
  obtain ⟨rfl, -⟩ := Message.seq?_eq_some_iff.mp numbered
  have keeps_iff : session.Keeps channel message.header.seq ↔
      message.header.seq ∈ (session.timeline channel).seqs :=
    and_iff_left_of_imp (backed.held channel _)
  unfold Overlooks
  rw [keeps_iff]
  apply and_congr_left
  intro absent
  constructor
  · intro duplicate
    rcases Timeline.insert_cases (session.timeline channel) message with
      ⟨older, entry, newer, -, -, result⟩ | ⟨older, entry, newer, stop, equal, -⟩ | ⟨-, result⟩
    · rw [result] at duplicate
      cases duplicate
    · cases entrySeq : entry.seq? with
      | none =>
          rw [Timeline.relate_of_pending (.inl entrySeq)] at equal
          exact ⟨older, entry, newer, stop, entrySeq, Std.compare_eq_iff_eq.mp equal⟩
      | some number =>
          rw [Timeline.relate_of_confirmed entrySeq numbered] at equal
          cases Std.compare_eq_iff_eq.mp equal
          exact (absent (Timeline.mem_seqs.mpr ⟨entry, stop.mem_entries, entrySeq⟩)).elim
    · rw [result] at duplicate
      cases duplicate
  · rintro ⟨older, waiting, newer, stop, waits, same⟩
    have equal : Timeline.relate waiting message = .eq := by
      rw [Timeline.relate_of_pending (.inl waits), same]
      exact Std.compare_self
    rw [Timeline.insert_of_eq stop equal]

/-- Over a store in memory, tracking a channel never fails. -/
theorem anchor_eq_ok (session : Session MemoryStore η) (channel : Channel) :
    ∃ tracker, anchor channel session = .ok () { session with tracker } := by
  unfold anchor
  cases session.tracker.isAnchored channel with
  | true => exact ⟨session.tracker, rfl⟩
  | false => exact ⟨_, rfl⟩

/-- The number of a merged message is kept unless the message is overlooked. -/
theorem keeps_merged_iff {store : MemoryStore} (tracker : Tracker)
    (numbered : message.seq? = some seq)
    (saved : ((session.timeline channel).insert message).1.isNew = true → store.Holds channel seq)
    (kept : ((session.timeline channel).insert message).1.isNew = false → store = session.store) :
    Keeps { session.setTimeline channel ((session.timeline channel).insert message).2 with
        store, tracker } channel seq ↔ ¬session.Overlooks channel message := by
  obtain ⟨rfl, -⟩ := Message.seq?_eq_some_iff.mp numbered
  have merged : Session.timeline { session.setTimeline channel
      ((session.timeline channel).insert message).2 with store, tracker } channel =
        ((session.timeline channel).insert message).2 :=
    timeline_setTimeline_self session channel _
  unfold Keeps Overlooks
  rw [merged]
  cases new : ((session.timeline channel).insert message).1.isNew with
  | true =>
      have present : message.header.seq ∈ ((session.timeline channel).insert message).2.seqs :=
        Timeline.mem_seqs_insert.mpr (.inr ⟨numbered, new⟩)
      apply iff_of_true ⟨present, saved new⟩
      rintro ⟨duplicate, -⟩
      rw [duplicate] at new
      cases new
  | false =>
      rw [kept new, Timeline.mem_seqs_insert, new, Timeline.Inserted.isNew_eq_false_iff.mp new]
      unfold Keeps
      simp

/-- A numbered content message is merged into its channel, and then announced.  Its number is
kept from then on unless the message is overlooked. -/
theorem receiveContent_merged [HistorySource η] (session : Session MemoryStore η)
    (numbered : message.seq? = some seq) :
    let channel := message.channel session.me
    ∃ merged, receiveContent message session =
        announce session message ((session.timeline channel).insert message).1 merged ∧
      (merged.Keeps channel seq ↔ ¬session.Overlooks channel message) := by
  intro channel
  obtain ⟨tracker, anchored⟩ := anchor_eq_ok session channel
  let tracked : Session MemoryStore η := { session with tracker }
  cases new : ((session.timeline channel).insert message).1.isNew with
  | false =>
      have merged : merge channel message tracked = _ := merge_of_duplicate numbered new
      refine ⟨_, (receiveContent_eq session message).trans
        ((bind_of_ok anchored _).trans (bind_of_ok merged _)), ?_⟩
      exact keeps_merged_iff _ numbered (fun inserted => nomatch new.symm.trans inserted)
        fun _ => rfl
  | true =>
      obtain ⟨outcome, store, saved, -, held⟩ :=
        session.store.save_of_numbered channel numbered
      have merged : merge channel message tracked = _ := merge_of_saved numbered new saved
      refine ⟨_, (receiveContent_eq session message).trans
        ((bind_of_ok anchored _).trans (bind_of_ok merged _)), ?_⟩
      exact keeps_merged_iff _ numbered (fun _ => held)
        fun duplicate => nomatch new.symm.trans duplicate

/-! ## Receiving content -/

theorem receive_eq_receiveContent {σ : Type} [MessageStore σ] [HistorySource η] {frame : Octets}
    (decoded : Message.decode frame = .ok message)
    (content : message.header.kind.isContent = true) :
    (receive frame : SessionM σ η Routed) = receiveContent message := by
  unfold receive
  rw [decoded]
  unfold receiveMessage
  exact if_pos content

/-- A message that is not overlooked is kept, whatever follows its merge. -/
theorem keeps_of_receive [HistorySource η] {session after : Session MemoryStore η}
    {frame : Octets} {routed : Routed} (decoded : Message.decode frame = .ok message)
    (content : message.header.kind.isContent = true) (numbered : message.seq? = some seq)
    (received : receive frame session = .ok routed after)
    (noticed : ¬session.Overlooks (message.channel session.me) message) :
    after.Keeps (message.channel session.me) seq := by
  obtain ⟨merged, result, keeps_iff⟩ := receiveContent_merged session numbered
  rw [receive_eq_receiveContent decoded content, result] at received
  rw [← leaves_of_ok received]
  exact (keeps_iff.mpr noticed).follows (follows_announce session message _ _)

/-- A duplicate in a channel that is tracked changes nothing more. -/
theorem announce_duplicate_of_tracked [HistorySource η] {session merged : Session MemoryStore η}
    (tracked : (session.tracker.state? (message.channel session.me)).isSome) :
    announce session message .duplicate merged =
      .ok (.content (message.channel session.me) .duplicate) merged := by
  unfold announce
  simp only [Timeline.Inserted.isNew, Option.isNone_eq_false_iff.mpr tracked]
  rfl

theorem announce_duplicate_silence (session merged : Session MemoryStore Silence)
    (message : Message) :
    Answers (announce session message .duplicate) merged fun left =>
      left.timelines = merged.timelines ∧ left.store = merged.store := by
  unfold announce
  simp only [Timeline.Inserted.isNew, Bool.false_eq_true, if_false]
  split
  · exact .bind (catchUp_silence _ merged) fun _ left same => ⟨_, left, rfl, same⟩
  · exact ⟨_, merged, rfl, rfl, rfl⟩

/-- An overlooked message is lost if the source of history does not send it again. -/
theorem lost_of_silence {session : Session MemoryStore Silence} {frame : Octets}
    (decoded : Message.decode frame = .ok message)
    (content : message.header.kind.isContent = true) (numbered : message.seq? = some seq)
    (overlooked : session.Overlooks (message.channel session.me) message) :
    ∃ routed after, receive frame session = .ok routed after ∧
      ¬after.Keeps (message.channel session.me) seq := by
  obtain ⟨merged, result, keeps_iff⟩ := receiveContent_merged session numbered
  rw [overlooked.1] at result
  obtain ⟨routed, after, announced, timelines, store⟩ :=
    announce_duplicate_silence session merged message
  rw [receive_eq_receiveContent decoded content, result]
  refine ⟨routed, after, announced, ?_⟩
  have same : after.Keeps (message.channel session.me) seq ↔
      merged.Keeps (message.channel session.me) seq := by
    unfold Keeps Session.timeline
    rw [timelines, store]
  rw [same, keeps_iff]
  exact not_not_intro overlooked

/-- A message is kept whatever the source of history answers exactly if it is not overlooked. -/
theorem kept_for_all_histories_iff {frame : Octets} (decoded : Message.decode frame = .ok message)
    (content : message.header.kind.isContent = true) (numbered : message.seq? = some seq) :
    (∀ (η' : Type) [HistorySource η'] (history : η') routed after,
        receive frame (session.withHistory history) = .ok routed after →
          after.Keeps (message.channel session.me) seq) ↔
      ¬session.Overlooks (message.channel session.me) message := by
  constructor
  · intro kept overlooked
    have silent : (session.withHistory Silence.silence).Overlooks
        (message.channel session.me) message := overlooked
    obtain ⟨routed, after, received, lost⟩ := lost_of_silence decoded content numbered silent
    exact lost (kept Silence .silence routed after received)
  · intro noticed η' _ history routed after received
    have unmissed : ¬(session.withHistory history).Overlooks
        (message.channel session.me) message := noticed
    have kept := keeps_of_receive decoded content numbered received unmissed
    exact kept

/-- In a channel that is tracked, a message is kept exactly if it is not overlooked. -/
theorem kept_of_tracked_iff [HistorySource η] {after : Session MemoryStore η} {frame : Octets}
    {routed : Routed} (decoded : Message.decode frame = .ok message)
    (content : message.header.kind.isContent = true) (numbered : message.seq? = some seq)
    (tracked : (session.tracker.state? (message.channel session.me)).isSome)
    (received : receive frame session = .ok routed after) :
    after.Keeps (message.channel session.me) seq ↔
      ¬session.Overlooks (message.channel session.me) message := by
  constructor
  · intro keeps overlooked
    obtain ⟨merged, result, keeps_iff⟩ := receiveContent_merged session numbered
    rw [overlooked.1, announce_duplicate_of_tracked tracked] at result
    rw [receive_eq_receiveContent decoded content, result] at received
    cases received
    exact keeps_iff.mp keeps overlooked
  · exact keeps_of_receive decoded content numbered received

/-- No numbered content is lost on its arrival, whatever the source of history answers, exactly
if it is not overlooked; in a channel that is tracked the source is not even asked.  In a
reachable session that submits only unnumbered messages, a message is overlooked exactly if it
ties with a pending entry and its number is new. -/
theorem content_kept_iff [HistorySource η] {session : Session MemoryStore η}
    (reachable : Reachable submits session) {frame : Octets}
    (decoded : Message.decode frame = .ok message)
    (content : message.header.kind.isContent = true) (numbered : message.seq? = some seq) :
    let channel := message.channel session.me
    ((∀ (η' : Type) [HistorySource η'] (history : η') routed after,
        receive frame (session.withHistory history) = .ok routed after →
          after.Keeps channel seq) ↔ ¬session.Overlooks channel message) ∧
    ((session.tracker.state? channel).isSome → ∀ routed after,
      receive frame session = .ok routed after →
        (after.Keeps channel seq ↔ ¬session.Overlooks channel message)) ∧
    ((∀ message, submits message → message.seq? = none) →
      (session.Overlooks channel message ↔
        Ties (session.timeline channel) message ∧
          seq ∉ (session.timeline channel).seqs)) := by
  intro channel
  constructor
  · exact kept_for_all_histories_iff decoded content numbered
  constructor
  · intro tracked routed after received
    exact kept_of_tracked_iff decoded content numbered tracked received
  · intro unnumbered
    exact (reachable.backed unnumbered).overlooks_iff numbered

/-- A session of account 1 that has sent a text to account 2 at time 1000. -/
def afterGreeting : Session MemoryStore Silence :=
  let fresh : Session MemoryStore Silence := start 1 ⟨8, 8, {}⟩ MemoryStore.empty Silence.silence
  let link : Link := { connection := some ⟨"", 1, .tcp⟩ }
  (leaves flush (link, leaves (submit (.bareText 1 2 0 1000)) fresh)).2

theorem reachable_afterGreeting :
    Reachable (fun message => message.seq? = none) afterGreeting := by
  refine .flush (.submit (.start 1 ⟨8, 8, {}⟩ MemoryStore.empty Silence.silence) ?_) _
  rfl

/-- The octets of a text from account 2 to account 1 under the number 1, up to its time. -/
def replyPrefix : Octets :=
  [0, 0, 0, 0, 0, 0, 0, 2, 0, 0, 0, 0, 0, 0, 0, 1, 2, 0, 0, 0, 0, 0]

/-- A reply at time 1001 is kept, whatever history there is. -/
theorem later_reply_kept :
    ¬afterGreeting.Overlooks (.between 2 1) (.bareText 2 1 1 1001) ∧
      ∀ (η' : Type) [HistorySource η'] (history : η') routed after,
        receive (replyPrefix ++ [3, 233, 0, 0, 0, 0, 0, 0, 0, 1])
            (afterGreeting.withHistory history) = .ok routed after →
          after.Keeps (.between 2 1) 1 := by
  have noticed : ¬afterGreeting.Overlooks (.between 2 1) (.bareText 2 1 1 1001) := by decide
  have decoded : Message.decode (replyPrefix ++ [3, 233, 0, 0, 0, 0, 0, 0, 0, 1]) =
      .ok (.bareText 2 1 1 1001) := by decide +kernel
  exact ⟨noticed, (content_kept_iff reachable_afterGreeting decoded rfl rfl).1.mpr noticed⟩

/-- A reply at time 1000 ties with the text that waits, and is lost. -/
theorem reply_lost_on_tie :
    ∃ frame message routed after,
      Reachable (fun message => message.seq? = none) afterGreeting ∧
      Message.decode frame = .ok message ∧ message.header.kind.isContent = true ∧
      message.seq? = some 1 ∧ receive frame afterGreeting = .ok routed after ∧
      ¬after.Keeps (message.channel afterGreeting.me) 1 := by
  have overlooked : afterGreeting.Overlooks (.between 2 1) (.bareText 2 1 1 1000) := by decide
  have decoded : Message.decode (replyPrefix ++ [3, 232, 0, 0, 0, 0, 0, 0, 0, 1]) =
      .ok (.bareText 2 1 1 1000) := by decide +kernel
  obtain ⟨routed, after, received, lost⟩ := lost_of_silence decoded rfl rfl overlooked
  exact ⟨_, _, routed, after, reachable_afterGreeting, decoded, rfl, rfl, received, lost⟩

end Session

end Messenger
