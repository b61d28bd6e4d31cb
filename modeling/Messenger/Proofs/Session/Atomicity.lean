import Messenger.Proofs.History.Ledger
import Messenger.Proofs.Session.Acknowledgement

/-!
# Acknowledgements take effect as a whole

An acknowledgement is refused, finds nothing that waits, or takes effect in the timeline,
the store and the tracker together; in the first two cases nothing changes.  The one
exception is an acknowledgement without a number: the entry that it names takes over its
time before the store refuses the entry.
-/

namespace Messenger

namespace Timeline

variable {timeline : Timeline} {sender receiver : AccountId} {minted timestamp : UInt64}
  {older newer : List Message} {waiting : Message}

/-- No entry has the number zero, so a confirmation without a number only puts its time in the
place of the entry's. -/
theorem confirm_of_unnumbered (timestamp : UInt64)
    (first : timeline.WaitsAt sender receiver minted older waiting newer) :
    timeline.confirm sender receiver minted 0 timestamp =
      (some (confirmedCopy waiting 0 timestamp),
        ⟨(older ++ confirmedCopy waiting 0 timestamp :: newer).mergeSort settledBefore⟩) := by
  refine confirm_of_absent first (find?_eq_none_iff.mpr fun member => ?_)
  obtain ⟨entry, -, entrySeq⟩ := mem_seqs.mp member
  exact (Message.seq?_eq_some_iff.mp entrySeq).2 rfl

end Timeline

namespace Session

variable {η : Type} {session : Session MemoryStore η} {frame : Octets} {ack : Message}
  {minted : UInt64}

/-- An acknowledgement of a message of the time `minted` has taken effect. -/
structure Confirmed (before after : Session MemoryStore η) (ack : Message) (minted : UInt64) :
    Prop where
  /-- The first entry that waits under the parties and the time waits no more, all others do. -/
  taken : ∃ older waiting newer,
    (before.timeline (ack.channel before.me)).WaitsAt ack.header.sender ack.header.receiver minted
      older waiting newer ∧
    (after.timeline (ack.channel before.me)).pending.Perm (Timeline.pending ⟨older ++ newer⟩)
  keeps : after.Keeps (ack.channel before.me) ack.header.seq
  /-- The tracker knows that the number is at hand. -/
  newest : ∃ state newest, after.tracker.state? (ack.channel before.me) = some state ∧
    state.newest = some newest ∧ ack.header.seq ≤ newest
  told : after.events = before.events ++
    [.confirmed (ack.channel before.me) ack.header.seq minted]

/-- What becomes of an acknowledgement goes with its answer: nothing changes unless it is answered
to have taken effect. -/
inductive AllOrNothing (before : Session MemoryStore η) (ack : Message) :
    EStateM.Result SessionError (Session MemoryStore η) Routed → Prop where
  | refused (cause : SessionError) : AllOrNothing before ack (.error cause before)
  | unnoticed : AllOrNothing before ack (.ok (.ack (ack.channel before.me) false) before)
  | confirmed {after : Session MemoryStore η} {minted : UInt64}
      (read : ack.mintedTimestamp = .ok minted) (effect : Confirmed before after ack minted) :
      AllOrNothing before ack (.ok (.ack (ack.channel before.me) true) after)

theorem AllOrNothing.eq_of_error {before after : Session MemoryStore η} {cause : SessionError}
    (atomic : AllOrNothing before ack (.error cause after)) : after = before := by
  generalize failed : EStateM.Result.error cause after = result at atomic
  cases atomic with
  | refused =>
      cases failed
      rfl
  | unnoticed => cases failed
  | confirmed => cases failed

/-- An acknowledgement without a number names an entry that waits, and the timeline is another
one with its time in the place of the entry's. -/
def Restamps (session : Session MemoryStore η) (ack : Message) : Prop :=
  ack.header.seq = 0 ∧ ∃ minted older waiting newer, ack.mintedTimestamp = .ok minted ∧
    (session.timeline (ack.channel session.me)).WaitsAt ack.header.sender ack.header.receiver
      minted older waiting newer ∧
    (older ++ Timeline.confirmedCopy waiting 0 ack.header.timestamp :: newer).mergeSort
      Timeline.settledBefore ≠ (session.timeline (ack.channel session.me)).entries

/-- Putting back the timeline of a channel that has entries changes nothing. -/
theorem setTimeline_self {σ : Type} (session : Session σ η) {channel : Channel}
    (known : (session.timeline channel).entries ≠ []) :
    session.setTimeline channel (session.timeline channel) = session := by
  cases present : session.timelines.find? channel with
  | none =>
      unfold Session.timeline at known
      rw [present] at known
      exact (known rfl).elim
  | some timeline =>
      have same : session.timeline channel = timeline := by
        unfold Session.timeline
        rw [present]
        rfl
      unfold setTimeline
      rw [same, Assoc.insert_of_find? present]

section Waiting

variable {older newer : List Message} {waiting : Message}

/-- What a numbered acknowledgement of a message that waits leaves. -/
theorem receiveAck_of_waits (read : ack.mintedTimestamp = .ok minted)
    (waits : (session.timeline (ack.channel session.me)).WaitsAt ack.header.sender
      ack.header.receiver minted older waiting newer) (numbered : ack.header.seq ≠ 0) :
    ∃ after, receiveAck ack session = .ok (.ack (ack.channel session.me) true) after ∧
      (after.timeline (ack.channel session.me)).pending.Perm
        (Timeline.pending ⟨older ++ newer⟩) ∧
      after.Keeps (ack.channel session.me) ack.header.seq ∧
      after.tracker = (session.tracker.arrive (ack.channel session.me) ack.header.seq).2 ∧
      after.events = session.events ++
        [.confirmed (ack.channel session.me) ack.header.seq minted] := by
  obtain ⟨entry, timeline, confirms, entrySeq, listed, left⟩ :=
    Timeline.confirm_of_numbered ack.header.timestamp waits numbered
  obtain ⟨number, -⟩ := Message.seq?_eq_some_iff.mp entrySeq
  obtain ⟨outcome, store, saved, -, held⟩ :=
    session.store.save_of_numbered (ack.channel session.me) entrySeq
  obtain ⟨after, announced, timelines, within, tracker, events⟩ :=
    announceConfirmed_eq_ok session
      { session.setTimeline (ack.channel session.me) timeline with
        store
        tracker := (session.tracker.arrive (ack.channel session.me) entry.header.seq).2 }
      ack entry minted
  have placed : after.timeline (ack.channel session.me) = timeline := by
    have same := timeline_setTimeline_self session (ack.channel session.me) timeline
    unfold Session.timeline at same ⊢
    rw [timelines]
    exact same
  have done := (receiveAck_of_saved session read confirms saved).trans announced
  exact ⟨after, done, placed ▸ left, ⟨placed ▸ listed, held.mono within⟩, number ▸ tracker,
    number ▸ events⟩

/-- A numbered acknowledgement of a message that waits takes effect. -/
theorem exists_confirmed (read : ack.mintedTimestamp = .ok minted)
    (waits : (session.timeline (ack.channel session.me)).WaitsAt ack.header.sender
      ack.header.receiver minted older waiting newer) (numbered : ack.header.seq ≠ 0) :
    ∃ after, receiveAck ack session = .ok (.ack (ack.channel session.me) true) after ∧
      Confirmed session after ack minted := by
  obtain ⟨after, done, left, keeps, tracker, events⟩ := receiveAck_of_waits read waits numbered
  obtain ⟨newest, known, notBelow⟩ := SyncState.newest_arrive_anchor
    (session.tracker.state (ack.channel session.me)) ack.header.seq
  refine ⟨after, done, ⟨older, waiting, newer, waits, left⟩, keeps, ?_, events⟩
  rw [tracker, Tracker.state?_arrive]
  exact ⟨_, newest, rfl, known, notBelow⟩

/-- An acknowledgement without a number restamps the message that waits, and is refused. -/
theorem receiveAck_of_unnumbered (read : ack.mintedTimestamp = .ok minted)
    (waits : (session.timeline (ack.channel session.me)).WaitsAt ack.header.sender
      ack.header.receiver minted older waiting newer) (unnumbered : ack.header.seq = 0) :
    receiveAck ack session =
      .error (.store (.unsequenced (Timeline.confirmedCopy waiting 0 ack.header.timestamp)))
        (session.setTimeline (ack.channel session.me)
          ⟨(older ++ Timeline.confirmedCopy waiting 0 ack.header.timestamp :: newer).mergeSort
            Timeline.settledBefore⟩) := by
  have confirms := Timeline.confirm_of_unnumbered ack.header.timestamp waits
  rw [← unnumbered] at confirms ⊢
  refine receiveAck_of_refused session read confirms (MemoryStore.save_of_unnumbered _ _ ?_)
  cases copySeq : (Timeline.confirmedCopy waiting ack.header.seq ack.header.timestamp).seq? with
  | none => rfl
  | some seq =>
      obtain ⟨rfl, nonzero⟩ := Message.seq?_eq_some_iff.mp copySeq
      exact (nonzero unnumbered).elim

end Waiting

/-- An acknowledgement that restamps an entry leaves another timeline behind. -/
theorem receiveAck_of_restamps (restamps : session.Restamps ack) :
    ∃ cause timeline, receiveAck ack session =
        .error (.store cause) (session.setTimeline (ack.channel session.me) timeline) ∧
      timeline ≠ session.timeline (ack.channel session.me) := by
  obtain ⟨unnumbered, minted, older, waiting, newer, read, waits, changed⟩ := restamps
  exact ⟨_, _, receiveAck_of_unnumbered read waits unnumbered,
    fun same => changed (congrArg Timeline.entries same)⟩

theorem not_allOrNothing_of_restamps (restamps : session.Restamps ack) :
    ¬AllOrNothing session ack (receiveAck ack session) := by
  obtain ⟨cause, timeline, failed, changed⟩ := receiveAck_of_restamps restamps
  intro atomic
  rw [failed] at atomic
  have placed := timeline_setTimeline session (ack.channel session.me) (ack.channel session.me)
    timeline
  rw [atomic.eq_of_error, if_pos rfl] at placed
  exact changed placed.symm

theorem allOrNothing_of_not_restamps (spares : ¬session.Restamps ack) :
    AllOrNothing session ack (receiveAck ack session) := by
  cases read : ack.mintedTimestamp with
  | error cause =>
      rw [receiveAck_of_unread session read]
      exact .refused _
  | ok minted =>
      rcases Timeline.exists_waitsAt_or_none (session.timeline (ack.channel session.me))
          ack.header.sender ack.header.receiver minted with ⟨older, waiting, newer, waits⟩ | none
      · by_cases unnumbered : ack.header.seq = 0
        · have settled : (older ++ Timeline.confirmedCopy waiting 0 ack.header.timestamp ::
              newer).mergeSort Timeline.settledBefore =
              (session.timeline (ack.channel session.me)).entries :=
            Decidable.not_not.mp fun changed =>
              spares ⟨unnumbered, minted, older, waiting, newer, read, waits, changed⟩
          rw [receiveAck_of_unnumbered read waits unnumbered, settled, setTimeline_self]
          · exact .refused _
          · rw [waits.entries_eq]
            exact List.append_ne_nil_of_right_ne_nil _ (List.cons_ne_nil _ _)
        · obtain ⟨after, done, effect⟩ := exists_confirmed read waits unnumbered
          rw [done]
          exact .confirmed read effect
      · rw [receiveAck_of_none session read (Timeline.confirm_of_none none)]
        exact .unnoticed

/-- Every acknowledgement is all or nothing, whatever its parties, its time and its number, unless
it restamps an entry.  Such a one is refused, and the restamped timeline stays. -/
theorem ack_all_or_nothing_iff [HistorySource η] (session : Session MemoryStore η)
    (decoded : Message.decode frame = .ok ack) (kind : ack.header.kind = .ack) :
    (AllOrNothing session ack (receive frame session) ↔ ¬session.Restamps ack) ∧
      (session.Restamps ack → ∃ cause timeline,
        receive frame session =
          .error (.store cause) (session.setTimeline (ack.channel session.me) timeline) ∧
        timeline ≠ session.timeline (ack.channel session.me)) := by
  have received : (receive frame : SessionM MemoryStore η Routed) = receiveAck ack :=
    (receive_of_decoded decoded).trans (receiveMessage_of_ack kind)
  rw [received]
  exact ⟨⟨fun atomic restamps => not_allOrNothing_of_restamps restamps atomic,
    allOrNothing_of_not_restamps⟩, receiveAck_of_restamps⟩

/-- A session of account 1 that has sent a text of time 1000 to account 2. -/
def afterText : Session MemoryStore Silence :=
  let fresh : Session MemoryStore Silence := start 1 ⟨8, 8, {}⟩ MemoryStore.empty Silence.silence
  (leaves flush (connected, leaves (submit (.bareText 1 2 0 1000)) fresh)).2

theorem reachable_afterText : Reachable (· = .bareText 1 2 0 1000) afterText := by
  unfold afterText
  refine .flush (.submit (.start 1 ⟨8, 8, {}⟩ MemoryStore.empty Silence.silence) ?_) connected
  rfl

/-- The acknowledgement of the text under the number 3 takes effect as a whole. -/
theorem whole_under_number :
    Message.decode textAck.spelling = .ok textAck ∧ textAck.header.kind = .ack ∧
      AllOrNothing afterText textAck (receive textAck.spelling afterText) ∧
      ∃ after, receive textAck.spelling afterText = .ok (.ack ⟨1, 2⟩ true) after := by
  have numbered : ¬afterText.Restamps textAck := fun restamps => absurd restamps.1 (by decide)
  exact ⟨decode_textAck, rfl,
    (ack_all_or_nothing_iff afterText decode_textAck rfl).1.mpr numbered, _,
    eq_ok_of_answer? (by decide +kernel)⟩

/-- The acknowledgement of the text without a number. -/
def unnumberedAck : Message :=
  { textAck with header := { textAck.header with seq := 0 } }

/-- The acknowledgement without a number is refused, and the text has its time from then on. -/
theorem restamped_and_refused :
    ∃ session : Session MemoryStore Silence, ∃ ack frame,
      Reachable (· = .bareText 1 2 0 1000) session ∧ Message.decode frame = .ok ack ∧
      ack.header.kind = .ack ∧ ¬AllOrNothing session ack (receive frame session) := by
  have decoded : Message.decode unnumberedAck.spelling = .ok unnumberedAck := by decide +kernel
  have entries : (afterText.timeline ⟨1, 2⟩).entries = [.bareText 1 2 0 1000] := by decide +kernel
  have restamps : afterText.Restamps unnumberedAck := by
    refine ⟨rfl, 1000, [], .bareText 1 2 0 1000, [], by decide, ⟨entries, rfl, nofun⟩, ?_⟩
    rw [List.nil_append, List.mergeSort_singleton]
    exact fun same => absurd (same.trans entries) (by decide)
  refine ⟨afterText, unnumberedAck, unnumberedAck.spelling, reachable_afterText, decoded, rfl, ?_⟩
  rw [receive_of_decoded decoded, receiveMessage_of_ack rfl]
  exact not_allOrNothing_of_restamps restamps

end Session

end Messenger
