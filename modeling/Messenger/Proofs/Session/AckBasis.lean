import Messenger.Proofs.Session.Atomicity
import Messenger.Proofs.Session.Synchronized

/-!
# Where acknowledgements take the newest number from

Content that arrives in a channel that is not tracked fixes the newest number of the channel
from the store.  An acknowledgement does not: it takes the channel for empty, so that a
confirmed number behind stored messages seems to skip all of them.
-/

namespace Messenger

namespace SyncState

/-- An arrival in an empty channel skips every number before its own. -/
theorem arrive_of_empty {seq : UInt64} (numbered : seq ≠ 0) :
    SyncState.arrive ⟨unknownSeq, some 0, false⟩ seq =
      ⟨if 1 < seq.toNat then 1 else unknownSeq, some seq, false⟩ := by
  rw [arrive_of_newest, if_pos (UInt64.pos_iff_ne_zero.mpr numbered)]
  change (if 1 < seq.toNat then _ else _) = _
  split <;> rfl

/-- The newest number makes no difference exactly if it is zero, or if it is one and arrives. -/
theorem arrive_eq_arrive_iff {newest seq : UInt64} (numbered : seq ≠ 0) :
    SyncState.arrive ⟨unknownSeq, some 0, false⟩ seq =
        SyncState.arrive ⟨unknownSeq, some newest, false⟩ seq ↔
      newest = 0 ∨ newest = 1 ∧ seq = 1 := by
  have positive : 0 < seq.toNat := UInt64.lt_iff_toNat_lt.mp (UInt64.pos_iff_ne_zero.mpr numbered)
  have one : (1 : UInt64) ≠ unknownSeq := by decide
  constructor
  · rw [arrive_of_empty numbered, arrive_of_newest]
    intro same
    by_cases gap : newest.toNat + 1 < seq.toNat
    · -- Both skip numbers, so the first missing one is the same.
      rw [if_pos gap, if_pos (by omega)] at same
      have newer : newest < seq := UInt64.lt_iff_toNat_lt.mpr (by omega)
      have missing := congrArg UInt64.toNat (congrArg SyncState.next same)
      rw [Word.toNat_succ_of_lt newer] at missing
      simp only [UInt64.reduceToNat] at missing
      exact .inl (UInt64.toNat_inj.mp (by simpa using missing))
    · rw [if_neg gap] at same
      by_cases several : 1 < seq.toNat
      · rw [if_pos several] at same
        exact absurd (congrArg SyncState.next same) one
      · obtain rfl : seq = 1 := UInt64.toNat_inj.mp (by simp only [UInt64.reduceToNat]; omega)
        have newestEq := Option.some.inj (congrArg SyncState.newest same)
        split at newestEq
        · next below =>
            have zero := UInt64.lt_iff_toNat_lt.mp below
            simp only [UInt64.reduceToNat] at zero
            exact .inl (UInt64.toNat_inj.mp (by simp only [UInt64.reduceToNat]; omega))
        · exact .inr ⟨newestEq.symm, rfl⟩
  · rintro (rfl | ⟨rfl, rfl⟩)
    · rfl
    · decide

end SyncState

namespace Tracker

variable {tracker : Tracker} {channel : Channel}

theorem state_of_untracked (untracked : tracker.state? channel = none) :
    tracker.state channel = {} := by
  unfold Tracker.state
  rw [untracked]
  rfl

end Tracker

namespace Session

variable {η : Type} {session after : Session MemoryStore η} {channel : Channel} {ack : Message}

/-- An acknowledgement that takes effect tells the tracker its number, and nothing else. -/
theorem tracker_of_confirmed
    (received : receiveAck ack session = .ok (.ack channel true) after) :
    ack.header.seq ≠ 0 ∧ channel = ack.channel session.me ∧
      after.tracker = (session.tracker.arrive channel ack.header.seq).2 := by
  cases read : ack.mintedTimestamp with
  | error cause => cases (receiveAck_of_unread session read).symm.trans received
  | ok minted =>
      rcases Timeline.exists_waitsAt_or_none (session.timeline (ack.channel session.me))
          ack.header.sender ack.header.receiver minted with ⟨older, waiting, newer, waits⟩ | none
      · by_cases numbered : ack.header.seq = 0
        · cases (receiveAck_of_unnumbered read waits numbered).symm.trans received
        · obtain ⟨left, done, -, -, tracker, -⟩ := receiveAck_of_waits read waits numbered
          cases done.symm.trans received
          exact ⟨numbered, rfl, tracker⟩
      · cases (receiveAck_of_none session read (Timeline.confirm_of_none none)).symm.trans received

/-- A channel that is not tracked is tracked from the newest number of the store on. -/
theorem anchor_of_untracked (untracked : session.tracker.state? channel = none) :
    anchor channel session = .ok ()
      { session with
        tracker := session.tracker.anchor channel (session.store.latest channel) } := by
  have fresh : session.tracker.isAnchored channel = false := by
    unfold Tracker.isAnchored
    rw [Tracker.state_of_untracked untracked]
    rfl
  unfold anchor
  rw [fresh]
  rfl

/-- Over a store in memory, numbered content is always merged, and its number arrives. -/
theorem merge_eq_ok {message : Message} {seq : UInt64} (session : Session MemoryStore η)
    (channel : Channel) (numbered : message.seq? = some seq) :
    ∃ inserted merged, merge channel message session = .ok inserted merged ∧
      merged.tracker = (session.tracker.arrive channel seq).2 := by
  cases new : ((session.timeline channel).insert message).1.isNew with
  | false => exact ⟨_, _, merge_of_duplicate numbered new, rfl⟩
  | true =>
      obtain ⟨outcome, store, saved, -⟩ := session.store.save_of_numbered channel numbered
      exact ⟨_, _, merge_of_saved numbered new saved, rfl⟩

/-- Content that is merged into a channel that is not tracked arrives behind the newest number of
the store. -/
theorem state_of_first_content {message : Message} {seq : UInt64}
    (untracked : session.tracker.state? channel = none) (numbered : message.seq? = some seq) :
    ∃ inserted merged,
      (do
        anchor channel
        merge channel message : SessionM MemoryStore η Timeline.Inserted) session =
          .ok inserted merged ∧
      merged.tracker.state? channel =
        some (SyncState.arrive (SyncState.anchor {} (session.store.latest channel)) seq) := by
  obtain ⟨inserted, merged, done, tracker⟩ := merge_eq_ok
    { session with tracker := session.tracker.anchor channel (session.store.latest channel) }
    channel numbered
  refine ⟨inserted, merged, (bind_of_ok (anchor_of_untracked untracked) _).trans done, ?_⟩
  rw [tracker, Tracker.state?_arrive, Tracker.state_anchor, if_pos rfl,
    Tracker.state_of_untracked untracked]
  rfl

/-- Whatever the store holds, an acknowledgement that takes effect in a channel that is not tracked
leaves the state of a channel without messages in which its number arrives.  This is the state that
content with the number leads to exactly if the store has no message of the channel, or if number
one is its newest and is confirmed again. -/
theorem ack_basis_iff [HistorySource η] {frame : Octets} (decoded : Message.decode frame = .ok ack)
    (kind : ack.header.kind = .ack) (untracked : session.tracker.state? channel = none)
    (received : receive frame session = .ok (.ack channel true) after) :
    let seq := ack.header.seq
    let tail := (session.store.latest channel).getD 0
    after.tracker.state? channel =
        some ⟨if 1 < seq.toNat then 1 else unknownSeq, some seq, false⟩ ∧
      (after.tracker.state? channel =
          some (SyncState.arrive (SyncState.anchor {} (session.store.latest channel)) seq) ↔
        tail = 0 ∨ tail = 1 ∧ seq = 1) ∧
      ∀ message : Message, message.seq? = some seq →
        ∃ inserted merged,
          (do
            anchor channel
            merge channel message : SessionM MemoryStore η Timeline.Inserted) session =
              .ok inserted merged ∧
          merged.tracker.state? channel =
            some (SyncState.arrive (SyncState.anchor {} (session.store.latest channel)) seq) := by
  intro seq tail
  rw [receive_of_decoded decoded, receiveMessage_of_ack kind] at received
  obtain ⟨numbered, -, tracker⟩ := tracker_of_confirmed received
  have state : after.tracker.state? channel =
      some (SyncState.arrive ⟨unknownSeq, some 0, false⟩ seq) := by
    rw [tracker, Tracker.state?_arrive, Tracker.state_of_untracked untracked]
    rfl
  refine ⟨?_, ?_, fun message => state_of_first_content untracked⟩
  · rw [state, SyncState.arrive_of_empty numbered]
  · rw [state, Option.some_inj]
    exact SyncState.arrive_eq_arrive_iff numbered

/-- Over an empty store, the confirmation of the number 3 leads to what content with this number
leads to. -/
theorem basis_of_empty_store :
    ∃ after, Message.decode textAck.spelling = .ok textAck ∧ textAck.header.kind = .ack ∧
      afterText.tracker.state? ⟨1, 2⟩ = none ∧
      receive textAck.spelling afterText = .ok (.ack ⟨1, 2⟩ true) after ∧
      after.tracker.state? ⟨1, 2⟩ =
        some (SyncState.arrive (SyncState.anchor {} (afterText.store.latest ⟨1, 2⟩)) 3) := by
  have untracked : afterText.tracker.state? ⟨1, 2⟩ = none := by decide +kernel
  have empty : (afterText.store.latest ⟨1, 2⟩).getD 0 = 0 := by decide +kernel
  have confirms : ∃ after, receive textAck.spelling afterText = .ok (.ack ⟨1, 2⟩ true) after :=
    ⟨_, eq_ok_of_answer? (by decide +kernel)⟩
  obtain ⟨after, received⟩ := confirms
  exact ⟨after, decode_textAck, rfl, untracked, received,
    (ack_basis_iff decode_textAck rfl untracked received).2.1.mpr (.inl empty)⟩

/-- A session of account 1 whose store has a text of account 2 under the number 5, and that has sent
a text of time 1000 to it. -/
def behindFive : Session MemoryStore Silence :=
  let fresh : Session MemoryStore Silence :=
    start 1 ⟨8, 8, {}⟩ ⟨⟨[(⟨1, 2⟩, [.bareText 2 1 5 905])]⟩, .empty⟩ Silence.silence
  (leaves flush (connected, leaves (submit (.bareText 1 2 0 1000)) fresh)).2

theorem reachable_behindFive : Reachable (· = .bareText 1 2 0 1000) behindFive := by
  unfold behindFive
  refine .flush (.submit (.start 1 ⟨8, 8, {}⟩ _ Silence.silence) ?_) connected
  rfl

/-- The acknowledgement of the text under the number 6. -/
def sixthAck : Message :=
  { textAck with header := { textAck.header with seq := 6 } }

/-- The confirmation of the number behind the newest one of the store reopens all numbers, where
content with this number finds none missing. -/
theorem basis_ignores_five :
    ∃ session : Session MemoryStore Silence, ∃ frame ack after,
      Reachable (· = .bareText 1 2 0 1000) session ∧
      session.tracker.state? ⟨1, 2⟩ = none ∧ session.store.latest ⟨1, 2⟩ = some 5 ∧
      Message.decode frame = .ok ack ∧ ack.header.kind = .ack ∧ ack.header.seq = 6 ∧
      receive frame session = .ok (.ack ⟨1, 2⟩ true) after ∧
      after.tracker.state? ⟨1, 2⟩ = some ⟨1, some 6, false⟩ ∧
      SyncState.arrive (SyncState.anchor {} (some 5)) 6 = ⟨unknownSeq, some 6, false⟩ := by
  have decoded : Message.decode sixthAck.spelling = .ok sixthAck := by decide +kernel
  have untracked : behindFive.tracker.state? ⟨1, 2⟩ = none := by decide +kernel
  have newest : behindFive.store.latest ⟨1, 2⟩ = some 5 := by decide +kernel
  have left : (leaves (receive sixthAck.spelling) behindFive).tracker.state? ⟨1, 2⟩ =
      some ⟨1, some 6, false⟩ := by decide +kernel
  have confirms : ∃ after, receive sixthAck.spelling behindFive = .ok (.ack ⟨1, 2⟩ true) after :=
    ⟨_, eq_ok_of_answer? (by decide +kernel)⟩
  obtain ⟨after, received⟩ := confirms
  rw [leaves_of_ok received] at left
  exact ⟨behindFive, sixthAck.spelling, sixthAck, after, reachable_behindFive, untracked, newest,
    decoded, rfl, rfl, received, left, by decide⟩

end Session

end Messenger
