import Messenger.Proofs.Frame.Exactness
import Messenger.Proofs.History.Ledger
import Messenger.Proofs.Session.Arrival
import Messenger.Proofs.Timeline.Ascending

/-!
# Content that is delivered again

A frame that was taken in as new is known to the timeline and to the tracker from
then on.  Delivered again, it changes nothing at all, unless the scan for its
place stops before it reaches the entry that was stored.
-/

namespace Messenger

namespace Timeline

variable {timeline : Timeline} {arriving : Message} {seq : UInt64}

/-- An entry with the number of an arriving message is not passed over. -/
theorem not_mem_of_passed {copy : Message} {newer : List Message}
    (numbered : arriving.seq? = some seq) (copySeq : copy.seq? = some seq)
    (passed : ∀ later ∈ newer, relate later arriving = .gt) : copy ∉ newer := by
  intro member
  have order := passed copy member
  rw [relate_of_confirmed copySeq numbered] at order
  exact UInt64.lt_irrefl seq (Std.compare_eq_gt.mp order)

/-- If the scan for a numbered message stops at an entry before it, an entry that has its
number lies behind that one. -/
theorem StopsAt.mem_older {copy entry : Message} {older newer : List Message}
    (stop : StopsAt timeline arriving older entry newer) (before : relate entry arriving = .lt)
    (numbered : arriving.seq? = some seq) (listed : copy ∈ timeline.entries)
    (copySeq : copy.seq? = some seq) : copy ∈ older := by
  rw [stop.entries_eq] at listed
  rcases List.mem_append.mp listed with inOlder | inRest
  · exact inOlder
  · rcases List.mem_cons.mp inRest with rfl | inNewer
    · rw [relate_of_confirmed copySeq numbered] at before
      exact (UInt64.lt_irrefl seq (Std.compare_eq_lt.mp before)).elim
    · exact (not_mem_of_passed numbered copySeq stop.passed inNewer).elim

/-- A numbered message whose number is in the timeline is dropped unless it repeats the entry
that has the number. -/
theorem duplicate_iff_not_repeats (numbered : arriving.seq? = some seq)
    (present : seq ∈ timeline.seqs) :
    (timeline.insert arriving).1 = .duplicate ↔ ¬timeline.Repeats arriving := by
  obtain ⟨copy, listed, copySeq⟩ := mem_seqs.mp present
  rcases insert_cases timeline arriving with
    ⟨older, entry, newer, stop, before, result⟩ |
    ⟨older, entry, newer, stop, equal, result⟩ | ⟨passed, -⟩
  · have behind := stop.mem_older before numbered listed copySeq
    rw [result]
    apply iff_of_false nofun
    exact not_not_intro ⟨seq, older, entry, newer, numbered, stop, before, copy, behind, copySeq⟩
  · rw [result]
    apply iff_of_true rfl
    rintro ⟨_, _, other, _, _, stop', before, _⟩
    obtain ⟨-, rfl, -⟩ := stop.unique stop'
    cases equal.symm.trans before
  · exact (not_mem_of_passed numbered copySeq passed listed).elim

/-- In an ascending timeline a message only repeats its number across a pending entry of an
earlier time. -/
theorem repeats_iff_misplaces (ascending : timeline.Ascending)
    (numbered : arriving.seq? = some seq) (present : seq ∈ timeline.seqs) :
    timeline.Repeats arriving ↔ timeline.Misplaces arriving := by
  constructor
  · rintro ⟨seq', older, entry, newer, numbered', stop, before, copy, behind, copySeq⟩
    refine ⟨seq', older, entry, newer, numbered', stop, ?_⟩
    cases entrySeq : entry.seq? with
    | none =>
        rw [relate_of_pending (.inl entrySeq)] at before
        exact ⟨rfl, Std.compare_eq_lt.mp before, copy, behind, seq', copySeq, UInt64.le_refl seq'⟩
    | some number =>
        rw [relate_of_confirmed entrySeq numbered'] at before
        have lower : seq' < number := by
          unfold Ascending seqs at ascending
          rw [stop.entries_eq, List.filterMap_append, List.filterMap_cons, entrySeq] at ascending
          exact (List.pairwise_append.mp ascending).2.2 seq'
            (List.mem_filterMap.mpr ⟨copy, behind, copySeq⟩) number List.mem_cons_self
        exact (UInt64.lt_irrefl seq' (UInt64.lt_trans lower (Std.compare_eq_lt.mp before))).elim
  · rintro ⟨seq', older, waiting, newer, numbered', stop, waits, earlier, -⟩
    obtain ⟨copy, listed, copySeq⟩ := mem_seqs.mp present
    have before : relate waiting arriving = .lt := by
      rw [relate_of_pending (.inl waits)]
      exact Std.compare_eq_lt.mpr earlier
    have behind := stop.mem_older before numbered listed copySeq
    exact ⟨seq, older, waiting, newer, numbered, stop, before, copy, behind, copySeq⟩

end Timeline

namespace Session

variable {η : Type} {submits : Message → Prop} {message : Message} {seq : UInt64}
  {channel : Channel}

/-! ## What was merged is known -/

section Knowing

variable {σ : Type} [MessageStore σ]

/-- The tracker has taken note of a number, or of a later one. -/
def Knows (session : Session σ η) (channel : Channel) (seq : UInt64) : Prop :=
  ∃ newest, (session.tracker.state channel).newest = some newest ∧ seq ≤ newest

/-- A change of a session is at most one call of its tracker. -/
theorem Change.tracker_eq {before after : Session σ η} (change : Change submits before after) :
    after.tracker = before.tracker ∨
      ∃ call : Tracker.Call, after.tracker = call.apply before.tracker := by
  cases change with
  | @sync channel _ _ change =>
      cases change with
      | issued => exact .inr ⟨.issue channel, rfl⟩
      | advanced last => exact .inr ⟨.advance channel last, rfl⟩
      | finished => exact .inr ⟨.finish channel, rfl⟩
      | @repeated _ seq => exact .inr ⟨.arrive channel seq, rfl⟩
      | @merged _ seq => exact .inr ⟨.arrive channel seq, rfl⟩
      | _ => exact .inl rfl
  | anchored _ channel tail => exact .inr ⟨.anchor channel tail, rfl⟩
  | @confirmed _ _ entry channel => exact .inr ⟨.arrive channel entry.header.seq, rfl⟩
  | sent =>
      unfold noteSent
      split <;> exact .inl rfl
  | rearmed => exact .inr ⟨.rearm, rfl⟩
  | _ => exact .inl rfl

theorem Knows.change {before after : Session σ η} (change : Change submits before after)
    (knows : before.Knows channel seq) : after.Knows channel seq := by
  obtain ⟨newest, known, within⟩ := knows
  rcases change.tracker_eq with same | ⟨call, called⟩
  · exact ⟨newest, same ▸ known, within⟩
  · obtain ⟨later, raised, above⟩ := (before.tracker.effect_apply call channel).newest_le known
    exact ⟨later, called ▸ raised, UInt64.le_trans within above⟩

/-- A numbered message that is merged is known. -/
theorem knows_of_merge {session merged : Session σ η} {inserted : Timeline.Inserted}
    (numbered : message.seq? = some seq)
    (done : merge channel message session = .ok inserted merged) : merged.Knows channel seq := by
  obtain ⟨-, store, rfl⟩ := of_merge_eq_ok numbered done
  unfold Knows
  rw [Tracker.state_arrive, if_pos rfl]
  exact SyncState.newest_arrive_anchor ..

end Knowing

/-! ## Redelivery -/

section Redelivery

variable [HistorySource η] {frame : Octets}

/-- An announcement answers with the outcome of the merge. -/
theorem routed_of_announce {session merged after : Session MemoryStore η}
    {inserted : Timeline.Inserted} {routed : Routed}
    (announced : announce session message inserted merged = .ok routed after) :
    routed = .content (message.channel session.me) inserted := by
  have ending : ∀ middle : Session MemoryStore η,
      (do
        if (session.tracker.state? (message.channel session.me)).isNone then
          let _ ← catchUp (message.channel session.me)
        return Routed.content (message.channel session.me) inserted :
          SessionM MemoryStore η Routed) middle = .ok routed after →
      routed = .content (message.channel session.me) inserted := by
    intro middle ended
    split at ended
    · obtain ⟨_, _, -, ended⟩ := of_bind_eq_ok ended
      cases ended
      rfl
    · cases ended
      rfl
  unfold announce at announced
  dsimp only at announced
  split at announced
  · obtain ⟨_, _, -, announced⟩ := of_bind_eq_ok announced
    obtain ⟨_, _, -, announced⟩ := of_bind_eq_ok announced
    obtain ⟨_, told, -, announced⟩ := of_bind_eq_ok announced
    exact ending told announced
  · exact ending merged announced

/-- A number is in the timeline of its channel and known to the tracker. -/
def Recalls (session : Session MemoryStore η) (channel : Channel) (seq : UInt64) : Prop :=
  seq ∈ (session.timeline channel).seqs ∧ session.Knows channel seq

omit [HistorySource η] in
theorem Recalls.change {before after : Session MemoryStore η}
    (change : Change submits before after) (recalls : before.Recalls channel seq) :
    after.Recalls channel seq :=
  ⟨change.conserves.seqs channel recalls.1, recalls.2.change change⟩

omit [HistorySource η] in
/-- A numbered message that is merged as new is recalled. -/
theorem recalls_of_merge {session merged : Session MemoryStore η} {index : Nat}
    (numbered : message.seq? = some seq)
    (done : merge channel message session = .ok (.at index) merged) :
    merged.Recalls channel seq := by
  refine ⟨?_, knows_of_merge numbered done⟩
  obtain ⟨outcome, store, rfl⟩ := of_merge_eq_ok numbered done
  have timeline : (session.setTimeline channel _).timeline channel =
      ((session.timeline channel).insert message).2 :=
    timeline_setTimeline_self session channel _
  change seq ∈ ((session.setTimeline channel _).timeline channel).seqs
  rw [timeline]
  exact Timeline.mem_seqs_insert.mpr (.inr ⟨numbered, outcome ▸ rfl⟩)

/-- Content that was taken in as new is recalled. -/
theorem recalls_of_accepted {earlier middle : Session MemoryStore η} {index : Nat}
    (decoded : Message.decode frame = .ok message)
    (content : message.header.kind.isContent = true) (numbered : message.seq? = some seq)
    (accepted : receive frame earlier = .ok (.content channel (.at index)) middle) :
    channel = message.channel earlier.me ∧ middle.Recalls channel seq := by
  rw [receive_eq_receiveContent decoded content, receiveContent_eq] at accepted
  obtain ⟨_, anchored, -, accepted⟩ := of_bind_eq_ok accepted
  obtain ⟨inserted, merged, done, announced⟩ := of_bind_eq_ok accepted
  obtain ⟨rfl, rfl⟩ := Routed.content.inj (routed_of_announce announced)
  have follows : Follows (Change fun _ => False) _ merged :=
    (follows_announce earlier message (.at index) merged).change
  unfold Follows at follows
  rw [leaves_of_ok announced] at follows
  exact ⟨rfl, preserved_run (P := fun left => left.Recalls (message.channel earlier.me) seq)
    (fun _ _ => Recalls.change) follows (recalls_of_merge numbered done)⟩

/-- Content that is recalled and taken for a duplicate changes nothing. -/
theorem receive_of_duplicate {session : Session MemoryStore η}
    (decoded : Message.decode frame = .ok message)
    (content : message.header.kind.isContent = true) (numbered : message.seq? = some seq)
    (recalls : session.Recalls (message.channel session.me) seq)
    (duplicate : ((session.timeline (message.channel session.me)).insert message).1 = .duplicate) :
    receive frame session =
      .ok (.content (message.channel session.me) .duplicate) session := by
  obtain ⟨present, newest, known, within⟩ := recalls
  have tracked := Tracker.state?_of_newest known
  have anchored : anchor (message.channel session.me) session = .ok () session := by
    unfold anchor Tracker.isAnchored
    rw [known]
    rfl
  have unplaced := Timeline.insert_of_duplicate duplicate
  have merged : merge (message.channel session.me) message session = .ok .duplicate session := by
    have found : session.timelines.find? (message.channel session.me) =
        some (session.timeline (message.channel session.me)) := by
      unfold Session.timeline at present ⊢
      cases lookUp : session.timelines.find? (message.channel session.me) with
      | none =>
          rw [lookUp] at present
          cases present
      | some timeline => rfl
    rw [merge_of_duplicate numbered (by rw [duplicate]; rfl), unplaced,
      Tracker.arrive_of_known known within, setTimeline, Assoc.insert_of_find? found]
  rw [receive_eq_receiveContent decoded content, receiveContent_eq, bind_of_ok anchored,
    bind_of_ok merged]
  exact announce_duplicate_of_tracked (tracked ▸ rfl)

/-- Content that is placed is not answered as a duplicate. -/
theorem duplicate_of_receive {session after : Session MemoryStore η}
    (decoded : Message.decode frame = .ok message)
    (content : message.header.kind.isContent = true) (numbered : message.seq? = some seq)
    (received : receive frame session = .ok (.content channel .duplicate) after) :
    ((session.timeline (message.channel session.me)).insert message).1 = .duplicate := by
  obtain ⟨merged, result, -⟩ := receiveContent_merged session numbered
  rw [receive_eq_receiveContent decoded content, result] at received
  exact (Routed.content.inj (routed_of_announce received)).2.symm

/-- Content that was taken in as new and is delivered again, after any further requests, is
answered as a duplicate and changes nothing, exactly if it does not repeat the entry that has
its number.  While the numbers of the channel ascend, it repeats that entry exactly if the scan
for its place stops at a pending entry of an earlier time that lies in between. -/
theorem redelivery_changes_nothing_iff {earlier middle session : Session MemoryStore η}
    {index : Nat} (decoded : Message.decode frame = .ok message)
    (content : message.header.kind.isContent = true) (numbered : message.seq? = some seq)
    (accepted : receive frame earlier = .ok (.content channel (.at index)) middle)
    (later : Later submits middle session) :
    (receive frame session = .ok (.content channel .duplicate) session ↔
      ¬(session.timeline channel).Repeats message) ∧
    ((session.timeline channel).Ascending →
      ((session.timeline channel).Repeats message ↔
        (session.timeline channel).Misplaces message)) := by
  have sameAccount : session.me = earlier.me := by
    refine later.preserves (fun _ _ change same => change.me_eq.trans same) ?_
    exact (follows_receive submits earlier frame).me_eq accepted
  obtain ⟨rfl, recalls⟩ := recalls_of_accepted decoded content numbered accepted
  have recalls := later.preserves (fun _ _ => Recalls.change) recalls
  rw [← sameAccount] at recalls ⊢
  constructor
  · rw [← Timeline.duplicate_iff_not_repeats numbered recalls.1]
    exact ⟨duplicate_of_receive decoded content numbered,
      receive_of_duplicate decoded content numbered recalls⟩
  · intro ascending
    exact Timeline.repeats_iff_misplaces ascending numbered recalls.1

end Redelivery

/-! ## A text between two times -/

/-- The frame of a text of account 2 under the number 1, at time 300. -/
def firstFrame : Octets :=
  (Message.bareText 2 1 1 300).spelling

/-- A session of account 1 that has taken in the text of time 300. -/
def afterFirst : Session MemoryStore Silence :=
  leaves (receive firstFrame) (start 1 ⟨8, 8, {}⟩ MemoryStore.empty .silence)

/-- The session after a second text, numbered 2 but of time 100, and a text that is sent. -/
def afterSending (time : UInt64) : Session MemoryStore Silence :=
  let second := leaves (receive (Message.bareText 2 1 2 100).spelling) afterFirst
  let link : Link := { connection := some ⟨"", 1, .tcp⟩ }
  (leaves flush (link, leaves (submit (.bareText 1 2 0 time)) second)).2

theorem decode_firstFrame : Message.decode firstFrame = .ok (.bareText 2 1 1 300) := by
  decide +kernel

theorem accepted_firstFrame :
    receive firstFrame (start 1 ⟨8, 8, {}⟩ MemoryStore.empty Silence.silence) =
      .ok (.content ⟨1, 2⟩ (.at 0)) afterFirst :=
  eq_ok_of_answer? (by decide +kernel)

theorem later_afterSending (time : UInt64) :
    Later (fun message => message.seq? = none) afterFirst (afterSending time) := by
  refine .tail (.tail (.single (.receive _ _)) (.submit _ ?_)) (.flush _ _)
  rfl

/-- After a text of time 400 was sent, the text of time 300 is a duplicate. -/
theorem redelivery_before_pending :
    receive firstFrame (start 1 ⟨8, 8, {}⟩ MemoryStore.empty Silence.silence) =
        .ok (.content ⟨1, 2⟩ (.at 0)) afterFirst ∧
      Later (fun message => message.seq? = none) afterFirst (afterSending 400) ∧
      receive firstFrame (afterSending 400) =
        .ok (.content ⟨1, 2⟩ .duplicate) (afterSending 400) := by
  have noRepeat : ¬((afterSending 400).timeline ⟨1, 2⟩).Repeats (.bareText 2 1 1 300) := by
    have duplicate : (((afterSending 400).timeline ⟨1, 2⟩).insert (.bareText 2 1 1 300)).1 =
        .duplicate := by decide +kernel
    have numbers : ((afterSending 400).timeline ⟨1, 2⟩).seqs = [1, 2] := by decide +kernel
    have present : (1 : UInt64) ∈ ((afterSending 400).timeline ⟨1, 2⟩).seqs :=
      numbers ▸ List.mem_cons_self
    exact (Timeline.duplicate_iff_not_repeats rfl present).mp duplicate
  have later := later_afterSending 400
  exact ⟨accepted_firstFrame, later, (redelivery_changes_nothing_iff decode_firstFrame rfl rfl
    accepted_firstFrame later).1.mpr noRepeat⟩

/-- After a text of time 200 was sent, the text of time 300 is stored a second time. -/
theorem stored_again_across_pending :
    ∃ frame message channel index again,
    ∃ earlier middle session after : Session MemoryStore Silence,
      Reachable (fun message => message.seq? = none) earlier ∧
      Message.decode frame = .ok message ∧ message.header.kind.isContent = true ∧
      message.seq? = some 1 ∧
      receive frame earlier = .ok (.content channel (.at index)) middle ∧
      Later (fun message => message.seq? = none) middle session ∧
      receive frame session = .ok (.content channel (.at again)) after := by
  have stored : receive firstFrame (afterSending 200) =
      .ok (.content ⟨1, 2⟩ (.at 3)) (leaves (receive firstFrame) (afterSending 200)) :=
    eq_ok_of_answer? (by decide +kernel)
  exact ⟨firstFrame, _, _, 0, 3, _, afterFirst, afterSending 200, _,
    .start 1 ⟨8, 8, {}⟩ MemoryStore.empty Silence.silence, decode_firstFrame, rfl, rfl,
    accepted_firstFrame, later_afterSending 200, stored⟩

end Session

end Messenger
