import Messenger.Proofs.Timeline.Confirmation

/-!
# Copies that wait

A sent message waits in the timeline of its channel under its parties and its time,
and an acknowledgement takes effect on the first entry that waits under them.
Insertions and acknowledgements of other messages take no copy away.
-/

namespace Messenger.Timeline

variable {timeline : Timeline} {arriving message : Message}
  {sender receiver : AccountId} {minted seq timestamp : UInt64}

/-- How many pending entries have the parties and the time of a message. -/
def copies (timeline : Timeline) (message : Message) : Nat :=
  timeline.entries.countP
    (awaits message.header.sender message.header.receiver message.header.timestamp)

/-- An insertion stores one more entry, or none. -/
theorem entries_insert_perm (timeline : Timeline) (arriving : Message) :
    (timeline.insert arriving).2.entries.Perm
      (if (timeline.insert arriving).1.isNew then arriving :: timeline.entries
        else timeline.entries) := by
  rcases insert_cases timeline arriving with
    ⟨older, entry, newer, stop, -, result⟩ | ⟨-, -, -, -, -, result⟩ | ⟨-, result⟩
  · rw [result, stop.entries_eq]
    have moved : (older ++ [entry] ++ arriving :: newer).Perm
        (arriving :: (older ++ [entry] ++ newer)) := List.perm_middle
    simpa [Inserted.isNew] using moved
  · rw [result]
    exact .refl _
  · rw [result]
    exact .refl _

/-- An insertion adds a copy of a message if it stores one. -/
theorem copies_insert (timeline : Timeline) (arriving message : Message) :
    (timeline.insert arriving).2.copies message = timeline.copies message +
      if (timeline.insert arriving).1.isNew ∧ awaits message.header.sender
        message.header.receiver message.header.timestamp arriving then 1 else 0 := by
  unfold copies
  rw [(entries_insert_perm timeline arriving).countP_eq]
  cases (timeline.insert arriving).1.isNew with
  | true => simp [List.countP_cons]
  | false => simp

theorem copies_le_insert (timeline : Timeline) (arriving message : Message) :
    timeline.copies message ≤ (timeline.insert arriving).2.copies message := by
  rw [copies_insert]
  exact Nat.le_add_right _ _

/-- Without a copy that waits, an acknowledgement of the message finds nothing. -/
theorem confirm_of_no_copies (seq timestamp : UInt64) (none : timeline.copies message = 0) :
    timeline.confirm message.header.sender message.header.receiver message.header.timestamp
      seq timestamp = (.none, timeline) := by
  apply confirm_of_none
  intro entry listed
  simpa using List.countP_eq_zero.mp none entry listed

/-- Under a number, a confirmation takes the entry that waits from the pending ones and no other,
and afterwards the timeline has an entry with the number. -/
theorem confirm_of_numbered {older newer : List Message} {waiting : Message} (timestamp : UInt64)
    (first : timeline.WaitsAt sender receiver minted older waiting newer) (numbered : seq ≠ 0) :
    ∃ entry after, timeline.confirm sender receiver minted seq timestamp = (some entry, after) ∧
      entry.seq? = some seq ∧ seq ∈ after.seqs ∧
      after.pending.Perm (pending ⟨older ++ newer⟩) := by
  cases search : timeline.find? seq with
  | some entry =>
      have result : timeline.confirm sender receiver minted seq timestamp = _ :=
        confirm_of_present first search
      have listed := List.mem_of_find?_eq_some search
      have entrySeq : entry.seq? = some seq := by simpa using List.find?_some search
      have kept := seqs_subset_of_confirm result (mem_seqs.mpr ⟨entry, listed, entrySeq⟩)
      exact ⟨entry, _, result, entrySeq, kept, .refl _⟩
  | none =>
      have result : timeline.confirm sender receiver minted seq timestamp = _ :=
        confirm_of_absent first search
      have copySeq : (confirmedCopy waiting seq timestamp).seq? = some seq :=
        Message.seq?_eq_some_iff.mpr ⟨rfl, numbered⟩
      have settled : (confirmedCopy waiting seq timestamp).position.isPending = false := by
        rw [Message.isPending_eq_isNone, copySeq]
        rfl
      refine ⟨_, _, result, copySeq, mem_seqs.mpr ⟨_, by simp, copySeq⟩, ?_⟩
      unfold pending
      refine ((List.mergeSort_perm _ _).filter _).trans (.of_eq ?_)
      simp only [List.filter_append, List.filter_cons, settled, Bool.false_eq_true, if_false]

/-- The copies of a message are among the pending entries. -/
theorem copies_eq_countP_pending (timeline : Timeline) (message : Message) :
    timeline.copies message = timeline.pending.countP
      (awaits message.header.sender message.header.receiver message.header.timestamp) := by
  unfold copies pending
  rw [List.countP_filter]
  refine List.countP_congr fun entry _ => ?_
  rw [Bool.and_eq_true]
  refine (and_iff_left_of_imp fun awaited => ?_).symm
  rw [Message.isPending_eq_isNone, (awaits_eq_true_iff.mp awaited).1]
  rfl

/-- An acknowledgement of a message with copies that wait gives one of them the number, and
takes it from the copies. -/
theorem confirm_of_copies (timestamp : UInt64) (waits : 0 < timeline.copies message)
    (numbered : seq ≠ 0) :
    ∃ entry after,
      timeline.confirm message.header.sender message.header.receiver message.header.timestamp
        seq timestamp = (some entry, after) ∧
      entry.seq? = some seq ∧ seq ∈ after.seqs ∧
      after.copies message + 1 = timeline.copies message := by
  rcases exists_waitsAt_or_none timeline message.header.sender message.header.receiver
      message.header.timestamp with ⟨older, waiting, newer, first⟩ | none
  · obtain ⟨entry, after, result, entrySeq, listed, left⟩ :=
      confirm_of_numbered timestamp first numbered
    refine ⟨entry, after, result, entrySeq, listed, ?_⟩
    rw [copies_eq_countP_pending, left.countP_eq, ← copies_eq_countP_pending]
    unfold copies
    rw [first.entries_eq, List.countP_append, List.countP_append,
      List.countP_cons_of_pos first.awaited]
    omega
  · obtain ⟨entry, listed, awaited⟩ := List.countP_pos_iff.mp waits
    cases (none entry listed).symm.trans awaited

/-- An acknowledgement of another message takes no copy away. -/
theorem copies_le_confirm
    (other : ¬(message.header.sender = sender ∧ message.header.receiver = receiver ∧
      message.header.timestamp = minted)) :
    timeline.copies message ≤
      (timeline.confirm sender receiver minted seq timestamp).2.copies message := by
  have passed : ∀ {waiting}, awaits sender receiver minted waiting = true →
      ¬awaits message.header.sender message.header.receiver message.header.timestamp
        waiting = true := by
    intro waiting awaited same
    rw [awaits_eq_true_iff] at awaited same
    grind
  unfold copies
  rcases confirm_cases timeline sender receiver minted seq timestamp with
    ⟨-, result⟩ | ⟨older, waiting, newer, _, first, -, result⟩ |
    ⟨older, waiting, newer, first, -, result⟩
  · exact result ▸ Nat.le_refl _
  · apply Nat.le_of_eq
    rw [result, first.entries_eq, List.countP_append, List.countP_append,
      List.countP_cons_of_neg (passed first.awaited)]
  · rw [result, (List.mergeSort_perm _ _).countP_eq, first.entries_eq, List.countP_append,
      List.countP_append, List.countP_cons_of_neg (passed first.awaited)]
    exact Nat.add_le_add_left ((List.sublist_cons_self _ newer).countP_le) _

/-! ## Several messages -/

/-- Insert messages one after the other. -/
def insertAll (timeline : Timeline) (messages : List Message) : Timeline :=
  messages.foldl (fun timeline message => (timeline.insert message).2) timeline

/-- Other messages are no copies of a message. -/
theorem copies_insertAll {messages : List Message} {message : Message} (timeline : Timeline)
    (others : ∀ other ∈ messages, awaits message.header.sender message.header.receiver
      message.header.timestamp other = false) :
    (timeline.insertAll messages).copies message = timeline.copies message := by
  induction messages generalizing timeline with
  | nil => rfl
  | cons other rest ih =>
      change ((timeline.insert other).2.insertAll rest).copies message = _
      rw [ih _ fun later behind => others later (List.mem_cons_of_mem other behind),
        copies_insert, others other List.mem_cons_self]
      simp

/-- Among other messages, an unnumbered message adds one copy of itself if it is stored. -/
theorem copies_insertAll_between {earlier later : List Message} {message : Message}
    (timeline : Timeline) (unnumbered : message.seq? = none)
    (others : ∀ other ∈ earlier ++ later, awaits message.header.sender message.header.receiver
      message.header.timestamp other = false) :
    (timeline.insertAll (earlier ++ message :: later)).copies message =
      timeline.copies message +
        if ((timeline.insertAll earlier).insert message).1.isNew then 1 else 0 := by
  have split : timeline.insertAll (earlier ++ message :: later) =
      ((timeline.insertAll earlier).insert message).2.insertAll later := by
    unfold insertAll
    rw [List.foldl_append, List.foldl_cons]
  have awaited : awaits message.header.sender message.header.receiver message.header.timestamp
      message = true := awaits_eq_true_iff.mpr ⟨unnumbered, rfl, rfl, rfl⟩
  rw [split, copies_insertAll _ fun other behind => others other (List.mem_append_right _ behind),
    copies_insert, awaited,
    copies_insertAll _ fun other before => others other (List.mem_append_left _ before)]
  simp only [and_true]

end Messenger.Timeline
