import Messenger.Proofs.Timeline.Confirmation
import Mathlib.Data.List.Induction

/-!
# When the confirmed entries ascend

A timeline is edited by insertions and confirmations.  Its confirmed entries stay
in ascending order of their numbers exactly as long as no insertion stops at an
older pending entry while a confirmed entry behind it has the same or a higher
number.  Confirmations never disturb the order.
-/

namespace Messenger.Timeline

/-- A call that changes a timeline. -/
inductive Edit where
  | insert (arriving : Message)
  | confirm (sender receiver : AccountId) (minted seq timestamp : UInt64)
deriving DecidableEq, Repr

/-- The timeline after a call. -/
def edit (timeline : Timeline) : Edit → Timeline
  | .insert arriving => (timeline.insert arriving).2
  | .confirm sender receiver minted seq timestamp =>
      (timeline.confirm sender receiver minted seq timestamp).2

/-- The timeline after calls on an empty one. -/
def replay (edits : List Edit) : Timeline :=
  edits.foldl edit empty

/-- The numbers of the confirmed entries strictly increase in list order. -/
def Ascending (timeline : Timeline) : Prop :=
  timeline.seqs.Pairwise (· < ·)

instance (timeline : Timeline) : Decidable timeline.Ascending :=
  inferInstanceAs (Decidable (timeline.seqs.Pairwise (· < ·)))

/-- The scan for a numbered message stops at a pending entry of an earlier time, and a
confirmed entry behind it does not have a lower number. -/
def Misplaces (timeline : Timeline) (arriving : Message) : Prop :=
  ∃ seq older waiting newer,
    arriving.seq? = some seq ∧ StopsAt timeline arriving older waiting newer ∧
      waiting.seq? = none ∧ waiting.header.timestamp < arriving.header.timestamp ∧
        ∃ earlier ∈ older, ∃ number, earlier.seq? = some number ∧ seq ≤ number

/-- The scan for a numbered message stops at an entry before it, and an entry behind that
one already has its number. -/
def Repeats (timeline : Timeline) (arriving : Message) : Prop :=
  ∃ seq older entry newer,
    arriving.seq? = some seq ∧ StopsAt timeline arriving older entry newer ∧
      relate entry arriving = .lt ∧ ∃ earlier ∈ older, earlier.seq? = some seq

/-! ## Insertions -/

private theorem pairwise_between_iff {lower upper : List UInt64} {seq : UInt64}
    (ascending : (lower ++ upper).Pairwise (· < ·)) :
    (lower ++ seq :: upper).Pairwise (· < ·) ↔
      (∀ a ∈ lower, a < seq) ∧ ∀ b ∈ upper, seq < b := by
  simp only [List.pairwise_append, List.pairwise_cons, List.mem_cons] at ascending ⊢
  grind

/-- Entries that the scan for a numbered message passes over have higher numbers. -/
private theorem lt_of_passed {arriving : Message} {newer : List Message} {seq number : UInt64}
    (arrivingSeq : arriving.seq? = some seq)
    (passed : ∀ later ∈ newer, relate later arriving = .gt)
    (member : number ∈ newer.filterMap Message.seq?) : seq < number := by
  obtain ⟨later, laterMember, laterSeq⟩ := List.mem_filterMap.mp member
  have order := passed later laterMember
  rw [relate_of_confirmed laterSeq arrivingSeq] at order
  exact Std.compare_eq_gt.mp order

private theorem seqs_insert_of_unnumbered {timeline : Timeline} {arriving : Message}
    (unnumbered : arriving.seq? = none) :
    (timeline.insert arriving).2.seqs = timeline.seqs := by
  rcases insert_cases timeline arriving with
    ⟨older, entry, newer, stop, -, result⟩ | ⟨-, -, -, -, -, result⟩ | ⟨-, result⟩
  · simp [result, seqs, stop.entries_eq, List.filterMap_cons, unnumbered]
  · rw [result]
  · simp [result, seqs, unnumbered]

/-- The numbers after a numbered message is stored behind `entry`. -/
private theorem seqs_stored {arriving entry : Message} {older newer : List Message}
    {seq : UInt64} (arrivingSeq : arriving.seq? = some seq) :
    seqs ⟨older ++ entry :: arriving :: newer⟩ =
      (older ++ [entry]).filterMap Message.seq? ++ seq :: newer.filterMap Message.seq? := by
  simp [seqs, List.filterMap_cons, arrivingSeq]
  cases entry.seq? <;> simp

/-- Where the scan stops at an entry before a numbered message, everything from there on has
lower numbers unless the message is misplaced. -/
private theorem lower_iff_not_misplaces {timeline : Timeline} {arriving entry : Message}
    {older newer : List Message} {seq : UInt64} (ascending : timeline.Ascending)
    (arrivingSeq : arriving.seq? = some seq)
    (stop : StopsAt timeline arriving older entry newer) (before : relate entry arriving = .lt) :
    (∀ a ∈ (older ++ [entry]).filterMap Message.seq?, a < seq) ↔ ¬timeline.Misplaces arriving := by
  constructor
  · rintro lower ⟨_, _, _, _, arrivingSeq', stop', _, _, earlier, member, number, earlierSeq, high⟩
    obtain ⟨rfl, rfl, rfl⟩ := stop.unique stop'
    obtain rfl : seq = _ := Option.some.inj (arrivingSeq.symm.trans arrivingSeq')
    have low := lower number (List.mem_filterMap.mpr
      ⟨earlier, List.mem_append_left [entry] member, earlierSeq⟩)
    exact UInt64.not_le.mpr low high
  · intro notMisplaced a member
    obtain ⟨earlier, earlierMember, earlierSeq⟩ := List.mem_filterMap.mp member
    cases entrySeq : entry.seq? with
    | none =>
        rw [relate_of_pending (.inl entrySeq)] at before
        have inOlder : earlier ∈ older := by
          rcases List.mem_append.mp earlierMember with inOlder | isEntry
          · exact inOlder
          · rw [List.mem_singleton.mp isEntry, entrySeq] at earlierSeq
            cases earlierSeq
        rw [← UInt64.not_le]
        intro high
        exact notMisplaced ⟨seq, older, entry, newer, arrivingSeq, stop, entrySeq,
          Std.compare_eq_lt.mp before, earlier, inOlder, a, earlierSeq, high⟩
    | some number =>
        rw [relate_of_confirmed entrySeq arrivingSeq] at before
        have numberLow : number < seq := Std.compare_eq_lt.mp before
        rcases List.mem_append.mp earlierMember with inOlder | isEntry
        · have below : a < number := by
            unfold Ascending seqs at ascending
            rw [stop.entries_eq, List.filterMap_append, List.filterMap_cons, entrySeq] at ascending
            exact (List.pairwise_append.mp ascending).2.2 a
              (List.mem_filterMap.mpr ⟨earlier, inOlder, earlierSeq⟩) number List.mem_cons_self
          exact UInt64.lt_trans below numberLow
        · rw [List.mem_singleton.mp isEntry, entrySeq] at earlierSeq
          exact Option.some.inj earlierSeq ▸ numberLow

/-- An insertion keeps an ascending timeline ascending unless it misplaces the message. -/
theorem ascending_insert_iff {timeline : Timeline} {arriving : Message}
    (ascending : timeline.Ascending) :
    (timeline.insert arriving).2.Ascending ↔ ¬timeline.Misplaces arriving := by
  cases arrivingSeq : arriving.seq? with
  | none =>
      have kept : (timeline.insert arriving).2.Ascending := by
        unfold Ascending
        rw [seqs_insert_of_unnumbered arrivingSeq]
        exact ascending
      apply iff_of_true kept
      rintro ⟨seq, -, -, -, numbered, -⟩
      rw [arrivingSeq] at numbered
      cases numbered
  | some seq =>
      rcases insert_cases timeline arriving with
        ⟨older, entry, newer, stop, before, result⟩ |
        ⟨older, entry, newer, stop, equal, result⟩ | ⟨passed, result⟩
      · have upper : ∀ number ∈ newer.filterMap Message.seq?, seq < number :=
          fun number => lt_of_passed arrivingSeq stop.passed
        have split : ((older ++ [entry]).filterMap Message.seq? ++
            newer.filterMap Message.seq?).Pairwise (· < ·) := by
          rw [← List.filterMap_append, List.append_assoc, List.singleton_append,
            ← stop.entries_eq]
          exact ascending
        rw [result]
        unfold Ascending
        rw [seqs_stored arrivingSeq, pairwise_between_iff split, and_iff_left upper]
        exact lower_iff_not_misplaces ascending arrivingSeq stop before
      · rw [result]
        apply iff_of_true ascending
        rintro ⟨_, _, waiting, _, _, stop', waits, earlier, _⟩
        obtain ⟨-, rfl, -⟩ := stop.unique stop'
        rw [relate_of_pending (.inl waits), Std.compare_eq_iff_eq] at equal
        exact UInt64.lt_irrefl _ (equal ▸ earlier)
      · rw [result]
        have stored : Ascending ⟨arriving :: timeline.entries⟩ := by
          unfold Ascending seqs
          rw [List.filterMap_cons, arrivingSeq]
          exact List.pairwise_cons.mpr ⟨fun number => lt_of_passed arrivingSeq passed, ascending⟩
        apply iff_of_true stored
        rintro ⟨_, _, _, _, _, stop, _⟩
        exact stop.not_passed passed

/-- Where the scan stops at an entry before a numbered message, no entry has its number unless
the message repeats it. -/
private theorem fresh_iff_not_repeats {timeline : Timeline} {arriving entry : Message}
    {older newer : List Message} {seq : UInt64} (arrivingSeq : arriving.seq? = some seq)
    (stop : StopsAt timeline arriving older entry newer) (before : relate entry arriving = .lt) :
    seq ∉ (older ++ [entry]).filterMap Message.seq? ++ newer.filterMap Message.seq? ↔
      ¬timeline.Repeats arriving := by
  constructor
  · rintro fresh ⟨_, _, _, _, arrivingSeq', stop', _, earlier, member, earlierSeq⟩
    obtain ⟨rfl, rfl, rfl⟩ := stop.unique stop'
    obtain rfl : seq = _ := Option.some.inj (arrivingSeq.symm.trans arrivingSeq')
    apply fresh
    apply List.mem_append_left
    exact List.mem_filterMap.mpr ⟨earlier, List.mem_append_left [entry] member, earlierSeq⟩
  · intro notRepeated present
    rcases List.mem_append.mp present with inLower | inUpper
    · obtain ⟨earlier, member, earlierSeq⟩ := List.mem_filterMap.mp inLower
      rcases List.mem_append.mp member with inOlder | isEntry
      · exact notRepeated
          ⟨seq, older, entry, newer, arrivingSeq, stop, before, earlier, inOlder, earlierSeq⟩
      · rw [List.mem_singleton.mp isEntry] at earlierSeq
        rw [relate_of_confirmed earlierSeq arrivingSeq] at before
        exact UInt64.lt_irrefl seq (Std.compare_eq_lt.mp before)
    · exact UInt64.lt_irrefl seq (lt_of_passed arrivingSeq stop.passed inUpper)

/-- An insertion repeats no number of a timeline with distinct ones unless an entry behind the
place where its scan stops has the number. -/
theorem nodup_seqs_insert_iff {timeline : Timeline} {arriving : Message}
    (distinct : timeline.seqs.Nodup) :
    (timeline.insert arriving).2.seqs.Nodup ↔ ¬timeline.Repeats arriving := by
  cases arrivingSeq : arriving.seq? with
  | none =>
      rw [seqs_insert_of_unnumbered arrivingSeq]
      apply iff_of_true distinct
      rintro ⟨seq, _, _, _, numbered, _⟩
      rw [arrivingSeq] at numbered
      cases numbered
  | some seq =>
      rcases insert_cases timeline arriving with
        ⟨older, entry, newer, stop, before, result⟩ |
        ⟨older, entry, newer, stop, equal, result⟩ | ⟨passed, result⟩
      · have split : ((older ++ [entry]).filterMap Message.seq? ++
            newer.filterMap Message.seq?).Nodup := by
          rw [← List.filterMap_append, List.append_assoc, List.singleton_append,
            ← stop.entries_eq]
          exact distinct
        rw [result, seqs_stored arrivingSeq, List.perm_middle.nodup_iff, List.nodup_cons,
          and_iff_left split]
        exact fresh_iff_not_repeats arrivingSeq stop before
      · rw [result]
        apply iff_of_true distinct
        rintro ⟨_, _, entry', _, _, stop', before, _⟩
        obtain ⟨-, rfl, -⟩ := stop.unique stop'
        rw [equal] at before
        cases before
      · have fresh : seq ∉ timeline.seqs := fun member =>
          UInt64.lt_irrefl seq (lt_of_passed arrivingSeq passed member)
        have stored : (seqs ⟨arriving :: timeline.entries⟩).Nodup := by
          unfold seqs
          rw [List.filterMap_cons, arrivingSeq]
          exact List.nodup_cons.mpr ⟨fresh, distinct⟩
        rw [result]
        apply iff_of_true stored
        rintro ⟨_, _, _, _, _, stop, _⟩
        exact stop.not_passed passed

/-! ## Confirmations -/

theorem nodup_seqs_confirm_iff (timeline : Timeline) (sender receiver : AccountId)
    (minted seq timestamp : UInt64) :
    (timeline.confirm sender receiver minted seq timestamp).2.seqs.Nodup ↔
      timeline.seqs.Nodup := by
  rcases seqs_confirm timeline sender receiver minted seq timestamp with
    same | ⟨-, permuted⟩ | ⟨-, fresh, permuted⟩
  · rw [same]
  · exact permuted.nodup_iff
  · rw [permuted.nodup_iff, List.nodup_cons, and_iff_right fresh]

/-- A confirmation keeps an ascending timeline ascending. -/
theorem ascending_confirm {timeline : Timeline} (ascending : timeline.Ascending)
    (sender receiver : AccountId) (minted seq timestamp : UInt64) :
    (timeline.confirm sender receiver minted seq timestamp).2.Ascending := by
  have distinct : (timeline.confirm sender receiver minted seq timestamp).2.seqs.Nodup :=
    (nodup_seqs_confirm_iff ..).mpr (ascending.imp fun lower => UInt64.ne_of_lt lower)
  rcases seqs_confirm timeline sender receiver minted seq timestamp with
    same | ⟨settled, -⟩ | ⟨settled, -⟩
  · unfold Ascending
    rw [same]
    exact ascending
  all_goals
    exact (List.pairwise_and_iff.mpr ⟨settled, distinct⟩).imp fun ⟨le, ne⟩ =>
      UInt64.lt_of_le_of_ne le ne

/-! ## Runs -/

theorem replay_append_singleton (edits : List Edit) (last : Edit) :
    replay (edits ++ [last]) = (replay edits).edit last := by
  simp [replay]

/-- What holds of the empty timeline, is kept by confirmations, and is kept by exactly the
insertions without a fault, holds all along a run if and only if no insertion of the run has
the fault. -/
private theorem holds_along_iff (holds : Timeline → Prop) (fault : Timeline → Message → Prop)
    (initial : holds empty)
    (insertion : ∀ timeline arriving, holds timeline →
      (holds (timeline.insert arriving).2 ↔ ¬fault timeline arriving))
    (confirmation : ∀ timeline sender receiver minted seq timestamp, holds timeline →
      holds (timeline.confirm sender receiver minted seq timestamp).2)
    (edits : List Edit) :
    (∀ first, first <+: edits → holds (replay first)) ↔
      ∀ first arriving, first ++ [.insert arriving] <+: edits →
        ¬fault (replay first) arriving := by
  constructor
  · intro along first arriving reached
    have before := along first ((List.prefix_append first _).trans reached)
    have after := along (first ++ [.insert arriving]) reached
    rw [replay_append_singleton] at after
    exact (insertion _ _ before).mp after
  · intro faultless first reached
    induction first using List.reverseRecOn with
    | nil => exact initial
    | append_singleton first last ih =>
        have before := ih ((List.prefix_append first [last]).trans reached)
        rw [replay_append_singleton]
        cases last with
        | insert arriving => exact (insertion _ _ before).mpr (faultless first arriving reached)
        | confirm sender receiver minted seq timestamp => exact confirmation _ _ _ _ _ _ before

/-- Numbers that are distinct at the end of a run were distinct all along. -/
private theorem nodup_seqs_along_iff (edits : List Edit) :
    (∀ first, first <+: edits → (replay first).seqs.Nodup) ↔ (replay edits).seqs.Nodup := by
  constructor
  · intro along
    exact along edits (List.prefix_refl edits)
  · intro distinct first reached
    obtain ⟨rest, rfl⟩ := reached
    induction rest using List.reverseRecOn with
    | nil => simpa using distinct
    | append_singleton rest last ih =>
        apply ih
        rw [← List.append_assoc, replay_append_singleton] at distinct
        cases last with
        | insert arriving =>
            exact ((entries_sublist_insert _ arriving).filterMap Message.seq?).nodup distinct
        | confirm sender receiver minted seq timestamp =>
            exact (nodup_seqs_confirm_iff ..).mp distinct

/-- The confirmed entries ascend all along a run if and only if no insertion of the run
misplaces its message, and no number occurs twice at the end if and only if no insertion
repeats one. -/
theorem ascending_along_replay_iff (edits : List Edit) :
    ((∀ first, first <+: edits → (replay first).Ascending) ↔
        ∀ first arriving, first ++ [.insert arriving] <+: edits →
          ¬(replay first).Misplaces arriving) ∧
      ((replay edits).seqs.Nodup ↔
        ∀ first arriving, first ++ [.insert arriving] <+: edits →
          ¬(replay first).Repeats arriving) := by
  constructor
  · exact holds_along_iff Ascending Misplaces List.Pairwise.nil
      (fun _ _ ascending => ascending_insert_iff ascending)
      (fun _ _ _ _ _ _ ascending => ascending_confirm ascending ..) edits
  · rw [← nodup_seqs_along_iff]
    exact holds_along_iff (fun timeline => timeline.seqs.Nodup) Repeats List.nodup_nil
      (fun _ _ distinct => nodup_seqs_insert_iff distinct)
      (fun _ _ _ _ _ _ distinct => (nodup_seqs_confirm_iff ..).mpr distinct) edits

/-- A message delivered again under a later time is stored twice if a pending entry lies
between the two times. -/
theorem not_ascending_of_pending_between :
    ¬(replay [.insert (.bareText 2 1 5 100), .insert (.bareText 2 1 0 200),
      .insert (.bareText 2 1 5 300)]).Ascending := by
  decide

end Messenger.Timeline
