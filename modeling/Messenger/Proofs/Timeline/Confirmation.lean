import Messenger.Proofs.Timeline.Insertion

/-!
# What a confirmation changes

A confirmation takes effect on the first pending entry that it names.  That entry
gives way to an entry that already has the number, or receives the number and
moves to its settled place.
-/

namespace Messenger.Timeline

variable {timeline : Timeline} {sender receiver : AccountId} {minted seq timestamp : UInt64}
variable {waiting : Message} {older newer : List Message}

/-- `waiting` is the first entry that awaits a confirmation between these parties. -/
structure WaitsAt (timeline : Timeline) (sender receiver : AccountId) (minted : UInt64)
    (older : List Message) (waiting : Message) (newer : List Message) : Prop where
  entries_eq : timeline.entries = older ++ waiting :: newer
  awaited : awaits sender receiver minted waiting = true
  first : ∀ earlier ∈ older, awaits sender receiver minted earlier = false

theorem awaits_eq_true_iff {entry : Message} :
    awaits sender receiver minted entry = true ↔
      entry.seq? = none ∧ entry.header.sender = sender ∧ entry.header.receiver = receiver ∧
        entry.header.timestamp = minted := by
  simp [awaits, Message.isPending_eq_isNone, and_assoc]

/-- Some entry is the first one that waits, or none waits. -/
theorem exists_waitsAt_or_none (timeline : Timeline) (sender receiver : AccountId)
    (minted : UInt64) :
    (∃ older waiting newer, WaitsAt timeline sender receiver minted older waiting newer) ∨
      ∀ entry ∈ timeline.entries, awaits sender receiver minted entry = false := by
  cases search : timeline.entries.find? (awaits sender receiver minted) with
  | none =>
      right
      simpa using search
  | some waiting =>
      left
      obtain ⟨awaited, older, newer, entriesEq, first⟩ := List.find?_eq_some_iff_append.mp search
      exact ⟨older, waiting, newer, entriesEq, awaited, fun earlier member => by
        simpa using first earlier member⟩

private theorem findIdx?_of_waitsAt
    (waits : WaitsAt timeline sender receiver minted older waiting newer) :
    timeline.entries.findIdx? (awaits sender receiver minted) = some older.length := by
  have skipped : older.findIdx? (awaits sender receiver minted) = none :=
    List.findIdx?_eq_none_iff.mpr waits.first
  rw [waits.entries_eq, List.findIdx?_append, skipped, List.findIdx?_cons, waits.awaited]
  simp

/-- The entry that waits has no number. -/
theorem WaitsAt.seqs_eq
    (waits : WaitsAt timeline sender receiver minted older waiting newer) :
    timeline.seqs = older.filterMap Message.seq? ++ newer.filterMap Message.seq? := by
  unfold seqs
  rw [waits.entries_eq, List.filterMap_append,
    List.filterMap_cons_none (awaits_eq_true_iff.mp waits.awaited).1]

/-- Without an entry that waits, a confirmation changes nothing. -/
theorem confirm_of_none
    (none : ∀ entry ∈ timeline.entries, awaits sender receiver minted entry = false) :
    timeline.confirm sender receiver minted seq timestamp = (.none, timeline) := by
  unfold confirm
  rw [List.findIdx?_eq_none_iff.mpr none]

/-- An entry that already has the number replaces the one that waits. -/
theorem confirm_of_present {entry : Message}
    (waits : WaitsAt timeline sender receiver minted older waiting newer)
    (present : timeline.find? seq = some entry) :
    timeline.confirm sender receiver minted seq timestamp = (some entry, ⟨older ++ newer⟩) := by
  unfold confirm
  rw [findIdx?_of_waitsAt waits]
  simp only [present, waits.entries_eq]
  rw [List.eraseIdx_append_of_length_le (Nat.le_refl older.length)]
  simp

/-- Without such an entry, the one that waits receives the number and is settled. -/
theorem confirm_of_absent
    (waits : WaitsAt timeline sender receiver minted older waiting newer)
    (absent : timeline.find? seq = none) :
    timeline.confirm sender receiver minted seq timestamp =
      (some (confirmedCopy waiting seq timestamp),
        ⟨(older ++ confirmedCopy waiting seq timestamp :: newer).mergeSort settledBefore⟩) := by
  unfold confirm
  rw [findIdx?_of_waitsAt waits]
  simp [absent, waits.entries_eq]

/-- What a confirmation does. -/
theorem confirm_cases (timeline : Timeline) (sender receiver : AccountId)
    (minted seq timestamp : UInt64) :
    ((∀ entry ∈ timeline.entries, awaits sender receiver minted entry = false) ∧
        timeline.confirm sender receiver minted seq timestamp = (none, timeline)) ∨
      (∃ older waiting newer entry,
        WaitsAt timeline sender receiver minted older waiting newer ∧
        timeline.find? seq = some entry ∧
        timeline.confirm sender receiver minted seq timestamp =
          (some entry, ⟨older ++ newer⟩)) ∨
      (∃ older waiting newer,
        WaitsAt timeline sender receiver minted older waiting newer ∧
        timeline.find? seq = none ∧
        timeline.confirm sender receiver minted seq timestamp =
          (some (confirmedCopy waiting seq timestamp),
            ⟨(older ++ confirmedCopy waiting seq timestamp :: newer).mergeSort
              settledBefore⟩)) := by
  rcases exists_waitsAt_or_none timeline sender receiver minted with
    ⟨older, waiting, newer, waits⟩ | none
  · cases search : timeline.find? seq with
    | none =>
        exact .inr (.inr ⟨older, waiting, newer, waits, rfl, confirm_of_absent waits search⟩)
    | some entry =>
        exact .inr (.inl
          ⟨older, waiting, newer, entry, waits, rfl, confirm_of_present waits search⟩)
  · exact .inl ⟨none, confirm_of_none none⟩

/-! ## The settled order -/

theorem settledBefore_trans (a b c : Message) (first : settledBefore a b = true)
    (second : settledBefore b c = true) : settledBefore a c = true := by
  revert first second
  unfold settledBefore
  cases a.position <;> cases b.position <;> cases c.position <;> grind

theorem settledBefore_total (a b : Message) :
    (settledBefore a b || settledBefore b a) = true := by
  unfold settledBefore
  cases a.position <;> cases b.position <;> simp [UInt64.le_total]

/-- The numbers of settled entries do not decrease. -/
theorem seqs_mergeSort_pairwise (entries : List Message) :
    (seqs ⟨entries.mergeSort settledBefore⟩).Pairwise (· ≤ ·) := by
  refine List.Pairwise.filterMap Message.seq? ?_
    (List.pairwise_mergeSort settledBefore_trans settledBefore_total entries)
  intro a b settled x aSeq y bSeq
  unfold Message.seq? at aSeq bSeq
  unfold settledBefore at settled
  cases aPosition : a.position with
  | pending => simp [aPosition, Position.seq?] at aSeq
  | confirmed x' =>
      cases bPosition : b.position with
      | pending => simp [bPosition, Position.seq?] at bSeq
      | confirmed y' => simp_all [Position.seq?]

/-- The numbers of the confirmed entries after a confirmation: as before, or in ascending
order with the new number among them if it is one. -/
theorem seqs_confirm (timeline : Timeline) (sender receiver : AccountId)
    (minted seq timestamp : UInt64) :
    let after := (timeline.confirm sender receiver minted seq timestamp).2.seqs
    after = timeline.seqs ∨
      (after.Pairwise (· ≤ ·) ∧ after.Perm timeline.seqs) ∨
      (after.Pairwise (· ≤ ·) ∧ seq ∉ timeline.seqs ∧ after.Perm (seq :: timeline.seqs)) := by
  rcases confirm_cases timeline sender receiver minted seq timestamp with
    ⟨-, result⟩ | ⟨older, waiting, newer, entry, waits, -, result⟩ |
    ⟨older, waiting, newer, waits, absent, result⟩
  · simp only [result, true_or]
  · left
    rw [result, waits.seqs_eq]
    exact List.filterMap_append ..
  · right
    have settled := seqs_mergeSort_pairwise (older ++ confirmedCopy waiting seq timestamp :: newer)
    have permuted := (List.mergeSort_perm (older ++ confirmedCopy waiting seq timestamp :: newer)
      settledBefore).filterMap Message.seq?
    rw [List.filterMap_append] at permuted
    rw [result]
    cases copySeq : (confirmedCopy waiting seq timestamp).seq? with
    | none =>
        rw [List.filterMap_cons_none copySeq, ← waits.seqs_eq] at permuted
        exact .inl ⟨settled, permuted⟩
    | some number =>
        obtain rfl : seq = number := (Message.seq?_eq_some_iff.mp copySeq).1
        rw [List.filterMap_cons_some copySeq] at permuted
        refine .inr ⟨settled, find?_eq_none_iff.mp absent, ?_⟩
        rw [waits.seqs_eq]
        exact permuted.trans List.perm_middle

theorem seqs_subset_of_confirm {timeline after : Timeline} {sender receiver : AccountId}
    {minted seq timestamp : UInt64} {entry : Option Message}
    (confirms : timeline.confirm sender receiver minted seq timestamp = (entry, after)) :
    timeline.seqs ⊆ after.seqs := by
  have result := seqs_confirm timeline sender receiver minted seq timestamp
  rw [confirms] at result
  rcases result with same | ⟨-, permuted⟩ | ⟨-, -, permuted⟩
  · rw [same]
    exact List.Subset.refl _
  · exact permuted.symm.subset
  · exact fun number member => permuted.symm.subset (List.mem_cons_of_mem seq member)

/-- Only the confirmed entry brings its number to a timeline. -/
theorem mem_seqs_of_confirm {timeline after : Timeline} {sender receiver : AccountId}
    {minted seq timestamp : UInt64} {entry : Message}
    (confirms : timeline.confirm sender receiver minted seq timestamp = (some entry, after))
    {number : UInt64} (member : number ∈ after.seqs) :
    number ∈ timeline.seqs ∨ entry.seq? = some number := by
  obtain ⟨other, present, numbered⟩ := mem_seqs.mp member
  rcases confirm_cases timeline sender receiver minted seq timestamp with
    ⟨-, result⟩ | ⟨older, waiting, newer, _, waits, -, result⟩ |
    ⟨older, waiting, newer, waits, -, result⟩
  · cases confirms.symm.trans result
  · cases confirms.symm.trans result
    refine .inl (mem_seqs.mpr ⟨other, ?_, numbered⟩)
    rw [waits.entries_eq]
    simp only [List.mem_append, List.mem_cons] at *
    exact present.imp_right .inr
  · cases confirms.symm.trans result
    simp only [List.mem_mergeSort, List.mem_append, List.mem_cons] at present
    rcases present with inOlder | rfl | inNewer
    · refine .inl (mem_seqs.mpr ⟨other, ?_, numbered⟩)
      rw [waits.entries_eq]
      exact List.mem_append_left _ inOlder
    · exact .inr numbered
    · refine .inl (mem_seqs.mpr ⟨other, ?_, numbered⟩)
      rw [waits.entries_eq]
      exact List.mem_append_right _ (List.mem_cons_of_mem _ inNewer)

end Messenger.Timeline
