import Mathlib.Data.List.Permutation
import Messenger.Proofs.Sorting
import Messenger.Proofs.Timeline.Ascending

/-!
# How a confirmation settles a timeline

A confirmation takes one entry away, or changes the number and the time of one entry and puts
the timeline into its settled order: the confirmed entries by their numbers, and behind them
those that wait by their times.  Entries that wait since the same time keep their order.
-/

namespace Messenger.Timeline

variable {timeline : Timeline} {entries : List Message} {sender receiver : AccountId}
  {minted seq timestamp : UInt64}

/-- The entries that are confirmed, in list order. -/
def confirmed (timeline : Timeline) : List Message :=
  timeline.entries.filter fun entry => !entry.position.isPending

/-- A timeline is made of entries by settling them: the confirmed ones come first, by strictly
ascending numbers, and then those that wait by their times, which stay in the order in which
they are given where the times are the same. -/
structure Settles (entries : List Message) (after : Timeline) : Prop where
  perm : after.entries.Perm entries
  confirmedFirst : after.entries = after.confirmed ++ after.pending
  ascending : after.Ascending
  byTime : after.pending.Pairwise fun a b => a.header.timestamp ≤ b.header.timestamp
  tiesKept : ∀ time, after.pending.filter (fun entry => entry.header.timestamp = time) =
    (pending ⟨entries⟩).filter fun entry => entry.header.timestamp = time

/-! ## The settled order -/

/-- Behind an entry that waits, all entries wait. -/
theorem isPending_of_settledBefore {a b : Message} (settled : settledBefore a b = true)
    (waits : a.position.isPending = true) : b.position.isPending = true := by
  revert settled waits
  unfold settledBefore
  cases a.position <;> cases b.position <;> simp [Position.isPending]

/-- Entries that wait are settled by their times. -/
theorem settledBefore_of_pending {a b : Message} (aWaits : a.position.isPending = true)
    (bWaits : b.position.isPending = true) :
    settledBefore a b = decide (a.header.timestamp ≤ b.header.timestamp) := by
  have position_eq : ∀ {message : Message}, message.position.isPending = true →
      message.position = .pending message.header.timestamp := by
    intro message
    unfold Message.position Header.position Position.ofWire
    split <;> simp [Position.isPending]
  unfold settledBefore
  rw [position_eq aWaits, position_eq bWaits]

/-- Entries with distinct numbers are settled by sorting them. -/
theorem settles_mergeSort (distinct : (seqs ⟨entries⟩).Nodup) :
    Settles entries ⟨entries.mergeSort settledBefore⟩ := by
  have sorted := List.pairwise_mergeSort settledBefore_trans settledBefore_total entries
  have permuted := List.mergeSort_perm entries settledBefore
  refine ⟨permuted, ?_, ?_, ?_, fun time => ?_⟩
  · unfold confirmed pending
    have ordered := eq_filter_append_filter (l := entries.mergeSort settledBefore)
      (p := fun entry => !entry.position.isPending) (sorted.imp fun {a b} settled => ?_)
    · simpa only [Bool.not_not] using ordered
    · -- Behind an entry that waits, none is confirmed.
      simp only [Bool.not_eq_true', Bool.eq_false_iff]
      exact fun confirmed waits => confirmed (isPending_of_settledBefore settled waits)
  · have nowhereEqual : (seqs ⟨entries.mergeSort settledBefore⟩).Nodup :=
      (permuted.filterMap Message.seq?).nodup_iff.mpr distinct
    exact (List.pairwise_and_iff.mpr ⟨seqs_mergeSort_pairwise entries, nowhereEqual⟩).imp
      fun ⟨le, ne⟩ => UInt64.lt_of_le_of_ne le ne
  · refine (List.Pairwise.filter _ sorted).imp_of_mem fun {a b} aMember bMember settled => ?_
    rw [settledBefore_of_pending (List.mem_filter.mp aMember).2 (List.mem_filter.mp bMember).2]
      at settled
    exact of_decide_eq_true settled
  · unfold pending
    rw [List.filter_filter, List.filter_filter]
    refine filter_mergeSort settledBefore_trans settledBefore_total ?_
    refine List.pairwise_of_forall_mem_list fun a aMember b bMember => ?_
    simp only [List.mem_filter, Bool.and_eq_true, decide_eq_true_eq] at aMember bMember
    obtain ⟨-, aTime, aWaits⟩ := aMember
    obtain ⟨-, bTime, bWaits⟩ := bMember
    rw [settledBefore_of_pending aWaits bWaits, aTime, bTime]
    exact decide_eq_true (UInt64.le_refl time)

/-! ## Confirmations -/

/-- Where the numbers are distinct, an entry with a number is the one that is found under it. -/
theorem find?_of_mem (distinct : timeline.seqs.Nodup) {entry : Message}
    (member : entry ∈ timeline.entries) (numbered : entry.seq? = some seq) :
    timeline.find? seq = some entry := by
  obtain ⟨older, newer, entriesEq⟩ := List.append_of_mem member
  unfold seqs at distinct
  rw [entriesEq, List.filterMap_append, List.filterMap_cons_some numbered] at distinct
  have fresh : seq ∉ older.filterMap Message.seq? := fun earlier =>
    (List.nodup_append.mp distinct).2.2 seq earlier seq List.mem_cons_self rfl
  refine List.find?_eq_some_iff_append.mpr
    ⟨decide_eq_true numbered, older, newer, entriesEq, fun earlier inOlder => ?_⟩
  simpa using fun same => fresh (List.mem_filterMap.mpr ⟨earlier, inOlder, same⟩)

/-- The first entry that waits receives a number that no entry has, and the timeline is settled. -/
theorem WaitsAt.settles {older newer : List Message} {waiting : Message}
    (waits : timeline.WaitsAt sender receiver minted older waiting newer)
    (distinct : timeline.seqs.Nodup) (numbered : seq ≠ 0) (fresh : seq ∉ timeline.seqs) :
    Settles (older ++ confirmedCopy waiting seq timestamp :: newer)
      ⟨(older ++ confirmedCopy waiting seq timestamp :: newer).mergeSort settledBefore⟩ := by
  have copySeq : (confirmedCopy waiting seq timestamp).seq? = some seq :=
    Message.seq?_eq_some_iff.mpr ⟨rfl, numbered⟩
  rw [waits.seqs_eq] at distinct fresh
  apply settles_mergeSort
  unfold seqs
  rw [List.filterMap_append, List.filterMap_cons_some copySeq, List.perm_middle.nodup_iff,
    List.nodup_cons]
  exact ⟨fresh, distinct⟩

/-- Where the numbers are distinct, a confirmation under a number gives nothing and changes nothing
exactly if no entry waits under its names.  Otherwise the first such entry gives way to an entry
that has the number, which is given, or it receives the number and the time, is given, and the
timeline is settled. -/
theorem confirm_exact (distinct : timeline.seqs.Nodup) (numbered : seq ≠ 0) :
    (timeline.confirm sender receiver minted seq timestamp = (none, timeline) ↔
        ∀ entry ∈ timeline.entries, awaits sender receiver minted entry = false) ∧
      ((∃ entry ∈ timeline.entries, awaits sender receiver minted entry = true) →
        ∃ older waiting newer, timeline.WaitsAt sender receiver minted older waiting newer ∧
          (∀ entry ∈ timeline.entries, entry.seq? = some seq →
            timeline.confirm sender receiver minted seq timestamp =
              (some entry, ⟨older ++ newer⟩)) ∧
          (seq ∉ timeline.seqs → ∃ after,
            timeline.confirm sender receiver minted seq timestamp =
              (some (confirmedCopy waiting seq timestamp), after) ∧
            Settles (older ++ confirmedCopy waiting seq timestamp :: newer) after)) := by
  constructor
  · refine ⟨fun unchanged => ?_, confirm_of_none⟩
    rcases confirm_cases timeline sender receiver minted seq timestamp with
      ⟨none, -⟩ | ⟨_, _, _, _, -, -, result⟩ | ⟨_, _, _, -, -, result⟩
    · exact none
    · cases unchanged.symm.trans result
    · cases unchanged.symm.trans result
  · rintro ⟨entry, member, awaited⟩
    rcases exists_waitsAt_or_none timeline sender receiver minted with
      ⟨older, waiting, newer, waits⟩ | none
    · refine ⟨older, waiting, newer, waits, fun present listed presentSeq => ?_, fun fresh => ?_⟩
      · exact confirm_of_present waits (find?_of_mem distinct listed presentSeq)
      · exact ⟨_, confirm_of_absent waits (find?_eq_none_iff.mpr fresh),
          waits.settles distinct numbered fresh⟩
    · rw [none entry member] at awaited
      cases awaited

/-- Of two texts that wait since the same time, the one that is confirmed moves before the number
that was there, and the other one stays behind an earlier text that waits. -/
theorem settled_among_waiting :
    let timeline : Timeline :=
      ⟨[.bareText 2 1 7 50, .bareText 1 2 0 300, .bareText 1 0 0 300, .bareText 1 2 0 200]⟩
    timeline.seqs.Nodup ∧ (3 : UInt64) ≠ 0 ∧
      (∃ older waiting newer, timeline.WaitsAt 1 2 300 older waiting newer ∧
        ∃ after,
          timeline.confirm 1 2 300 3 900 = (some (confirmedCopy waiting 3 900), after) ∧
          Settles (older ++ confirmedCopy waiting 3 900 :: newer) after) ∧
      timeline.confirm 1 2 300 3 900 = (some (.bareText 1 2 3 900),
        ⟨[.bareText 1 2 3 900, .bareText 2 1 7 50, .bareText 1 2 0 200, .bareText 1 0 0 300]⟩) := by
  intro timeline
  have distinct : timeline.seqs.Nodup := by decide
  have numbered : (3 : UInt64) ≠ 0 := by decide
  have awaited : ∃ entry ∈ timeline.entries, awaits 1 2 300 entry = true := by decide
  obtain ⟨older, waiting, newer, waits, -, absent⟩ := (confirm_exact distinct numbered).2 awaited
  exact ⟨distinct, numbered, ⟨older, waiting, newer, waits, absent (by decide)⟩, by cbv⟩

end Messenger.Timeline
