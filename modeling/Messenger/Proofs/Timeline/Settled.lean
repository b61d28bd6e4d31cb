import Messenger.Proofs.Timeline.Ascending
import Messenger.Proofs.Timeline.Waiting

/-!
# Timelines without pending entries

Where no entry is pending, a numbered message is dropped only if an entry has its
number, and stored in its place in the ascending order otherwise.
-/

namespace Messenger.Timeline

variable {timeline : Timeline} {arriving : Message} {seq : UInt64}

theorem pending_eq_nil_iff :
    timeline.pending = [] ↔ ∀ entry ∈ timeline.entries, entry.seq? ≠ none := by
  simp [pending, Message.isPending_eq_isNone]

/-- A numbered message leaves no pending entry where there was none. -/
theorem pending_insert (settled : timeline.pending = []) (numbered : arriving.seq? = some seq) :
    (timeline.insert arriving).2.pending = [] := by
  rw [pending_eq_nil_iff] at settled ⊢
  intro entry member
  rcases mem_entries_insert.mp member with before | ⟨rfl, -⟩
  · exact settled entry before
  · rw [numbered]
    exact nofun

/-- Where no entry is pending, the number of a message is there once it was inserted. -/
theorem mem_seqs_insert_of_settled (settled : timeline.pending = [])
    (numbered : arriving.seq? = some seq) {number : UInt64} :
    number ∈ (timeline.insert arriving).2.seqs ↔ number ∈ timeline.seqs ∨ number = seq := by
  rw [pending_eq_nil_iff] at settled
  rw [mem_seqs_insert, numbered]
  rcases insert_cases timeline arriving with
    ⟨older, entry, newer, -, -, result⟩ | ⟨older, entry, newer, stop, equal, result⟩ | ⟨-, result⟩
  · simp [result, Inserted.isNew, eq_comm]
  · obtain ⟨taken, entrySeq⟩ := Option.ne_none_iff_exists'.mp (settled entry stop.mem_entries)
    rw [relate_of_confirmed entrySeq numbered, Std.compare_eq_iff_eq] at equal
    have present : seq ∈ timeline.seqs := mem_seqs.mpr ⟨entry, stop.mem_entries, equal ▸ entrySeq⟩
    rw [result]
    constructor
    · exact fun either => either.imp_right fun impossible => (Bool.false_ne_true impossible.2).elim
    · rintro (before | rfl)
      · exact .inl before
      · exact .inl present
  · simp [result, Inserted.isNew, eq_comm]

/-- Where no entry is pending, insertions keep the ascending order. -/
theorem ascending_insert_of_settled (settled : timeline.pending = [])
    (ascending : timeline.Ascending) : (timeline.insert arriving).2.Ascending := by
  rw [ascending_insert_iff ascending]
  rintro ⟨_, _, waiting, _, -, stop, waits, -⟩
  exact pending_eq_nil_iff.mp settled waiting stop.mem_entries waits

/-- Where no entry is pending and the numbers ascend, a message is stored only under a number that
no entry has. -/
theorem not_mem_seqs_of_isNew (settled : timeline.pending = []) (ascending : timeline.Ascending)
    (numbered : arriving.seq? = some seq) (new : (timeline.insert arriving).1.isNew = true) :
    seq ∉ timeline.seqs := by
  have inserted : (timeline.insert arriving).2.Ascending :=
    ascending_insert_of_settled settled ascending
  have placed := entries_insert_perm timeline arriving
  rw [if_pos new] at placed
  have seqs : (timeline.insert arriving).2.seqs.Perm (seq :: timeline.seqs) := by
    have numbers := placed.filterMap Message.seq?
    rwa [List.filterMap_cons_some numbered] at numbers
  exact (List.nodup_cons.mp (seqs.nodup_iff.mp (inserted.imp UInt64.ne_of_lt))).1

end Messenger.Timeline
