import Messenger.Timeline

/-!
# Where a message is inserted

The scan for the place of an arriving message passes over entries that come after
it, newest first, and stops at the first entry that does not.  The arriving
message is stored just after that entry, or dropped if the two are equal.
-/

namespace Messenger

namespace Message

theorem seq?_eq_some_iff {message : Message} {seq : UInt64} :
    message.seq? = some seq ↔ message.header.seq = seq ∧ seq ≠ 0 := by
  unfold seq? position Header.position Position.ofWire
  split
  · next unnumbered =>
      rw [unnumbered]
      constructor
      · intro impossible
        cases impossible
      · rintro ⟨rfl, nonzero⟩
        exact absurd rfl nonzero
  · next numbered =>
      constructor
      · intro found
        cases found
        exact ⟨rfl, numbered⟩
      · rintro ⟨rfl, -⟩
        rfl

theorem seq?_eq_none_iff {message : Message} : message.seq? = none ↔ message.header.seq = 0 := by
  unfold seq? position Header.position Position.ofWire
  split
  · next unnumbered => exact iff_of_true rfl unnumbered
  · next numbered => exact iff_of_false nofun numbered

theorem isPending_eq_isNone (message : Message) :
    message.position.isPending = message.seq?.isNone := by
  unfold seq?
  cases message.position <;> rfl

/-- A text without content. -/
def bareText (sender receiver : AccountId) (seq timestamp : UInt64) : Message :=
  { header :=
      { version := 0
        sender
        nodeId := 0
        receiver
        kind := .text
        extensionLength := 0
        timestamp
        payloadLength := 0
        seq }
    payload := []
    extension := [] }

end Message

namespace Timeline

theorem relate_of_confirmed {entry arriving : Message} {a b : UInt64}
    (entrySeq : entry.seq? = some a) (arrivingSeq : arriving.seq? = some b) :
    relate entry arriving = compare a b := by
  unfold Message.seq? at entrySeq arrivingSeq
  unfold relate
  cases entryPosition : entry.position with
  | pending => simp [entryPosition, Position.seq?] at entrySeq
  | confirmed x =>
      cases arrivingPosition : arriving.position with
      | pending => simp [arrivingPosition, Position.seq?] at arrivingSeq
      | confirmed y =>
          simp only [entryPosition, arrivingPosition, Position.seq?, Option.some.injEq] at *
          rw [entrySeq, arrivingSeq]

theorem relate_of_pending {entry arriving : Message}
    (waits : entry.seq? = none ∨ arriving.seq? = none) :
    relate entry arriving = compare entry.header.timestamp arriving.header.timestamp := by
  unfold Message.seq? at waits
  unfold relate
  cases entryPosition : entry.position with
  | pending => rfl
  | confirmed x =>
      cases arrivingPosition : arriving.position with
      | pending => rfl
      | confirmed y => simp [entryPosition, arrivingPosition, Position.seq?] at waits

theorem mem_seqs {timeline : Timeline} {seq : UInt64} :
    seq ∈ timeline.seqs ↔ ∃ entry ∈ timeline.entries, entry.seq? = some seq :=
  List.mem_filterMap

theorem find?_eq_none_iff {timeline : Timeline} {seq : UInt64} :
    timeline.find? seq = none ↔ seq ∉ timeline.seqs := by
  simp [find?, mem_seqs]

theorem Inserted.isNew_eq_false_iff {inserted : Inserted} :
    inserted.isNew = false ↔ inserted = .duplicate := by
  cases inserted <;> simp [isNew]

/-- The scan for the place of an arriving message stops at `entry`: it has passed over
the newer entries, and `entry` does not come after the arriving message. -/
structure StopsAt (timeline : Timeline) (arriving : Message) (older : List Message)
    (entry : Message) (newer : List Message) : Prop where
  entries_eq : timeline.entries = older ++ entry :: newer
  passed : ∀ later ∈ newer, relate later arriving = .gt
  stopped : relate entry arriving ≠ .gt

theorem StopsAt.mem_entries {timeline : Timeline} {arriving entry : Message}
    {older newer : List Message} (stop : StopsAt timeline arriving older entry newer) :
    entry ∈ timeline.entries := by
  rw [stop.entries_eq]
  exact List.mem_append_right older List.mem_cons_self

/-- The scan stops at one place only. -/
theorem StopsAt.unique {timeline : Timeline} {arriving entry entry' : Message}
    {older older' newer newer' : List Message}
    (first : StopsAt timeline arriving older entry newer)
    (second : StopsAt timeline arriving older' entry' newer') :
    older = older' ∧ entry = entry' ∧ newer = newer' := by
  have sameEntries : older ++ entry :: newer = older' ++ entry' :: newer' :=
    first.entries_eq.symm.trans second.entries_eq
  rcases List.append_eq_append_iff.mp sameEntries with
    ⟨between, olderEq, newerEq⟩ | ⟨between, olderEq, newerEq⟩
  all_goals
    cases between with
    | nil =>
        simp only [List.nil_append, List.cons.injEq, List.append_nil] at olderEq newerEq
        exact ⟨olderEq.symm ▸ rfl, by grind, by grind⟩
    | cons head tail =>
        simp only [List.cons_append, List.cons.injEq] at newerEq
        exfalso
        have := first.stopped
        have := second.stopped
        have := first.passed
        have := second.passed
        grind

/-- A scan that stops does not pass over every entry. -/
theorem StopsAt.not_passed {timeline : Timeline} {arriving entry : Message}
    {older newer : List Message} (stop : StopsAt timeline arriving older entry newer) :
    ¬∀ other ∈ timeline.entries, relate other arriving = .gt := by
  intro passed
  exact stop.stopped (passed entry stop.mem_entries)

/-- A scan stops somewhere, or passes over every entry. -/
theorem exists_stopsAt_or_passed (timeline : Timeline) (arriving : Message) :
    (∃ older entry newer, StopsAt timeline arriving older entry newer) ∨
      ∀ entry ∈ timeline.entries, relate entry arriving = .gt := by
  cases scan : timeline.entries.reverse.find? fun entry => relate entry arriving ≠ .gt with
  | none =>
      right
      simpa using scan
  | some entry =>
      left
      obtain ⟨stopped, newer, older, entriesEq, passed⟩ := List.find?_eq_some_iff_append.mp scan
      refine ⟨older.reverse, entry, newer.reverse, ?_, ?_, by simpa using stopped⟩
      · simpa using congrArg List.reverse entriesEq
      · intro later member
        simpa using passed later (List.mem_reverse.mp member)

/-- Entries that the scan passes over do not matter to its result. -/
private theorem slot_append_of_passed {arriving : Message} {newer : List Message}
    (passed : ∀ later ∈ newer, relate later arriving = .gt) (rest : List Message) :
    slot arriving (newer ++ rest) = slot arriving rest := by
  induction newer with
  | nil => rfl
  | cons later newer ih =>
      rw [List.cons_append, slot, passed later List.mem_cons_self]
      exact ih fun other member => passed other (List.mem_cons_of_mem later member)

private theorem slot_of_stopsAt {timeline : Timeline} {arriving entry : Message}
    {older newer : List Message} (stop : StopsAt timeline arriving older entry newer) :
    slot arriving timeline.entries.reverse = slot arriving (entry :: older.reverse) := by
  rw [stop.entries_eq, List.reverse_append, List.reverse_cons, List.append_assoc,
    List.singleton_append]
  apply slot_append_of_passed
  intro later member
  exact stop.passed later (List.mem_reverse.mp member)

private theorem insertIdx_after {α : Type} (older newer : List α) (entry arriving : α) :
    (older ++ entry :: newer).insertIdx (older.length + 1) arriving =
      older ++ entry :: arriving :: newer := by
  induction older with
  | nil => rfl
  | cons head older ih =>
      simp only [List.cons_append, List.length_cons, List.insertIdx_succ_cons, ih]

/-- After an entry before it, the arriving message is stored. -/
theorem insert_of_lt {timeline : Timeline} {arriving entry : Message}
    {older newer : List Message} (stop : StopsAt timeline arriving older entry newer)
    (before : relate entry arriving = .lt) :
    timeline.insert arriving =
      (.at (older.length + 1), ⟨older ++ entry :: arriving :: newer⟩) := by
  unfold insert
  rw [slot_of_stopsAt stop, slot, before]
  simp only [List.length_reverse, stop.entries_eq, insertIdx_after]

/-- At an entry equal to it, the arriving message is dropped. -/
theorem insert_of_eq {timeline : Timeline} {arriving entry : Message}
    {older newer : List Message} (stop : StopsAt timeline arriving older entry newer)
    (equal : relate entry arriving = .eq) :
    timeline.insert arriving = (.duplicate, timeline) := by
  unfold insert
  rw [slot_of_stopsAt stop, slot, equal]

/-- Before every entry, the arriving message becomes the oldest one. -/
theorem insert_of_passed {timeline : Timeline} {arriving : Message}
    (passed : ∀ entry ∈ timeline.entries, relate entry arriving = .gt) :
    timeline.insert arriving = (.at 0, ⟨arriving :: timeline.entries⟩) := by
  have scan : slot arriving (timeline.entries.reverse ++ []) = some 0 := by
    apply slot_append_of_passed
    intro entry member
    exact passed entry (List.mem_reverse.mp member)
  rw [List.append_nil] at scan
  unfold insert
  rw [scan]
  simp

/-- What an insertion does, by where the scan stops. -/
theorem insert_cases (timeline : Timeline) (arriving : Message) :
    (∃ older entry newer, StopsAt timeline arriving older entry newer ∧
        relate entry arriving = .lt ∧
        timeline.insert arriving =
          (.at (older.length + 1), ⟨older ++ entry :: arriving :: newer⟩)) ∨
      (∃ older entry newer, StopsAt timeline arriving older entry newer ∧
        relate entry arriving = .eq ∧ timeline.insert arriving = (.duplicate, timeline)) ∨
      ((∀ entry ∈ timeline.entries, relate entry arriving = .gt) ∧
        timeline.insert arriving = (.at 0, ⟨arriving :: timeline.entries⟩)) := by
  rcases exists_stopsAt_or_passed timeline arriving with ⟨older, entry, newer, stop⟩ | passed
  · cases order : relate entry arriving with
    | lt => exact .inl ⟨older, entry, newer, stop, order, insert_of_lt stop order⟩
    | eq => exact .inr (.inl ⟨older, entry, newer, stop, order, insert_of_eq stop order⟩)
    | gt => exact absurd order stop.stopped
  · exact .inr (.inr ⟨passed, insert_of_passed passed⟩)

/-- A dropped message leaves the timeline as it is. -/
theorem insert_of_duplicate {timeline : Timeline} {arriving : Message}
    (duplicate : (timeline.insert arriving).1 = .duplicate) :
    timeline.insert arriving = (.duplicate, timeline) := by
  unfold insert at duplicate ⊢
  split at duplicate
  · rfl
  · cases duplicate

/-- An insertion keeps the entries and their order. -/
theorem entries_sublist_insert (timeline : Timeline) (arriving : Message) :
    timeline.entries.Sublist (timeline.insert arriving).2.entries := by
  rcases insert_cases timeline arriving with
    ⟨older, entry, newer, stop, -, result⟩ | ⟨-, -, -, -, -, result⟩ | ⟨-, result⟩
  · rw [result, stop.entries_eq]
    exact (List.Sublist.refl older).append ((List.sublist_cons_self arriving newer).cons_cons entry)
  · exact result.symm ▸ List.Sublist.refl timeline.entries
  · rw [result]
    exact List.sublist_cons_self arriving timeline.entries

/-- A new message is among the entries afterwards, and nothing else is added. -/
theorem mem_entries_insert {timeline : Timeline} {arriving entry : Message} :
    entry ∈ (timeline.insert arriving).2.entries ↔
      entry ∈ timeline.entries ∨
        entry = arriving ∧ (timeline.insert arriving).1.isNew = true := by
  rcases insert_cases timeline arriving with
    ⟨older, other, newer, stop, -, result⟩ | ⟨-, -, -, -, -, result⟩ | ⟨-, result⟩
  · rw [result, stop.entries_eq]
    simp only [Inserted.isNew, List.mem_append, List.mem_cons]
    grind
  · simp [result, Inserted.isNew]
  · rw [result]
    simp only [Inserted.isNew, List.mem_cons]
    grind

theorem seqs_subset_insert (timeline : Timeline) (arriving : Message) :
    timeline.seqs ⊆ (timeline.insert arriving).2.seqs :=
  ((entries_sublist_insert timeline arriving).filterMap Message.seq?).subset

/-- Only a new message brings its number to a timeline. -/
theorem mem_seqs_insert {timeline : Timeline} {arriving : Message} {seq : UInt64} :
    seq ∈ (timeline.insert arriving).2.seqs ↔
      seq ∈ timeline.seqs ∨
        arriving.seq? = some seq ∧ (timeline.insert arriving).1.isNew = true := by
  simp only [mem_seqs, mem_entries_insert]
  grind

end Timeline

end Messenger
