import Mathlib.Data.List.Basic
import Messenger.Proofs.Store.Shelf
import Messenger.Proofs.Timeline.Settled
import Messenger.Proofs.Timeline.Waiting

/-!
# Looking messages up by their numbers

An ascending timeline without pending entries is what it has under each number, and a
message that is inserted is found under its number unless another one is there.  The same
holds of the shelf that a message is placed on.
-/

namespace Messenger

namespace Message

/-- The first of the messages with a number. -/
def numbered? (messages : List Message) (n : Nat) : Option Message :=
  messages.find? fun message => message.header.seq.toNat = n

variable {messages earlier later : List Message} {message : Message} {n : Nat}

theorem numbered?_eq_none_iff :
    numbered? messages n = none ↔ ∀ message ∈ messages, message.header.seq.toNat ≠ n := by
  simp [numbered?]

theorem of_numbered? (found : numbered? messages n = some message) :
    message ∈ messages ∧ message.header.seq.toNat = n :=
  ⟨List.mem_of_find?_eq_some found, by simpa using List.find?_some found⟩

theorem numbered?_append :
    numbered? (earlier ++ later) n = (numbered? earlier n).or (numbered? later n) :=
  List.find?_append

theorem numbered?_singleton_of_ne (other : message.header.seq.toNat ≠ n) :
    numbered? [message] n = none :=
  List.find?_cons_of_neg (by simpa)

/-- A message of a new number is found wherever it stands. -/
theorem numbered?_between
    (new : numbered? (earlier ++ later) message.header.seq.toNat = none) :
    numbered? (earlier ++ message :: later) n =
      (numbered? (earlier ++ later) n).or (numbered? [message] n) := by
  by_cases here : message.header.seq.toNat = n
  · have first : numbered? (message :: later) n = some message := List.find?_cons_of_pos (by simpa)
    have only : numbered? [message] n = some message := List.find?_cons_of_pos (by simpa)
    rw [here] at new
    rw [new, only, numbered?_append]
    rw [numbered?_append] at new
    rw [(Option.or_eq_none_iff.mp new).1, first]
  · have passed : numbered? (message :: later) n = numbered? later n :=
      List.find?_cons_of_neg (by simpa)
    rw [numbered?_append, numbered?_append, passed, numbered?_singleton_of_ne here, Option.or_none]

/-- A filter that keeps all messages of a number does not matter to it. -/
theorem numbered?_filter {keep : Message → Bool}
    (kept : ∀ message, message.header.seq.toNat = n → keep message = true) :
    numbered? (messages.filter keep) n = numbered? messages n := by
  unfold numbered?
  rw [List.find?_filter]
  congr 1
  funext message
  by_cases here : message.header.seq.toNat = n
  · simp [here, kept message here]
  · simp [here]

/-- Among ascending messages, there is one of a number. -/
theorem Ascending.numbered?_eq_some_iff (ascending : Ascending messages) :
    numbered? messages n = some message ↔ message ∈ messages ∧ message.header.seq.toNat = n := by
  refine ⟨of_numbered?, ?_⟩
  rintro ⟨member, rfl⟩
  cases search : numbered? messages message.header.seq.toNat with
  | none => exact (numbered?_eq_none_iff.mp search message member rfl).elim
  | some other =>
      obtain ⟨otherMember, same⟩ := of_numbered? search
      rw [ascending.eq_of_seq_eq otherMember member (UInt64.toNat.inj same)]

/-- Ascending messages that are some with lower numbers, and others. -/
theorem Ascending.eq_filterMap_append {others : List Message} (ascending : Ascending messages)
    (othersAscending : Ascending others) {numbers : List Nat}
    (increasing : numbers.Pairwise (· < ·))
    (below : ∀ n ∈ numbers, ∀ other ∈ others, n < other.header.seq.toNat)
    (kept : ∀ other ∈ others, other ∈ messages)
    (only : ∀ message ∈ messages, message.header.seq.toNat ∈ numbers ∨ message ∈ others) :
    messages = numbers.filterMap (numbered? messages) ++ others := by
  refine ascending.eq_of_mem_iff (List.pairwise_append.mpr ⟨?_, othersAscending, ?_⟩)
    fun message => ?_
  · refine List.pairwise_filterMap.mpr (increasing.imp fun lower a found b foundLater => ?_)
    rw [UInt64.lt_iff_toNat_lt, (of_numbered? found).2, (of_numbered? foundLater).2]
    exact lower
  · intro message found other member
    obtain ⟨n, among, search⟩ := List.mem_filterMap.mp found
    rw [UInt64.lt_iff_toNat_lt, (of_numbered? search).2]
    exact below n among other member
  · simp only [List.mem_append, List.mem_filterMap, ascending.numbered?_eq_some_iff]
    constructor
    · intro member
      rcases only message member with among | other
      · exact .inl ⟨_, among, member, rfl⟩
      · exact .inr other
    · rintro (⟨-, -, member, -⟩ | other)
      · exact member
      · exact kept message other

end Message

namespace Timeline

variable {timeline : Timeline} {message : Message} {messages : List Message} {n : Nat}

theorem seq_ne_zero_of_settled (settled : timeline.pending = []) {entry : Message}
    (member : entry ∈ timeline.entries) : entry.header.seq ≠ 0 :=
  mt Message.seq?_eq_none_iff.mpr (pending_eq_nil_iff.mp settled entry member)

theorem seqs_of_settled (settled : timeline.pending = []) :
    timeline.seqs = timeline.entries.map fun entry => entry.header.seq := by
  refine List.filterMap_eq_map_iff_forall_eq_some.mpr fun entry member => ?_
  obtain ⟨seq, numbered⟩ :=
    Option.ne_none_iff_exists'.mp (pending_eq_nil_iff.mp settled entry member)
  rw [numbered, (Message.seq?_eq_some_iff.mp numbered).1]

/-- The entries of an ascending timeline without pending ones ascend. -/
theorem Ascending.entries (ascending : timeline.Ascending) (settled : timeline.pending = []) :
    Message.Ascending timeline.entries := by
  unfold Timeline.Ascending at ascending
  rwa [seqs_of_settled settled, List.pairwise_map] at ascending

theorem numbered?_entries_eq_none_iff (settled : timeline.pending = []) :
    Message.numbered? timeline.entries n = none ↔ ∀ seq ∈ timeline.seqs, seq.toNat ≠ n := by
  rw [Message.numbered?_eq_none_iff, seqs_of_settled settled, List.forall_mem_map]

/-- A new message stands between the entries before and behind it. -/
theorem exists_between_of_isNew (new : (timeline.insert message).1.isNew = true) :
    ∃ earlier later, timeline.entries = earlier ++ later ∧
      (timeline.insert message).2.entries = earlier ++ message :: later := by
  rcases insert_cases timeline message with
    ⟨older, entry, newer, stop, -, result⟩ | ⟨-, -, -, -, -, result⟩ | ⟨-, result⟩
  · refine ⟨older ++ [entry], newer, ?_, ?_⟩
    · rw [stop.entries_eq, List.append_assoc, List.singleton_append]
    · rw [result, List.append_assoc, List.singleton_append]
  · rw [result] at new
    cases new
  · exact ⟨[], timeline.entries, rfl, by rw [result]; rfl⟩

/-- Where the entries ascend and none is pending, a message is new exactly if its number is. -/
theorem isNew_iff_of_settled (settled : timeline.pending = []) (ascending : timeline.Ascending)
    (numbered : message.header.seq ≠ 0) :
    (timeline.insert message).1.isNew = true ↔
      Message.numbered? timeline.entries message.header.seq.toNat = none := by
  have compares : ∀ entry ∈ timeline.entries,
      relate entry message = compare entry.header.seq message.header.seq :=
    fun entry member => relate_of_numbered (seq_ne_zero_of_settled settled member) numbered
  rw [isNew_insert_by (ascending.entries settled) compares, Message.numbered?_eq_none_iff]
  simp only [ne_eq, UInt64.toNat_inj]

theorem numbered?_insert (settled : timeline.pending = []) (ascending : timeline.Ascending)
    (numbered : message.header.seq ≠ 0) :
    Message.numbered? (timeline.insert message).2.entries n =
      (Message.numbered? timeline.entries n).or (Message.numbered? [message] n) := by
  have new_iff := isNew_iff_of_settled settled ascending numbered
  cases new : (timeline.insert message).1.isNew with
  | true =>
      obtain ⟨earlier, later, before, after⟩ := exists_between_of_isNew new
      rw [new_iff, before] at new
      rw [before, after, Message.numbered?_between new]
  | false =>
      rw [insert_of_duplicate (Inserted.isNew_eq_false_iff.mp new)]
      rw [new, Bool.false_eq_true, false_iff] at new_iff
      by_cases here : message.header.seq.toNat = n
      · obtain ⟨entry, present⟩ := Option.ne_none_iff_exists'.mp new_iff
        rw [here] at present
        rw [present]
        rfl
      · rw [Message.numbered?_singleton_of_ne here, Option.or_none]

/-- Messages that are inserted into an ascending timeline without pending entries leave it so, and
are found under their numbers if no entry had them before. -/
theorem insertAll_of_settled (settled : timeline.pending = []) (ascending : timeline.Ascending)
    (numbered : ∀ message ∈ messages, message.header.seq ≠ 0) :
    (timeline.insertAll messages).pending = [] ∧ (timeline.insertAll messages).Ascending ∧
      ∀ n, Message.numbered? (timeline.insertAll messages).entries n =
        (Message.numbered? timeline.entries n).or (Message.numbered? messages n) := by
  induction messages generalizing timeline with
  | nil => exact ⟨settled, ascending, fun n => Option.or_none.symm⟩
  | cons message rest ih =>
      obtain ⟨first, others⟩ := List.forall_mem_cons.mp numbered
      have seq := Message.seq?_eq_some_iff.mpr ⟨rfl, first⟩
      obtain ⟨settledAfter, ascendingAfter, found⟩ := ih (pending_insert settled seq)
        (ascending_insert_of_settled settled ascending) others
      refine ⟨settledAfter, ascendingAfter, fun n => (found n).trans ?_⟩
      rw [numbered?_insert settled ascending first, Option.or_assoc, ← Message.numbered?_append]
      rfl

end Timeline

namespace MemoryStore

variable {store after : MemoryStore} {channel : Channel} {message : Message} {n : Nat}

/-- A message that is placed stands between the others. -/
theorem exists_between_of_place {shelf placed : List Message}
    (done : place message shelf = some placed) :
    ∃ earlier later, shelf = earlier ++ later ∧ placed = earlier ++ message :: later := by
  induction shelf generalizing placed with
  | nil =>
      cases done
      exact ⟨[], [], rfl, rfl⟩
  | cons first rest ih =>
      unfold place at done
      split at done
      · cases done
        exact ⟨[], first :: rest, rfl, rfl⟩
      · cases done
      · obtain ⟨behind, placedBehind, rfl⟩ := Option.map_eq_some_iff.mp done
        obtain ⟨earlier, later, rfl, rfl⟩ := ih placedBehind
        exact ⟨first :: earlier, later, rfl, rfl⟩

/-- A saved message of a new number is found under it. -/
theorem numbered?_of_save {outcome : SaveOutcome}
    (saved : store.save channel message = .ok (outcome, after))
    (absent : Message.numbered? (store.shelf channel) message.header.seq.toNat = none) :
    Message.numbered? (after.shelf channel) n =
      (Message.numbered? (store.shelf channel) n).or (Message.numbered? [message] n) := by
  rcases of_save_eq_ok saved with ⟨refused, -⟩ | ⟨placed, placing, rfl⟩
  · obtain ⟨taken, onShelf, same⟩ := place_eq_none refused
    have other := Message.numbered?_eq_none_iff.mp absent taken onShelf
    exact (other (congrArg UInt64.toNat same)).elim
  · obtain ⟨earlier, later, before, rfl⟩ := exists_between_of_place placing
    rw [before] at absent
    rw [shelf_insert, if_pos rfl, before, Message.numbered?_between absent]

end MemoryStore

end Messenger
