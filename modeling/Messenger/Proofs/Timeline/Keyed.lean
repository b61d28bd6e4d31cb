import Mathlib.Data.List.Induction
import Messenger.Proofs.Timeline.Waiting

/-!
# Messages that compare by one key

Numbered messages compare by their numbers, and messages whose numbers and clocks agree
compare by their times.  Where all messages compare by one key, a timeline keeps the first
message of every key, in the strictly ascending order of the keys: an insertion finds an
entry of the key, or stores the message behind all entries of lower keys.
-/

namespace Messenger

variable {key : Message → UInt64}

namespace Message

variable {messages others : List Message}

/-- The messages ascend strictly by a key. -/
def AscendingBy (key : Message → UInt64) (messages : List Message) : Prop :=
  messages.Pairwise fun a b => key a < key b

theorem AscendingBy.nodup (ascending : AscendingBy key messages) : messages.Nodup :=
  List.Pairwise.imp (fun lower same => UInt64.ne_of_lt lower (congrArg key same)) ascending

/-- Of messages that ascend by a key, there is one of each key. -/
theorem AscendingBy.eq_of_key_eq (ascending : AscendingBy key messages) {a b : Message}
    (aMember : a ∈ messages) (bMember : b ∈ messages) (same : key a = key b) : a = b := by
  have onward : messages.Pairwise fun a b => key a = key b → a = b :=
    ascending.imp fun lower same => (UInt64.ne_of_lt lower same).elim
  have backward : messages.Pairwise (flip fun a b => key a = key b → a = b) :=
    ascending.imp fun lower same => (UInt64.ne_of_lt lower same.symm).elim
  exact onward.forall_of_forall_of_flip (fun _ _ _ => rfl) backward aMember bMember same

/-- Messages that ascend by a key are determined by which ones they are. -/
theorem AscendingBy.eq_of_mem_iff (ascending : AscendingBy key messages)
    (othersAscending : AscendingBy key others)
    (same : ∀ message, message ∈ messages ↔ message ∈ others) : messages = others := by
  have permuted : messages.Perm others :=
    (List.perm_ext_iff_of_nodup ascending.nodup othersAscending.nodup).mpr same
  refine permuted.eq_of_pairwise (fun a b _ _ lower higher => ?_) ascending othersAscending
  exact (UInt64.lt_asymm lower higher).elim

/-- The first of the messages with a key. -/
def firstOf? (key : Message → UInt64) (messages : List Message) (value : UInt64) :
    Option Message :=
  messages.find? fun message => key message = value

theorem of_firstOf? {value : UInt64} {message : Message}
    (found : firstOf? key messages value = some message) :
    message ∈ messages ∧ key message = value :=
  ⟨List.mem_of_find?_eq_some found, by simpa using List.find?_some found⟩

theorem firstOf?_eq_none_iff {value : UInt64} :
    firstOf? key messages value = none ↔ ∀ message ∈ messages, key message ≠ value := by
  simp [firstOf?]

/-- One more message is the first of its key, or the first messages stay what they are. -/
theorem firstOf?_append_singleton (messages : List Message) (last : Message) (value : UInt64) :
    firstOf? key (messages ++ [last]) value =
      (firstOf? key messages value).or (if key last = value then some last else none) := by
  unfold firstOf?
  rw [List.find?_append, List.find?_singleton]
  simp only [decide_eq_true_eq]

end Message

namespace Timeline

variable {timeline : Timeline} {messages : List Message} {arriving entry : Message}

/-! ## Insertions -/

/-- Numbered messages compare by their numbers. -/
theorem relate_of_numbered {a b : Message} (aNumbered : a.header.seq ≠ 0)
    (bNumbered : b.header.seq ≠ 0) : relate a b = compare a.header.seq b.header.seq :=
  relate_of_confirmed (Message.seq?_eq_some_iff.mpr ⟨rfl, aNumbered⟩)
    (Message.seq?_eq_some_iff.mpr ⟨rfl, bNumbered⟩)

/-- Where the messages compare by a key, an entry has the key of the arriving message, or
the message is stored between the entries of lower keys and those of higher ones. -/
theorem insert_cases_by (ascending : Message.AscendingBy key timeline.entries)
    (compares : ∀ entry ∈ timeline.entries,
      relate entry arriving = compare (key entry) (key arriving)) :
    (∃ entry ∈ timeline.entries, key entry = key arriving) ∧
        timeline.insert arriving = (.duplicate, timeline) ∨
      ∃ lower upper, timeline.entries = lower ++ upper ∧
        (∀ entry ∈ lower, key entry < key arriving) ∧
        (∀ entry ∈ upper, key arriving < key entry) ∧
        timeline.insert arriving = (.at lower.length, ⟨lower ++ arriving :: upper⟩) := by
  rcases insert_cases timeline arriving with
    ⟨older, entry, newer, stop, before, result⟩ |
    ⟨older, entry, newer, stop, equal, result⟩ | ⟨passed, result⟩
  · -- The entries behind the one where the scan stops have lower keys than it has.
    right
    rw [compares entry stop.mem_entries, Std.compare_eq_lt] at before
    unfold Message.AscendingBy at ascending
    rw [stop.entries_eq, List.pairwise_append] at ascending
    refine ⟨older ++ [entry], newer, ?_, ?_, ?_, ?_⟩
    · rw [stop.entries_eq, List.append_assoc, List.singleton_append]
    · intro other member
      rcases List.mem_append.mp member with inOlder | isEntry
      · exact UInt64.lt_trans (ascending.2.2 other inOlder entry List.mem_cons_self) before
      · exact List.mem_singleton.mp isEntry ▸ before
    · intro later member
      have listed : later ∈ timeline.entries := by
        rw [stop.entries_eq]
        exact List.mem_append_right older (List.mem_cons_of_mem entry member)
      have behind := stop.passed later member
      rw [compares later listed] at behind
      exact Std.compare_eq_gt.mp behind
    · rw [result, List.length_append, List.length_singleton, List.append_assoc,
        List.singleton_append]
  · left
    rw [compares entry stop.mem_entries, Std.compare_eq_iff_eq] at equal
    exact ⟨⟨entry, stop.mem_entries, equal⟩, result⟩
  · right
    refine ⟨[], timeline.entries, rfl, List.forall_mem_nil _, ?_, result⟩
    intro entry member
    have behind := passed entry member
    rw [compares entry member] at behind
    exact Std.compare_eq_gt.mp behind

section Step

variable (ascending : Message.AscendingBy key timeline.entries)
  (compares : ∀ entry ∈ timeline.entries,
    relate entry arriving = compare (key entry) (key arriving))
include ascending compares

theorem ascendingBy_insert : Message.AscendingBy key (timeline.insert arriving).2.entries := by
  rcases insert_cases_by ascending compares with
    ⟨-, result⟩ | ⟨lower, upper, entriesEq, below, above, result⟩
  · rw [result]
    exact ascending
  · rw [result]
    unfold Message.AscendingBy at ascending ⊢
    rw [entriesEq, List.pairwise_append] at ascending
    rw [List.pairwise_append, List.pairwise_cons]
    refine ⟨ascending.1, ⟨above, ascending.2.1⟩, fun earlier inLower later behind => ?_⟩
    rcases List.mem_cons.mp behind with rfl | inUpper
    · exact below earlier inLower
    · exact ascending.2.2 earlier inLower later inUpper

/-- The outcome of an insertion is told by the keys alone. -/
theorem fst_insert_by :
    (timeline.insert arriving).1 =
      if ∃ entry ∈ timeline.entries, key entry = key arriving then .duplicate
      else .at (timeline.entries.countP fun entry => key entry < key arriving) := by
  rcases insert_cases_by ascending compares with
    ⟨present, result⟩ | ⟨lower, upper, entriesEq, below, above, result⟩
  · rw [result, if_pos present]
  · have absent : ¬∃ entry ∈ timeline.entries, key entry = key arriving := by
      rintro ⟨entry, member, same⟩
      rw [entriesEq, List.mem_append] at member
      rcases member with inLower | inUpper
      · exact UInt64.ne_of_lt (below entry inLower) same
      · exact UInt64.ne_of_lt (above entry inUpper) same.symm
    have lowerCount : lower.countP (fun entry => key entry < key arriving) = lower.length :=
      List.countP_eq_length.mpr fun entry inLower => decide_eq_true (below entry inLower)
    have upperCount : upper.countP (fun entry => key entry < key arriving) = 0 := by
      refine List.countP_eq_zero.mpr fun entry inUpper => ?_
      simpa using UInt64.le_of_lt (above entry inUpper)
    rw [result, if_neg absent, entriesEq, List.countP_append, lowerCount, upperCount,
      Nat.add_zero]

/-- A message is stored exactly if no entry has its key. -/
theorem isNew_insert_by :
    (timeline.insert arriving).1.isNew = true ↔
      ∀ entry ∈ timeline.entries, key entry ≠ key arriving := by
  rw [fst_insert_by ascending compares]
  split
  · next present =>
      obtain ⟨entry, member, same⟩ := present
      simp only [Inserted.isNew, Bool.false_eq_true, false_iff]
      exact fun absent => absent entry member same
  · next absent =>
      simp only [Inserted.isNew, true_iff]
      exact fun entry member same => absent ⟨entry, member, same⟩

end Step

/-! ## Runs -/

theorem insertAll_append_singleton (timeline : Timeline) (messages : List Message)
    (last : Message) :
    timeline.insertAll (messages ++ [last]) = ((timeline.insertAll messages).insert last).2 := by
  unfold insertAll
  rw [List.foldl_append, List.foldl_cons, List.foldl_nil]

/-- A timeline keeps the first of the messages of every key, in the order of the keys. -/
structure KeepsFirst (key : Message → UInt64) (messages : List Message) (timeline : Timeline) :
    Prop where
  ascending : Message.AscendingBy key timeline.entries
  mem_iff : ∀ entry,
    entry ∈ timeline.entries ↔ Message.firstOf? key messages (key entry) = some entry

namespace KeepsFirst

theorem of_empty : KeepsFirst key [] empty where
  ascending := List.Pairwise.nil
  mem_iff _ := by simp [empty, Message.firstOf?]

theorem subset (keeps : KeepsFirst key messages timeline) : timeline.entries ⊆ messages :=
  fun entry member => (Message.of_firstOf? ((keeps.mem_iff entry).mp member)).1

/-- The keys of the entries are the keys of the messages. -/
theorem exists_key_iff (keeps : KeepsFirst key messages timeline) (value : UInt64) :
    (∃ entry ∈ timeline.entries, key entry = value) ↔
      ∃ message ∈ messages, key message = value := by
  constructor
  · rintro ⟨entry, member, same⟩
    exact ⟨entry, keeps.subset member, same⟩
  · rintro ⟨message, member, rfl⟩
    cases search : Message.firstOf? key messages (key message) with
    | none => exact (Message.firstOf?_eq_none_iff.mp search message member rfl).elim
    | some first =>
        obtain ⟨-, same⟩ := Message.of_firstOf? search
        refine ⟨first, (keeps.mem_iff first).mpr ?_, same⟩
        rw [same]
        exact search

/-- One more message is inserted. -/
theorem insert (keeps : KeepsFirst key messages timeline)
    (compares : ∀ message ∈ messages,
      relate message arriving = compare (key message) (key arriving)) :
    KeepsFirst key (messages ++ [arriving]) (timeline.insert arriving).2 := by
  have comparesEntry : ∀ entry ∈ timeline.entries,
      relate entry arriving = compare (key entry) (key arriving) :=
    fun entry member => compares entry (keeps.subset member)
  refine ⟨ascendingBy_insert keeps.ascending comparesEntry, fun entry => ?_⟩
  rw [mem_entries_insert, isNew_insert_by keeps.ascending comparesEntry, keeps.mem_iff,
    Message.firstOf?_append_singleton, Option.or_eq_some_iff]
  refine or_congr_right ?_
  -- The arriving message counts for the entries of its own key only.
  by_cases same : key arriving = key entry
  · have absent := not_congr (keeps.exists_key_iff (key arriving))
    simp only [not_exists, not_and] at absent
    rw [if_pos same, Option.some_inj, Message.firstOf?_eq_none_iff, ← same, and_comm]
    exact and_congr absent eq_comm
  · rw [if_neg same]
    simp only [reduceCtorEq, and_false, iff_false, not_and]
    rintro rfl
    exact (same rfl).elim

/-- Messages of distinct keys are all kept. -/
theorem mem_entries_iff (keeps : KeepsFirst key messages timeline)
    (distinct : ∀ a ∈ messages, ∀ b ∈ messages, key a = key b → a = b) (message : Message) :
    message ∈ timeline.entries ↔ message ∈ messages := by
  constructor
  · exact fun member => keeps.subset member
  · intro member
    obtain ⟨entry, listed, same⟩ := (keeps.exists_key_iff (key message)).mpr ⟨message, member, rfl⟩
    rwa [← distinct entry (keeps.subset listed) message member same]

/-- Which messages of distinct keys a timeline has been given says what it is. -/
theorem eq_of_mem_iff {others : List Message} {other : Timeline}
    (keeps : KeepsFirst key messages timeline) (otherKeeps : KeepsFirst key others other)
    (distinct : ∀ a ∈ messages, ∀ b ∈ messages, key a = key b → a = b)
    (same : ∀ message, message ∈ others ↔ message ∈ messages) : other = timeline := by
  have otherDistinct : ∀ a ∈ others, ∀ b ∈ others, key a = key b → a = b :=
    fun a aMember b bMember => distinct a ((same a).mp aMember) b ((same b).mp bMember)
  have entriesEq : other.entries = timeline.entries := by
    refine otherKeeps.ascending.eq_of_mem_iff keeps.ascending fun message => ?_
    rw [otherKeeps.mem_entries_iff otherDistinct, keeps.mem_entries_iff distinct, same]
  cases other
  cases timeline
  exact congrArg Timeline.mk entriesEq

end KeepsFirst

/-- Messages that compare by a key are kept by it. -/
theorem keepsFirst_insertAll (compares : ∀ a ∈ messages, ∀ b ∈ messages,
      relate a b = compare (key a) (key b)) :
    KeepsFirst key messages (empty.insertAll messages) := by
  induction messages using List.reverseRecOn with
  | nil => exact .of_empty
  | append_singleton messages last ih =>
      rw [insertAll_append_singleton]
      refine (ih fun a aMember b bMember => ?_).insert fun message member => ?_
      · exact compares a (List.mem_append_left [last] aMember) b
          (List.mem_append_left [last] bMember)
      · exact compares message (List.mem_append_left [last] member) last
          (List.mem_append_right messages List.mem_cons_self)

/-- What becomes of each of the messages is told by the keys of those before it. -/
theorem fst_insert_insertAll {earlier later : List Message} {message : Message}
    (compares : ∀ a ∈ earlier ++ message :: later, ∀ b ∈ earlier ++ message :: later,
      relate a b = compare (key a) (key b)) :
    ((empty.insertAll earlier).insert message).1 =
      if ∃ entry ∈ (empty.insertAll earlier).entries, key entry = key message then .duplicate
      else .at ((empty.insertAll earlier).entries.countP fun entry => key entry < key message) := by
  have before : ∀ a ∈ earlier, a ∈ earlier ++ message :: later :=
    fun a member => List.mem_append_left _ member
  have keeps : KeepsFirst key earlier (empty.insertAll earlier) :=
    keepsFirst_insertAll fun a aMember b bMember =>
      compares a (before a aMember) b (before b bMember)
  refine fst_insert_by keeps.ascending fun entry member => ?_
  exact compares entry (before entry (keeps.subset member)) message
    (List.mem_append_right earlier List.mem_cons_self)

end Timeline

end Messenger
