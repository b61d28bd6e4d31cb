import Messenger.Proofs.Timeline.Keyed
import Messenger.Store.Memory

/-!
# What a store in memory holds

Saving a numbered message never fails, and afterwards its channel holds a message
with its number.  No request makes a store let go of a message.  A shelf that ascends
stays so, and has one message of a number.
-/

namespace Messenger

namespace Message

/-- The numbers of the messages ascend strictly. -/
def Ascending (messages : List Message) : Prop :=
  messages.Pairwise fun a b => a.header.seq < b.header.seq

/-- Ascending messages with the same number are the same. -/
theorem Ascending.eq_of_seq_eq {messages : List Message} (ascending : Ascending messages)
    {a b : Message} (aMember : a ∈ messages) (bMember : b ∈ messages)
    (same : a.header.seq = b.header.seq) : a = b :=
  AscendingBy.eq_of_key_eq ascending aMember bMember same

/-- Ascending messages are determined by which ones they are. -/
theorem Ascending.eq_of_mem_iff {messages others : List Message}
    (ascending : Ascending messages) (othersAscending : Ascending others)
    (same : ∀ message, message ∈ messages ↔ message ∈ others) : messages = others :=
  AscendingBy.eq_of_mem_iff ascending othersAscending same

end Message

namespace MemoryStore

/-- The store has a message of a channel with a number. -/
def Holds (store : MemoryStore) (channel : Channel) (seq : UInt64) : Prop :=
  ∃ message ∈ store.shelf channel, message.header.seq = seq

instance (store : MemoryStore) (channel : Channel) (seq : UInt64) :
    Decidable (store.Holds channel seq) :=
  inferInstanceAs (Decidable (∃ message ∈ store.shelf channel, message.header.seq = seq))

/-- Every message of one store is in the other, in the same channel. -/
def Within (store after : MemoryStore) : Prop :=
  ∀ channel, store.shelf channel ⊆ after.shelf channel

theorem Within.refl (store : MemoryStore) : store.Within store :=
  fun _ => List.Subset.refl _

theorem Holds.mono {store after : MemoryStore} {channel : Channel} {seq : UInt64}
    (held : store.Holds channel seq) (within : store.Within after) : after.Holds channel seq := by
  obtain ⟨message, onShelf, number⟩ := held
  exact ⟨message, within channel onShelf, number⟩

/-- A message is not placed only if a message on the shelf has its number. -/
theorem place_eq_none {message : Message} {shelf : List Message}
    (refused : place message shelf = none) :
    ∃ taken ∈ shelf, taken.header.seq = message.header.seq := by
  induction shelf with
  | nil => cases refused
  | cons first rest ih =>
      unfold place at refused
      split at refused
      · cases refused
      · next same => exact ⟨first, List.mem_cons_self, (Std.compare_eq_iff_eq.mp same).symm⟩
      · obtain ⟨taken, onShelf, number⟩ := ih (Option.map_eq_none_iff.mp refused)
        exact ⟨taken, List.mem_cons_of_mem first onShelf, number⟩

/-- Placing adds the message and nothing else. -/
theorem perm_of_place {message : Message} {shelf placed : List Message}
    (done : place message shelf = some placed) : placed.Perm (message :: shelf) := by
  induction shelf generalizing placed with
  | nil =>
      cases done
      exact .refl _
  | cons first rest ih =>
      unfold place at done
      split at done
      · cases done
        exact .refl _
      · cases done
      · obtain ⟨behind, placedBehind, rfl⟩ := Option.map_eq_some_iff.mp done
        exact ((ih placedBehind).cons first).trans (.swap message first rest)

theorem mem_of_place {message other : Message} {shelf placed : List Message}
    (done : place message shelf = some placed) :
    other ∈ placed ↔ other = message ∨ other ∈ shelf := by
  rw [(perm_of_place done).mem_iff, List.mem_cons]

/-- Placing keeps a shelf ascending. -/
theorem ascending_of_place {message : Message} {shelf placed : List Message}
    (done : place message shelf = some placed) (ascending : Message.Ascending shelf) :
    Message.Ascending placed := by
  induction shelf generalizing placed with
  | nil =>
      cases done
      exact List.pairwise_singleton ..
  | cons first rest ih =>
      obtain ⟨beforeRest, restAscending⟩ := List.pairwise_cons.mp ascending
      unfold place at done
      split at done
      · next lower =>
          cases done
          have beforeFirst := Std.compare_eq_lt.mp lower
          refine List.pairwise_cons.mpr ⟨List.forall_mem_cons.mpr ⟨beforeFirst, ?_⟩, ascending⟩
          intro later behind
          exact UInt64.lt_trans beforeFirst (beforeRest later behind)
      · cases done
      · next higher =>
          obtain ⟨behind, placedBehind, rfl⟩ := Option.map_eq_some_iff.mp done
          refine List.pairwise_cons.mpr ⟨?_, ih placedBehind restAscending⟩
          intro later member
          rcases (mem_of_place placedBehind).mp member with rfl | inRest
          · exact Std.compare_eq_gt.mp higher
          · exact beforeRest later inRest

/-- A message is not placed on an ascending shelf exactly if its number is taken. -/
theorem place_eq_none_iff {message : Message} {shelf : List Message}
    (ascending : Message.Ascending shelf) :
    place message shelf = none ↔ ∃ taken ∈ shelf, taken.header.seq = message.header.seq := by
  refine ⟨place_eq_none, ?_⟩
  rintro ⟨taken, onShelf, same⟩
  cases placing : place message shelf with
  | none => rfl
  | some placed =>
      have distinct := ((perm_of_place placing).pairwise_iff
        (R := fun a b : Message => a.header.seq ≠ b.header.seq) Ne.symm).mp
        ((ascending_of_place placing ascending).imp UInt64.ne_of_lt)
      exact ((List.pairwise_cons.mp distinct).1 taken onShelf same.symm).elim

theorem shelf_insert (store : MemoryStore) (channel other : Channel) (shelf : List Message) :
    MemoryStore.shelf { store with shelves := store.shelves.insert channel shelf } other =
      if other = channel then shelf else store.shelf other := by
  unfold MemoryStore.shelf
  rw [Assoc.find?_insert]
  split <;> rfl

/-- Saving either finds the number taken and changes nothing, or places the message on the shelf of
its channel. -/
theorem of_save_eq_ok {store after : MemoryStore} {channel : Channel} {message : Message}
    {outcome : SaveOutcome} (saved : store.save channel message = .ok (outcome, after)) :
    place message (store.shelf channel) = none ∧ after = store ∨
      ∃ placed, place message (store.shelf channel) = some placed ∧
        after = { store with shelves := store.shelves.insert channel placed } := by
  unfold save at saved
  split at saved
  · cases saved
  · split at saved
    · next taken =>
        cases saved
        exact .inl ⟨taken, rfl⟩
    · next placed placing =>
        cases saved
        exact .inr ⟨placed, placing, rfl⟩

/-- A message with a number can be saved, and then its channel holds the number. -/
theorem save_of_numbered (store : MemoryStore) (channel : Channel) {message : Message}
    {seq : UInt64} (numbered : message.seq? = some seq) :
    ∃ outcome after, store.save channel message = .ok (outcome, after) ∧
      store.Within after ∧ after.Holds channel seq := by
  obtain ⟨rfl, -⟩ := Message.seq?_eq_some_iff.mp numbered
  unfold save requireSeq
  rw [numbered]
  dsimp only
  cases placing : place message (store.shelf channel) with
  | none => exact ⟨_, _, rfl, .refl store, place_eq_none placing⟩
  | some placed =>
      refine ⟨_, _, rfl, ?_, message, ?_, rfl⟩
      · intro other entry onShelf
        rw [shelf_insert]
        split
        · next same =>
            rw [same] at onShelf
            exact (mem_of_place placing).mpr (.inr onShelf)
        · exact onShelf
      · rw [shelf_insert, if_pos rfl]
        exact (mem_of_place placing).mpr (.inl rfl)

/-- A message without a number cannot be saved. -/
theorem save_of_unnumbered (store : MemoryStore) (channel : Channel) {message : Message}
    (unnumbered : message.seq? = none) :
    store.save channel message = .error (.unsequenced message) := by
  unfold save requireSeq
  rw [unnumbered]

theorem within_of_save {store after : MemoryStore} {channel : Channel} {message : Message}
    {outcome : SaveOutcome} (saved : store.save channel message = .ok (outcome, after)) :
    store.Within after := by
  cases numbered : message.seq? with
  | none =>
      rw [save_of_unnumbered store channel numbered] at saved
      cases saved
  | some seq =>
      obtain ⟨_, _, result, within, -⟩ := store.save_of_numbered channel numbered
      rw [result] at saved
      cases saved
      exact within

theorem holds_of_save {store after : MemoryStore} {channel : Channel} {message : Message}
    {seq : UInt64} {outcome : SaveOutcome} (numbered : message.seq? = some seq)
    (saved : store.save channel message = .ok (outcome, after)) : after.Holds channel seq := by
  obtain ⟨_, _, result, -, held⟩ := store.save_of_numbered channel numbered
  rw [result] at saved
  cases saved
  exact held

theorem not_refused {store : MemoryStore} {channel : Channel} {message : Message} {seq : UInt64}
    {cause : StoreError} (numbered : message.seq? = some seq) :
    store.save channel message ≠ .error cause := by
  obtain ⟨_, _, result, -, -⟩ := store.save_of_numbered channel numbered
  rw [result]
  exact nofun

/-- What the store answers for a run of numbers is on the shelf. -/
theorem range_subset (store : MemoryStore) (channel : Channel) (low high : UInt64) :
    store.range channel low high ⊆ store.shelf channel :=
  List.filter_sublist.subset

theorem before_subset (store : MemoryStore) (channel : Channel) (bound limit : UInt64) :
    store.before channel bound limit ⊆ store.shelf channel :=
  List.Subset.trans (List.drop_subset ..) List.filter_sublist.subset

end MemoryStore

end Messenger
