import Mathlib.Data.List.Permutation
import Messenger.Proofs.Conversation.Storable
import Messenger.Proofs.Timeline.Insertion

/-!
# Conversation lists survive their store

Every operation leaves a list arranged, also one that loads what something else has stored.
Such a list is therefore loaded in the order in which it was stored, although loading arranges
it anew.  The accounts have separate keys, so none sees what is stored for another.
-/

namespace Messenger.ConversationList

/-- The lists that a run of operations can lead to.  What is loaded can come from any store,
whatever is stored there. -/
inductive Reached : ConversationList → Prop
  | empty : Reached .empty
  | noteMessage {list : ConversationList} (reached : Reached list) (peer : AccountId)
      (message : Message) (countsUnread : Bool) :
      Reached (list.noteMessage peer message countsUnread)
  | noteConfirmation {list : ConversationList} (reached : Reached list) (peer : AccountId)
      (time : UInt64) : Reached (list.noteConfirmation peer time)
  | noteRoster {list : ConversationList} (reached : Reached list)
      (roster : List (AccountId × UInt64)) : Reached (list.noteRoster roster)
  | clearUnread {list : ConversationList} (reached : Reached list) (peer : AccountId) :
      Reached (list.clearUnread peer)
  | reload {σ : Type} [MessageStore σ] {store : σ} {account : AccountId} {list : ConversationList}
      (loaded : load store account = .ok list) : Reached list

variable {list : ConversationList}

theorem Reached.arranged (reached : Reached list) : list.Arranged := by
  induction reached with
  | empty => exact .nil
  | noteMessage _ peer message countsUnread ih => exact ih.noteMessage peer message countsUnread
  | noteConfirmation _ peer time ih => exact ih.noteConfirmation peer time
  | noteRoster _ roster => exact arranged_noteRoster _ roster
  | clearUnread _ peer ih => exact ih.clearUnread peer
  | reload loaded => exact arranged_of_load loaded

/-- A list of operations whose lengths fit into words is refused only by a database without a
table for values.  Once it is stored for an account, it is loaded for the account entry by entry
as it was, and for every other account the same is loaded as before. -/
theorem Reached.load_eq_of_save (reached : Reached list)
    (counted : list.entries.length < UInt64.size) (brief : ∀ entry ∈ list.entries, entry.Brief)
    (store : Backend) (account : AccountId) :
    (∀ cause, list.save store account = .error cause ↔
      ∃ database, store = .relational database ∧ database.values = none ∧
        cause = .database (.missingTable Database.valuesTable)) ∧
    ∀ after, list.save store account = .ok after →
      load after account = .ok list ∧
      ∀ other, other ≠ account → load after other = load store other := by
  refine ⟨fun cause => Backend.setValue_eq_error_iff, fun after saved => ⟨?_, ?_⟩⟩
  · exact load_of_save ⟨reached.arranged, brief⟩ counted saved
  · exact fun other different => load_of_save_of_ne different saved

/-- Two conversations replace the one that was stored for the account before; what is stored for
another account stays. -/
theorem load_of_two_conversations :
    let list : ConversationList :=
      ⟨[⟨3, Word.top, "", 0, .na⟩, ⟨2, 100, "", 1, .text⟩]⟩
    let single := empty.noteMessage 2 (.bareText 2 1 0 100) true
    ∃ store after : Backend,
      (do single.save (← single.save (Backend.memory .empty) 1) 12) = .ok store ∧
      single.noteRoster [(3, Word.top)] = list ∧ list.save store 1 = .ok after ∧
      load after 1 = .ok list ∧ load after 12 = load store 12 := by
  intro list single
  have made : single.noteRoster [(3, Word.top)] = list := by cbv
  have reached : Reached list :=
    made ▸ .noteRoster (.noteMessage .empty 2 (.bareText 2 1 0 100) true) _
  have survives {store after : Backend} (saved : list.save store 1 = .ok after) :
      load after 1 = .ok list ∧ load after 12 = load store 12 :=
    ((reached.load_eq_of_save (by decide) (by decide) store 1).2 after saved).imp_right
      fun others => others 12 (by decide)
  exact ⟨_, _, rfl, made, rfl, survives rfl⟩

end Messenger.ConversationList
