import Messenger.Proofs.History.Contiguous
import Messenger.Proofs.Session.Turns

/-!
# What merging files

Merging a numbered message files it in the timeline of its channel and, if it is new
there, in the store.  A number that is in the timeline after messages were filed is in
the store too, unless it was in the timeline but not in the store before; what was in an
ascending timeline but not in the store is never saved.
-/

namespace Messenger

namespace MemoryStore

/-- The store once a message with a number was saved. -/
def saved (store : MemoryStore) (channel : Channel) (message : Message) : MemoryStore :=
  match place message (store.shelf channel) with
  | none => store
  | some placed => { store with shelves := store.shelves.insert channel placed }

theorem save_eq_saved (store : MemoryStore) (channel : Channel) {message : Message} {seq : UInt64}
    (numbered : message.seq? = some seq) :
    ∃ outcome, store.save channel message = .ok (outcome, store.saved channel message) := by
  unfold save requireSeq saved
  rw [numbered]
  dsimp only
  cases place message (store.shelf channel) with
  | none => exact ⟨_, rfl⟩
  | some placed => exact ⟨_, rfl⟩

theorem mem_shelf_saved {store : MemoryStore} {channel : Channel} {message stored : Message}
    (onShelf : stored ∈ (store.saved channel message).shelf channel) :
    stored = message ∨ stored ∈ store.shelf channel := by
  unfold saved at onShelf
  split at onShelf
  · exact .inr onShelf
  · next placed placing =>
      rw [shelf_insert, if_pos rfl] at onShelf
      exact (mem_of_place placing).mp onShelf

end MemoryStore

namespace Session

/-! ## Filing messages -/

/-- A message is filed in a timeline, and in a store if it is new there. -/
def file (channel : Channel) (kept : Timeline × MemoryStore) (message : Message) :
    Timeline × MemoryStore :=
  let (inserted, timeline) := kept.1.insert message
  (timeline, if inserted.isNew then kept.2.saved channel message else kept.2)

/-- Messages are filed one after the other. -/
def fileAll (channel : Channel) (kept : Timeline × MemoryStore) (messages : List Message) :
    Timeline × MemoryStore :=
  messages.foldl (file channel) kept

/-- A number is in the timeline but not in the store. -/
def Unsaved (channel : Channel) (kept : Timeline × MemoryStore) (seq : UInt64) : Prop :=
  seq ∈ kept.1.seqs ∧ ¬kept.2.Holds channel seq

section Filing

variable {channel : Channel} {kept : Timeline × MemoryStore} {message : Message}
  {messages : List Message} {seq : UInt64}

theorem pending_file (settled : kept.1.pending = []) (numbered : message.header.seq ≠ 0) :
    (file channel kept message).1.pending = [] :=
  Timeline.pending_insert settled (Message.seq?_eq_some_iff.mpr ⟨rfl, numbered⟩)

theorem mem_seqs_file (settled : kept.1.pending = []) (numbered : message.header.seq ≠ 0) :
    seq ∈ (file channel kept message).1.seqs ↔ seq ∈ kept.1.seqs ∨ seq = message.header.seq :=
  Timeline.mem_seqs_insert_of_settled settled (Message.seq?_eq_some_iff.mpr ⟨rfl, numbered⟩)

/-- A message that is filed leaves no other number unsaved than was before. -/
theorem unsaved_of_file (settled : kept.1.pending = []) (numbered : message.header.seq ≠ 0)
    (unsaved : Unsaved channel (file channel kept message) seq) : Unsaved channel kept seq := by
  have seqEq := Message.seq?_eq_some_iff.mpr ⟨rfl, numbered⟩
  obtain ⟨outcome, saved⟩ := kept.2.save_eq_saved channel seqEq
  obtain ⟨present, missing⟩ := unsaved
  unfold file at missing
  dsimp only at missing
  split at missing
  · next new =>
      refine ⟨?_, fun held => missing (held.mono (MemoryStore.within_of_save saved))⟩
      refine ((mem_seqs_file settled numbered).mp present).resolve_right ?_
      rintro rfl
      exact missing (MemoryStore.holds_of_save seqEq saved)
  · next known =>
      refine ⟨?_, missing⟩
      exact (Timeline.mem_seqs_insert.mp present).resolve_right fun arrived => known arrived.2

/-- A message that is filed in an ascending timeline saves no number that was unsaved. -/
theorem Unsaved.file (settled : kept.1.pending = []) (ascending : kept.1.Ascending)
    (numbered : message.header.seq ≠ 0) (unsaved : Unsaved channel kept seq) :
    Unsaved channel (file channel kept message) seq := by
  obtain ⟨present, missing⟩ := unsaved
  refine ⟨(mem_seqs_file settled numbered).mpr (.inl present), ?_⟩
  unfold Session.file
  dsimp only
  split
  · next new =>
      rintro ⟨stored, onShelf, rfl⟩
      rcases MemoryStore.mem_shelf_saved onShelf with rfl | before
      · have numberedAs := Message.seq?_eq_some_iff.mpr ⟨rfl, numbered⟩
        exact Timeline.not_mem_seqs_of_isNew settled ascending numberedAs new present
      · exact missing ⟨stored, before, rfl⟩
  · exact missing

/-- The timeline has the numbers of the messages that were filed beside its own. -/
theorem mem_seqs_fileAll (settled : kept.1.pending = [])
    (numbered : ∀ message ∈ messages, message.header.seq ≠ 0) :
    seq ∈ (fileAll channel kept messages).1.seqs ↔
      seq ∈ kept.1.seqs ∨ ∃ message ∈ messages, message.header.seq = seq := by
  induction messages generalizing kept with
  | nil => simp [fileAll]
  | cons message rest ih =>
      obtain ⟨first, others⟩ := List.forall_mem_cons.mp numbered
      have pending : (file channel kept message).1.pending = [] := pending_file settled first
      have behind := ih pending others
      rw [mem_seqs_file settled first] at behind
      refine behind.trans ?_
      rw [or_assoc]
      simp [eq_comm]

theorem unsaved_of_fileAll (settled : kept.1.pending = [])
    (numbered : ∀ message ∈ messages, message.header.seq ≠ 0)
    (unsaved : Unsaved channel (fileAll channel kept messages) seq) :
    Unsaved channel kept seq := by
  induction messages generalizing kept with
  | nil => exact unsaved
  | cons message rest ih =>
      obtain ⟨first, others⟩ := List.forall_mem_cons.mp numbered
      exact unsaved_of_file settled first (ih (pending_file settled first) others unsaved)

theorem Unsaved.fileAll (settled : kept.1.pending = []) (ascending : kept.1.Ascending)
    (numbered : ∀ message ∈ messages, message.header.seq ≠ 0)
    (unsaved : Unsaved channel kept seq) : Unsaved channel (fileAll channel kept messages) seq := by
  induction messages generalizing kept with
  | nil => exact unsaved
  | cons message rest ih =>
      obtain ⟨first, others⟩ := List.forall_mem_cons.mp numbered
      exact ih (pending_file settled first)
        (Timeline.ascending_insert_of_settled settled ascending) others
        (unsaved.file settled ascending first)

end Filing

/-! ## Merging -/

/-- The highest number of messages that are merged, beside one that is known. -/
def highest (last : Option UInt64) (messages : List Message) : Option UInt64 :=
  messages.foldl (fun last message => higher last message.seq?) last

/-- Of numbered messages, one has the highest number. -/
theorem highest_cases {messages : List Message}
    (numbered : ∀ message ∈ messages, message.header.seq ≠ 0) :
    messages = [] ∧ highest none messages = none ∨
      ∃ top ∈ messages, highest none messages = some top.header.seq ∧
        ∀ message ∈ messages, message.header.seq ≤ top.header.seq := by
  induction messages using List.reverseRecOn with
  | nil => exact .inl ⟨rfl, rfl⟩
  | append_singleton earlier latest ih =>
      have seq := Message.seq?_eq_some_iff.mpr
        ⟨rfl, numbered latest (List.mem_append_right _ List.mem_cons_self)⟩
      have step : highest none (earlier ++ [latest]) =
          higher (highest none earlier) (some latest.header.seq) := by
        unfold highest
        rw [List.foldl_append, List.foldl_cons, List.foldl_nil, seq]
      rw [step]
      right
      rcases ih fun message member => numbered message (List.mem_append_left _ member) with
        ⟨rfl, none⟩ | ⟨top, member, some, bound⟩
      · rw [none]
        exact ⟨latest, List.mem_cons_self, rfl, by simp⟩
      · rw [some]
        by_cases below : top.header.seq ≤ latest.header.seq
        · have greater : max top.header.seq latest.header.seq = latest.header.seq := if_pos below
          refine ⟨latest, List.mem_append_right _ List.mem_cons_self,
            congrArg Option.some greater, fun message listed => ?_⟩
          rcases List.mem_append.mp listed with before | last
          · exact UInt64.le_trans (bound message before) below
          · exact List.mem_singleton.mp last ▸ UInt64.le_refl _
        · have greater : max top.header.seq latest.header.seq = top.header.seq :=
            if_neg below
          refine ⟨top, List.mem_append_left _ member, congrArg Option.some greater,
            fun message listed => ?_⟩
          rcases List.mem_append.mp listed with before | last
          · exact bound message before
          · rw [List.mem_singleton.mp last]
            exact UInt64.le_of_lt (UInt64.not_le.mp below)

/-- The highest number in a window that begins in the log is the one before the next window, or the
last one. -/
theorem exists_highest_window {log : List Message} {last low size : Nat}
    (contiguous : Backfill.Contiguous log last) (lowPos : 0 < low) (within : low ≤ last)
    (sizePos : 0 < size) :
    ∃ top, highest none (Backfill.window log low size) = some top ∧
      top.toNat + 1 = min (low + size) (last + 1) := by
  have numbered : ∀ message ∈ Backfill.window log low size, message.header.seq ≠ 0 :=
    fun message => Backfill.seq_ne_zero_of_mem_window lowPos
  rcases highest_cases numbered with ⟨empty, -⟩ | ⟨top, member, highest, bound⟩
  · exact (contiguous.window_ne_nil_iff lowPos sizePos |>.mpr within empty).elim
  · refine ⟨top.header.seq, highest, ?_⟩
    obtain ⟨logged, -, below⟩ := Backfill.mem_window.mp member
    have inLog := contiguous.exists_mem_iff.mp ⟨top, logged, rfl⟩
    obtain ⟨final, finalLogged, number⟩ : ∃ final ∈ log,
        final.header.seq.toNat = min (low + size) (last + 1) - 1 :=
      contiguous.exists_mem_iff.mpr (by omega)
    have least := bound final (Backfill.mem_window.mpr ⟨finalLogged, by omega, by omega⟩)
    rw [UInt64.le_iff_toNat_le] at least
    omega

section Merging

variable {η : Type} {channel : Channel}

/-- A merged message is filed, and noted by the tracker. -/
theorem exists_merge_file {message : Message} {seq : UInt64} (channel : Channel)
    (before : Session MemoryStore η) (numbered : message.seq? = some seq) :
    ∃ inserted, merge channel message before = .ok inserted
      { before.setTimeline channel (file channel (before.timeline channel, before.store) message).1
          with
        store := (file channel (before.timeline channel, before.store) message).2
        tracker := (before.tracker.arrive channel seq).2 } := by
  unfold file
  dsimp only
  split
  · next new =>
      obtain ⟨outcome, saved⟩ := before.store.save_eq_saved channel numbered
      exact ⟨_, merge_of_saved numbered new saved⟩
  · next known => exact ⟨_, merge_of_duplicate numbered (eq_false_of_ne_true known)⟩

/-- Messages of the channel that are merged are all filed, and the tracker learns nothing from
them if their numbers are not above the newest one. -/
theorem exists_mergeAll_fileAll {messages : List Message} {newest : UInt64}
    (before : Session MemoryStore η)
    (known : (before.tracker.state channel).newest = some newest)
    (numbered : ∀ message ∈ messages, message.header.seq ≠ 0)
    (within : ∀ message ∈ messages, message.header.seq ≤ newest)
    (belongs : ∀ message ∈ messages, message.channel before.me = channel) (merged : Nat)
    (last : Option UInt64) :
    ∃ count after,
      mergeAll channel merged last messages before = .ok (count, highest last messages) after ∧
        after.tracker = before.tracker ∧
        (after.timeline channel, after.store) =
          fileAll channel (before.timeline channel, before.store) messages := by
  induction messages generalizing before merged last with
  | nil => exact ⟨_, _, rfl, rfl, rfl⟩
  | cons message rest ih =>
      obtain ⟨firstNumbered, restNumbered⟩ := List.forall_mem_cons.mp numbered
      obtain ⟨firstWithin, restWithin⟩ := List.forall_mem_cons.mp within
      obtain ⟨firstBelongs, restBelongs⟩ := List.forall_mem_cons.mp belongs
      obtain ⟨inserted, merging⟩ := exists_merge_file channel before
        (Message.seq?_eq_some_iff.mpr ⟨rfl, firstNumbered⟩)
      rw [Tracker.arrive_of_known known firstWithin] at merging
      have placed := timeline_setTimeline_self before channel
        (file channel (before.timeline channel, before.store) message).1
      rw [mergeAll_cons firstBelongs, bind_of_ok merging]
      obtain ⟨count, after, done, tracker, kept⟩ := ih { before.setTimeline channel
          (file channel (before.timeline channel, before.store) message).1 with
        store := (file channel (before.timeline channel, before.store) message).2
        tracker := before.tracker } known restNumbered restWithin restBelongs
        (if inserted.isNew then merged + 1 else merged) (higher last message.seq?)
      refine ⟨count, after, done, tracker, kept.trans ?_⟩
      exact congrArg (fun timeline => fileAll channel (timeline, _) rest) placed

end Merging

end Session

end Messenger
