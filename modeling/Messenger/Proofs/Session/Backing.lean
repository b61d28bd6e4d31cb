import Messenger.Proofs.Session.Reachable
import Messenger.Proofs.Store.Shelf
import Messenger.Proofs.Timeline.Confirmation

/-!
# Numbers in the timelines and in the store

Over a store in memory, no change lets a number go from a timeline or from the
store.  A number that a change brings to a timeline is held by the store, unless
the owner submitted it.
-/

namespace Messenger

namespace Timeline

theorem seqs_subset_mergeCached (timeline : Timeline) (cached : List Message) :
    timeline.seqs ⊆ (Session.mergeCached timeline cached).2.seqs := by
  induction cached generalizing timeline with
  | nil => exact List.Subset.refl _
  | cons message rest ih =>
      exact List.Subset.trans (seqs_subset_insert timeline message) (ih _)

/-- Only cached messages are added to a timeline that they are merged into. -/
theorem mem_entries_mergeCached {timeline : Timeline} {cached : List Message} {entry : Message}
    (member : entry ∈ (Session.mergeCached timeline cached).2.entries) :
    entry ∈ timeline.entries ∨ entry ∈ cached := by
  induction cached generalizing timeline with
  | nil => exact .inl member
  | cons message rest ih =>
      rcases ih member with inserted | behind
      · rcases mem_entries_insert.mp inserted with before | ⟨rfl, -⟩
        · exact .inl before
        · exact .inr List.mem_cons_self
      · exact .inr (List.mem_cons_of_mem message behind)

/-- Only cached messages bring their numbers to a timeline that they are merged into. -/
theorem mem_seqs_mergeCached {timeline : Timeline} {cached : List Message} {seq : UInt64}
    (member : seq ∈ (Session.mergeCached timeline cached).2.seqs) :
    seq ∈ timeline.seqs ∨ ∃ message ∈ cached, message.seq? = some seq := by
  obtain ⟨entry, among, numbered⟩ := mem_seqs.mp member
  rcases mem_entries_mergeCached among with before | behind
  · exact .inl (mem_seqs.mpr ⟨entry, before, numbered⟩)
  · exact .inr ⟨entry, behind, numbered⟩

end Timeline

namespace Session

variable {η : Type} {submits : Message → Prop}

theorem timeline_setTimeline {σ : Type} (session : Session σ η) (channel other : Channel)
    (timeline : Timeline) :
    (session.setTimeline channel timeline).timeline other =
      if other = channel then timeline else session.timeline other := by
  unfold Session.timeline setTimeline
  rw [Assoc.find?_insert]
  split <;> rfl

theorem timeline_setTimeline_self {σ : Type} (session : Session σ η) (channel : Channel)
    (timeline : Timeline) : (session.setTimeline channel timeline).timeline channel = timeline :=
  (timeline_setTimeline ..).trans (if_pos rfl)

/-- The numbers of the timelines and the messages of the store are kept, and a number that is new
in a timeline is held by the store or comes from a message that waited to be sent. -/
structure Conserves (before after : Session MemoryStore η) : Prop where
  seqs : ∀ channel, (before.timeline channel).seqs ⊆ (after.timeline channel).seqs
  store : before.store.Within after.store
  gained : ∀ channel, ∀ seq ∈ (after.timeline channel).seqs,
    seq ∈ (before.timeline channel).seqs ∨ after.store.Holds channel seq ∨
      ∃ message ∈ before.outbox, message.seq? = some seq

theorem conserves_of_same {before after : Session MemoryStore η}
    (timelines : after.timelines = before.timelines) (store : before.store.Within after.store) :
    Conserves before after := by
  have same : ∀ channel, after.timeline channel = before.timeline channel := by
    intro channel
    unfold Session.timeline
    rw [timelines]
  exact ⟨fun channel => same channel ▸ List.Subset.refl _, store,
    fun channel _ member => .inl (same channel ▸ member)⟩

/-- A change of one timeline that keeps its numbers and gains only numbers with an origin. -/
theorem conserves_of_setTimeline {before after : Session MemoryStore η} {channel : Channel}
    {timeline : Timeline}
    (timelines : after.timelines = (before.setTimeline channel timeline).timelines)
    (kept : (before.timeline channel).seqs ⊆ timeline.seqs)
    (store : before.store.Within after.store)
    (gained : ∀ seq ∈ timeline.seqs,
      seq ∈ (before.timeline channel).seqs ∨ after.store.Holds channel seq ∨
        ∃ message ∈ before.outbox, message.seq? = some seq) : Conserves before after := by
  have same : ∀ other, after.timeline other =
      if other = channel then timeline else before.timeline other := by
    intro other
    rw [← timeline_setTimeline]
    unfold Session.timeline
    rw [timelines]
  constructor
  · intro other
    rw [same]
    split
    · next here => exact here ▸ kept
    · exact List.Subset.refl _
  · exact store
  · intro other seq member
    rw [same] at member
    split at member
    · next here => exact here ▸ gained seq member
    · exact .inl member

/-- A message that is merged without being saved brings no number. -/
theorem conserves_of_insert {before after : Session MemoryStore η} {channel : Channel}
    {message : Message}
    (timelines : after.timelines =
      (before.setTimeline channel ((before.timeline channel).insert message).2).timelines)
    (store : before.store.Within after.store)
    (origin : ∀ seq, message.seq? = some seq →
      ((before.timeline channel).insert message).1.isNew = true →
        after.store.Holds channel seq ∨ ∃ message ∈ before.outbox, message.seq? = some seq) :
    Conserves before after := by
  apply conserves_of_setTimeline timelines (Timeline.seqs_subset_insert ..) store
  intro seq member
  rcases Timeline.mem_seqs_insert.mp member with present | ⟨numbered, new⟩
  · exact .inl present
  · exact .inr (origin seq numbered new)

theorem SyncChange.conserves {channel : Channel} {before after : Session MemoryStore η}
    (change : SyncChange channel before after) : Conserves before after := by
  cases change with
  | placed _ unnumbered =>
      refine conserves_of_insert rfl (.refl _) ?_
      intro seq numbered _
      rw [unnumbered] at numbered
      cases numbered
  | repeated _ _ duplicate =>
      refine conserves_of_insert rfl (.refl _) ?_
      intro seq _ new
      rw [duplicate] at new
      cases new
  | merged _ _ _ saved =>
      refine conserves_of_insert rfl (MemoryStore.within_of_save saved) ?_
      intro seq numbered _
      exact .inl (MemoryStore.holds_of_save numbered saved)
  | unsaved _ numbered _ refused => exact (MemoryStore.not_refused numbered refused).elim
  | _ => exact conserves_of_same rfl (.refl _)

theorem Change.conserves {before after : Session MemoryStore η}
    (change : Change submits before after) : Conserves before after := by
  cases change with
  | sync change => exact change.conserves
  | listed saved =>
      cases saved
      exact conserves_of_same rfl (.refl _)
  | confirmed _ confirms saved =>
      refine conserves_of_setTimeline rfl (Timeline.seqs_subset_of_confirm confirms)
        (MemoryStore.within_of_save saved) ?_
      intro seq member
      exact (Timeline.mem_seqs_of_confirm confirms member).imp_right fun numbered =>
        .inl (MemoryStore.holds_of_save numbered saved)
  | unconfirmed _ confirms refused =>
      refine conserves_of_setTimeline rfl (Timeline.seqs_subset_of_confirm confirms) (.refl _) ?_
      intro seq member
      exact (Timeline.mem_seqs_of_confirm confirms member).imp_right fun numbered =>
        (MemoryStore.not_refused numbered refused).elim
  | @loaded _ channel cached found =>
      have onShelf : cached ⊆ before.store.shelf channel := by
        rcases found with ⟨bound, limit, ⟨⟩⟩ | ⟨low, high, ⟨⟩⟩
        · exact MemoryStore.before_subset ..
        · exact MemoryStore.range_subset ..
      refine conserves_of_setTimeline rfl (Timeline.seqs_subset_mergeCached ..) (.refl _) ?_
      intro seq member
      rcases Timeline.mem_seqs_mergeCached member with present | ⟨message, inCache, numbered⟩
      · exact .inl present
      · have number := (Message.seq?_eq_some_iff.mp numbered).1
        exact .inr (.inl ⟨message, onShelf inCache, number⟩)
  | @sent _ message rest _ waits _ =>
      unfold noteSent
      split
      · refine conserves_of_insert rfl (.refl _) ?_
        intro seq numbered _
        exact .inr ⟨message, waits ▸ List.mem_cons_self, numbered⟩
      · exact conserves_of_same rfl (.refl _)
  | _ => exact conserves_of_same rfl (.refl _)

/-! ## The backing invariant -/

/-- Every confirmed entry is held by the store, and no message that waits has a number. -/
structure Backed (session : Session MemoryStore η) : Prop where
  held : ∀ channel, ∀ seq ∈ (session.timeline channel).seqs, session.store.Holds channel seq
  unnumbered : ∀ message ∈ session.outbox, message.seq? = none

theorem outbox_of_change {σ : Type} [MessageStore σ] {before after : Session σ η}
    (change : Change submits before after) :
    ∀ message ∈ after.outbox, message ∈ before.outbox ∨ submits message := by
  intro message waits
  cases change with
  | sync change => cases change <;> exact .inl waits
  | queued submitted =>
      rcases List.mem_append.mp waits with present | added
      · exact .inl present
      · exact .inr (List.mem_singleton.mp added ▸ submitted)
  | dropped waited => exact .inl (waited ▸ List.mem_cons_of_mem _ waits)
  | sent waited =>
      refine .inl (waited ▸ List.mem_cons_of_mem _ ?_)
      unfold noteSent at waits
      split at waits <;> exact waits
  | _ => exact .inl waits

theorem Backed.change {before after : Session MemoryStore η} (backed : before.Backed)
    (unnumbered : ∀ message, submits message → message.seq? = none)
    (change : Change submits before after) : after.Backed := by
  constructor
  · intro channel seq member
    rcases change.conserves.gained channel seq member with
      present | held | ⟨message, waits, numbered⟩
    · exact (backed.held channel seq present).mono change.conserves.store
    · exact held
    · rw [backed.unnumbered message waits] at numbered
      cases numbered
  · intro message waits
    exact (outbox_of_change change message waits).elim (backed.unnumbered message)
      (unnumbered message)

theorem Reachable.backed [HistorySource η] {session : Session MemoryStore η}
    (reachable : Reachable submits session)
    (unnumbered : ∀ message, submits message → message.seq? = none) : session.Backed := by
  apply reachable.invariant
  · intro me config store history
    exact ⟨nofun, nofun⟩
  · intro before after change backed
    exact backed.change unnumbered change

end Session

end Messenger
