import Messenger.Proofs.Session.Follows
import Messenger.Session.Browsing
import Messenger.Session.Inbound
import Messenger.Session.Outbound

/-!
# What a session can do

Every request is a run of a few kinds of changes, and each kind says when it is
possible.  What all changes preserve is preserved by every request, whether it
answers or fails.
-/

namespace Messenger.Session

variable {σ η : Type} [MessageStore σ]

/-- What the cycle of a channel can change in a session. -/
inductive SyncChange (channel : Channel) : Session σ η → Session σ η → Prop where
  /-- The source of history was asked. -/
  | asked (session : Session σ η) (history : η) :
      SyncChange channel session { session with history }
  | told (session : Session σ η) (event : Event) :
      SyncChange channel session { session with events := session.events ++ [event] }
  | issued (session : Session σ η) :
      SyncChange channel session
        { session with tracker := (session.tracker.issue channel).2 }
  | advanced (session : Session σ η) (last : UInt64) :
      SyncChange channel session
        { session with tracker := session.tracker.advance channel last }
  | finished (session : Session σ η) :
      SyncChange channel session { session with tracker := session.tracker.finish channel }
  /-- A message without a number was merged. -/
  | placed {session : Session σ η} {message : Message}
      (belongs : message.channel session.me = channel) (unnumbered : message.seq? = none) :
      SyncChange channel session
        (session.setTimeline channel ((session.timeline channel).insert message).2)
  /-- A message with a number was taken for a duplicate. -/
  | repeated {session : Session σ η} {message : Message} {seq : UInt64}
      (belongs : message.channel session.me = channel) (numbered : message.seq? = some seq)
      (duplicate : ((session.timeline channel).insert message).1.isNew = false) :
      SyncChange channel session
        { session.setTimeline channel ((session.timeline channel).insert message).2 with
          tracker := (session.tracker.arrive channel seq).2 }
  /-- A new message with a number was merged and saved. -/
  | merged {session : Session σ η} {message : Message} {seq : UInt64} {outcome : SaveOutcome}
      {store : σ} (belongs : message.channel session.me = channel)
      (numbered : message.seq? = some seq)
      (new : ((session.timeline channel).insert message).1.isNew = true)
      (saved : MessageStore.save session.store channel message = .ok (outcome, store)) :
      SyncChange channel session
        { session.setTimeline channel ((session.timeline channel).insert message).2 with
          store
          tracker := (session.tracker.arrive channel seq).2 }
  /-- A new message with a number was merged, but the store refused it. -/
  | unsaved {session : Session σ η} {message : Message} {seq : UInt64} {cause : StoreError}
      (belongs : message.channel session.me = channel) (numbered : message.seq? = some seq)
      (new : ((session.timeline channel).insert message).1.isNew = true)
      (refused : MessageStore.save session.store channel message = .error cause) :
      SyncChange channel session
        (session.setTimeline channel ((session.timeline channel).insert message).2)

/-- What loading older messages of a channel can change in a session. -/
inductive BrowseChange (channel : Channel) : Session σ η → Session σ η → Prop where
  | sync {before after : Session σ η} (change : SyncChange channel before after) :
      BrowseChange channel before after
  /-- Messages of the channel were loaded from the store. -/
  | loaded {session : Session σ η} {low high : UInt64} {cached : List Message}
      (found : MessageStore.range session.store channel low high = .ok cached) :
      BrowseChange channel session
        (session.setTimeline channel (mergeCached (session.timeline channel) cached).2)

/-- What a frame can change in a session if it is no acknowledgement. -/
inductive Intake : Session σ η → Session σ η → Prop where
  | sync {channel : Channel} {before after : Session σ η}
      (change : SyncChange channel before after) : Intake before after
  | anchored (session : Session σ η) (channel : Channel) (tail : Option UInt64) :
      Intake session { session with tracker := session.tracker.anchor channel tail }
  | revised (session : Session σ η) (conversations : ConversationList) :
      Intake session { session with conversations }
  | listed {session : Session σ η} {store : σ}
      (saved : session.conversations.save session.store session.me = .ok store) :
      Intake session { session with store }
  | judged (session : Session σ η) (auth : AuthState) : Intake session { session with auth }

/-- What a request can change in a session whose owner only submits some messages. -/
inductive Change (submits : Message → Prop) : Session σ η → Session σ η → Prop where
  | sync {channel : Channel} {before after : Session σ η}
      (change : SyncChange channel before after) : Change submits before after
  | anchored (session : Session σ η) (channel : Channel) (tail : Option UInt64) :
      Change submits session { session with tracker := session.tracker.anchor channel tail }
  | revised (session : Session σ η) (conversations : ConversationList) :
      Change submits session { session with conversations }
  | listed {session : Session σ η} {store : σ}
      (saved : session.conversations.save session.store session.me = .ok store) :
      Change submits session { session with store }
  /-- A pending message was confirmed and saved. -/
  | confirmed {session : Session σ η} {ack entry : Message} {channel : Channel}
      {minted : UInt64} {timeline : Timeline} {outcome : SaveOutcome} {store : σ}
      (belongs : ack.channel session.me = channel)
      (confirms : (session.timeline channel).confirm ack.header.sender ack.header.receiver
        minted ack.header.seq ack.header.timestamp = (some entry, timeline))
      (saved : MessageStore.save session.store channel entry = .ok (outcome, store)) :
      Change submits session
        { session.setTimeline channel timeline with
          store
          tracker := (session.tracker.arrive channel entry.header.seq).2 }
  /-- A pending message was confirmed, but the store refused it. -/
  | unconfirmed {session : Session σ η} {ack entry : Message} {channel : Channel}
      {minted : UInt64} {timeline : Timeline} {cause : StoreError}
      (belongs : ack.channel session.me = channel)
      (confirms : (session.timeline channel).confirm ack.header.sender ack.header.receiver
        minted ack.header.seq ack.header.timestamp = (some entry, timeline))
      (refused : MessageStore.save session.store channel entry = .error cause) :
      Change submits session (session.setTimeline channel timeline)
  | judged (session : Session σ η) (auth : AuthState) :
      Change submits session { session with auth }
  | opened (session : Session σ η) (channel : Channel) :
      Change submits session { session with active := some channel }
  /-- Messages of a channel were loaded from the store. -/
  | loaded {session : Session σ η} {channel : Channel} {cached : List Message}
      (found : (∃ bound limit, MessageStore.before session.store channel bound limit = .ok cached) ∨
        ∃ low high, MessageStore.range session.store channel low high = .ok cached) :
      Change submits session
        (session.setTimeline channel (mergeCached (session.timeline channel) cached).2)
  | queued {session : Session σ η} {message : Message} (submitted : submits message)
      (room : session.outbox.length < session.config.capacity.toNat) :
      Change submits session { session with outbox := session.outbox ++ [message] }
  /-- The oldest message that waited cannot be written as a frame. -/
  | dropped {session : Session σ η} {message : Message} {rest : List Message}
      (waits : session.outbox = message :: rest) :
      Change submits session { session with outbox := rest }
  | sent {session : Session σ η} {message : Message} {rest : List Message} {frame : Octets}
      (waits : session.outbox = message :: rest) (encoded : message.encode = .ok frame) :
      Change submits session (noteSent { session with outbox := rest } message)
  | rearmed (session : Session σ η) :
      Change submits session { session with tracker := session.tracker.rearm }
  | taken (session : Session σ η) :
      Change submits session { session with events := [] }

/-! ## Merging -/

section Merging

variable {channel : Channel} {message : Message} {session : Session σ η} {seq : UInt64}

theorem save_of_saved (session : Session σ η) {outcome : SaveOutcome} {store : σ}
    (saved : MessageStore.save session.store channel message = .ok (outcome, store)) :
    save channel message session = .ok outcome { session with store } := by
  unfold save
  rw [saved]

theorem save_of_refused (session : Session σ η) {cause : StoreError}
    (refused : MessageStore.save session.store channel message = .error cause) :
    save channel message session = .error (.store cause) session := by
  unfold save
  rw [refused]

theorem merge_of_unnumbered (unnumbered : message.seq? = none) :
    merge channel message session =
      .ok ((session.timeline channel).insert message).1
        (session.setTimeline channel ((session.timeline channel).insert message).2) := by
  unfold merge
  rw [unnumbered]
  rfl

/-- A numbered message is placed, saved if it is new, and noted by the tracker. -/
theorem merge_of_numbered (numbered : message.seq? = some seq) :
    merge channel message session =
      (do
        if ((session.timeline channel).insert message).1.isNew then
          let _ ← save channel message
        track fun tracker => (tracker.arrive channel seq).2
        return ((session.timeline channel).insert message).1 : SessionM σ η Timeline.Inserted)
        (session.setTimeline channel ((session.timeline channel).insert message).2) := by
  unfold merge
  rw [numbered]
  rfl

theorem merge_of_duplicate (numbered : message.seq? = some seq)
    (duplicate : ((session.timeline channel).insert message).1.isNew = false) :
    merge channel message session =
      .ok ((session.timeline channel).insert message).1
        { session.setTimeline channel ((session.timeline channel).insert message).2 with
          tracker := (session.tracker.arrive channel seq).2 } := by
  rw [merge_of_numbered numbered, duplicate]
  rfl

theorem merge_of_saved {outcome : SaveOutcome} {store : σ} (numbered : message.seq? = some seq)
    (new : ((session.timeline channel).insert message).1.isNew = true)
    (saved : MessageStore.save session.store channel message = .ok (outcome, store)) :
    merge channel message session =
      .ok ((session.timeline channel).insert message).1
        { session.setTimeline channel ((session.timeline channel).insert message).2 with
          store
          tracker := (session.tracker.arrive channel seq).2 } := by
  have stored := save_of_saved
    (session.setTimeline channel ((session.timeline channel).insert message).2) saved
  rw [merge_of_numbered numbered, new]
  exact bind_of_ok stored _

theorem merge_of_refused {cause : StoreError} (numbered : message.seq? = some seq)
    (new : ((session.timeline channel).insert message).1.isNew = true)
    (refused : MessageStore.save session.store channel message = .error cause) :
    merge channel message session =
      .error (.store cause)
        (session.setTimeline channel ((session.timeline channel).insert message).2) := by
  have failed := save_of_refused
    (session.setTimeline channel ((session.timeline channel).insert message).2) refused
  rw [merge_of_numbered numbered, new]
  exact bind_of_error failed _

/-- What a merge that answers has done with a numbered message. -/
theorem of_merge_eq_ok {inserted : Timeline.Inserted} {merged : Session σ η}
    (numbered : message.seq? = some seq)
    (done : merge channel message session = .ok inserted merged) :
    inserted = ((session.timeline channel).insert message).1 ∧
      ∃ store, merged =
        { session.setTimeline channel ((session.timeline channel).insert message).2 with
          store
          tracker := (session.tracker.arrive channel seq).2 } := by
  cases new : ((session.timeline channel).insert message).1.isNew with
  | false =>
      cases (merge_of_duplicate numbered new).symm.trans done
      exact ⟨rfl, session.store, rfl⟩
  | true =>
      cases saving : MessageStore.save session.store channel message with
      | ok saved =>
          cases (merge_of_saved numbered new saving).symm.trans done
          exact ⟨rfl, saved.2, rfl⟩
      | error cause => cases (merge_of_refused numbered new saving).symm.trans done

theorem follows_merge (belongs : message.channel session.me = channel) :
    Follows (SyncChange channel) (merge channel message) session := by
  unfold Follows
  cases numbered : message.seq? with
  | none =>
      rw [leaves_of_ok (merge_of_unnumbered numbered)]
      exact .single (.placed belongs numbered)
  | some seq =>
      cases new : ((session.timeline channel).insert message).1.isNew with
      | false =>
          rw [leaves_of_ok (merge_of_duplicate numbered new)]
          exact .single (.repeated belongs numbered new)
      | true =>
          cases saving : MessageStore.save session.store channel message with
          | ok saved =>
              rw [leaves_of_ok (merge_of_saved numbered new saving)]
              exact .single (.merged belongs numbered new saving)
          | error cause =>
              rw [leaves_of_error (merge_of_refused numbered new saving)]
              exact .single (.unsaved belongs numbered new saving)

end Merging

/-! ## The cycle of a channel -/

section Cycle

variable (channel : Channel)

theorem follows_emit (event : Event) (session : Session σ η) :
    Follows (SyncChange channel) (emit event) session :=
  .modify (.told session event)

/-- Merging messages follows a relation if merging each one of the channel does. -/
theorem Follows.mergeAll {Changed : Session σ η → Session σ η → Prop} {channel : Channel}
    {messages : List Message}
    (merges : ∀ message ∈ messages, ∀ middle, message.channel middle.me = channel →
      Follows Changed (merge channel message) middle)
    (merged : Nat) (last : Option UInt64) (session : Session σ η) :
    Follows Changed (mergeAll channel merged last messages) session := by
  induction messages generalizing merged last session with
  | nil => exact .pure _
  | cons message rest ih =>
      obtain ⟨mergesFirst, mergesRest⟩ := List.forall_mem_cons.mp merges
      apply Follows.get
      split
      · exact ih mergesRest merged last session
      · next belongs =>
          apply Follows.bind (mergesFirst session (Decidable.not_not.mp belongs))
          intro inserted middle _
          exact ih mergesRest _ _ middle

theorem follows_finishSync (session : Session σ η) :
    Follows (SyncChange channel) (finishSync channel) session :=
  .bind (.modify (.finished session)) fun _ middle _ => follows_emit channel _ middle

/-- Taking in a page follows a relation if merging messages, moving on and finishing do. -/
theorem Follows.takePage {Changed : Session σ η → Session σ η → Prop} {channel : Channel}
    {page : Page}
    (merges : ∀ message ∈ page.messages, ∀ middle, message.channel middle.me = channel →
      Follows Changed (merge channel message) middle)
    (advances : ∀ (middle : Session σ η) last,
      Changed middle { middle with tracker := middle.tracker.advance channel last })
    (finishes : ∀ middle, Follows Changed (finishSync channel) middle)
    (session : Session σ η) :
    Follows Changed (takePage channel page) session := by
  apply Follows.bind (.mergeAll merges 0 none session)
  intro result middle _
  obtain ⟨count, last⟩ := result
  have ending : ∀ middle : Session σ η, Follows Changed
      (do
        if page.complete then finishSync channel
        return count) middle := by
    intro middle
    split
    · exact .bind (finishes middle) fun _ _ _ => .pure count
    · exact .pure count
  cases last with
  | none => exact ending middle
  | some last => exact .bind (.modify (advances middle last)) fun _ moved _ => ending moved

theorem follows_takePage (page : Page) (session : Session σ η) :
    Follows (SyncChange channel) (takePage channel page) session :=
  .takePage (fun _ _ _ => follows_merge) .advanced (follows_finishSync channel) session

variable [HistorySource η]

/-- A cycle follows a relation if asking the source of history, taking in the pages that it
answers with and telling the owner do. -/
theorem Follows.catchUpFrom {Changed : Session σ η → Session σ η → Prop} {channel : Channel}
    (asks : ∀ {middle : Session σ η} {cursor : Cursor} {answer history},
      Backfill.nextPage middle.config.sync middle.history cursor = (answer, history) →
      Changed middle { middle with history })
    (takes : ∀ {middle : Session σ η} {cursor moved : Cursor} {page : Page} {history},
      Backfill.nextPage middle.config.sync middle.history cursor =
        (.ok (some (page, moved)), history) →
      Follows Changed (Session.takePage channel page) { middle with history })
    (tells : ∀ event middle, Follows Changed (emit event) middle)
    (cursor : Cursor) (merged : Nat) (session : Session σ η) :
    Follows Changed (catchUpFrom channel cursor merged) session := by
  rw [Session.catchUpFrom]
  apply Follows.get
  split
  · next fetched =>
      apply Follows.set (.single (asks fetched))
      exact .bind (tells _ _) fun _ _ _ => .pure _
  · next fetched => exact .set (.single (asks fetched)) (.throw _)
  · next fetched => exact .set (.single (asks fetched)) (.pure _)
  · next page moved history fetched =>
      apply Follows.set (.single (asks fetched))
      apply Follows.bind (takes fetched)
      intro count middle _
      exact Follows.catchUpFrom asks takes tells moved (merged + count) middle
termination_by cursor.distance
decreasing_by exact Backfill.distance_lt_of_nextPage (by assumption)

theorem follows_catchUpFrom (cursor : Cursor) (merged : Nat) (session : Session σ η) :
    Follows (SyncChange channel) (catchUpFrom channel cursor merged) session :=
  .catchUpFrom (fun _ => .asked _ _) (fun _ => follows_takePage channel _ _)
    (follows_emit channel) cursor merged session

/-- Catching up follows a relation if issuing a cycle does, and every cycle. -/
theorem Follows.catchUp {Changed : Session σ η → Session σ η → Prop} {channel : Channel}
    {session : Session σ η}
    (issues : Changed session { session with tracker := (session.tracker.issue channel).2 })
    (cycles : ∀ cursor middle, Follows Changed (Session.catchUpFrom channel cursor 0) middle) :
    Follows Changed (catchUp channel) session := by
  apply Follows.get
  cases issued : session.tracker.issue channel with
  | mk plan tracker =>
      rw [issued] at issues
      apply Follows.set (.single issues)
      cases plan with
      | none => exact .pure _
      | some plan => exact cycles _ _

theorem follows_catchUp (session : Session σ η) :
    Follows (SyncChange channel) (catchUp channel) session :=
  .catchUp (.issued session) fun cursor middle => follows_catchUpFrom channel cursor 0 middle

end Cycle

end Messenger.Session
