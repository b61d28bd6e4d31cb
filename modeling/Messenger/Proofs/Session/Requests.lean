import Messenger.Proofs.Session.Change

/-!
# Requests follow the changes

Every request follows the changes that a session can make, so a property that the
changes preserve holds of every session that requests can reach.
-/

namespace Messenger.Session

variable {σ η : Type} [MessageStore σ] {submits : Message → Prop}

theorem Change.me_eq {before after : Session σ η} (change : Change submits before after) :
    after.me = before.me := by
  cases change with
  | sync change => cases change <;> rfl
  | sent =>
      unfold noteSent
      split <;> rfl
  | _ => rfl

/-- A request never changes the account of a session. -/
theorem Follows.me_eq {α : Type} {request : SessionM σ η α} {session middle : Session σ η}
    {answer : α} (follows : Follows (Change submits) request session)
    (done : request session = .ok answer middle) : middle.me = session.me := by
  rw [← leaves_of_ok done]
  exact preserved_run (P := fun left => left.me = session.me)
    (fun _ _ change same => change.me_eq.trans same) follows rfl

theorem Follows.sync {α : Type} {channel : Channel} {request : SessionM σ η α}
    {session : Session σ η} (follows : Follows (SyncChange channel) request session) :
    Follows (Change submits) request session :=
  follows.mono fun _ _ => .sync

theorem Intake.change {before after : Session σ η} (intake : Intake before after) :
    Change submits before after := by
  cases intake with
  | sync change => exact .sync change
  | anchored _ channel tail => exact .anchored before channel tail
  | revised _ conversations => exact .revised before conversations
  | listed saved => exact .listed saved
  | judged _ auth => exact .judged before auth

theorem BrowseChange.change {channel : Channel} {before after : Session σ η}
    (change : BrowseChange channel before after) : Change submits before after := by
  cases change with
  | sync change => exact .sync change
  | loaded found => exact .loaded (.inr ⟨_, _, found⟩)

theorem Follows.intake {α : Type} {channel : Channel} {request : SessionM σ η α}
    {session : Session σ η} (follows : Follows (SyncChange channel) request session) :
    Follows Intake request session :=
  follows.mono fun _ _ => .sync

theorem Follows.change {α : Type} {request : SessionM σ η α} {session : Session σ η}
    (follows : Follows Intake request session) : Follows (Change submits) request session :=
  follows.mono fun _ _ => Intake.change

/-! ## Parts of requests -/

variable (session : Session σ η)

theorem follows_tell (event : Event) : Follows Intake (emit event) session :=
  .modify (.sync (SyncChange.told session event : SyncChange default session _))

theorem follows_revise (change : ConversationList → ConversationList) :
    Follows Intake (revise change) session :=
  .modify (.revised session _)

theorem follows_note (peer : AccountId) (message : Message) (countsUnread : Bool) :
    Follows Intake (note peer message countsUnread) session := by
  unfold Follows leaves note
  cases session.conversations.noteMessage? peer message countsUnread with
  | none => exact .refl
  | some conversations => exact .single (.revised session conversations)

theorem follows_saveConversations : Follows Intake saveConversations session := by
  unfold Follows leaves saveConversations
  cases saved : session.conversations.save session.store session.me with
  | ok store => exact .single (.listed saved)
  | error cause => exact .refl

/-- Whatever comes after it, to change the conversation list and store it follows a relation. -/
def Stores (Changed : Session σ η → Session σ η → Prop)
    (change : ConversationList → ConversationList) : Prop :=
  ∀ {α : Type} {next : SessionM σ η α} (session : Session σ η),
    (∀ left : Session σ η, left.me = session.me → Follows Changed next left) →
    Follows Changed (do revise change; saveConversations; next) session

/-- To change the list and to store it may follow the relation one after the other. -/
theorem Stores.of_follows {Changed : Session σ η → Session σ η → Prop}
    {change : ConversationList → ConversationList}
    (revises : ∀ session, Follows Changed (revise change) session)
    (saves : ∀ session, Follows Changed saveConversations session) : Stores Changed change := by
  intro α next session rest
  apply Follows.bind (revises session)
  rintro _ revised ⟨⟩
  apply Follows.bind (saves _)
  intro _ saved stored
  have kept : Follows (Change fun _ => False) saveConversations
      { session with conversations := change session.conversations } :=
    (follows_saveConversations _).change
  exact rest saved (kept.me_eq stored)

theorem Stores.of_intake {Changed : Session σ η → Session σ η → Prop}
    (contained : ∀ before after, Intake before after → Changed before after)
    (change : ConversationList → ConversationList) : Stores Changed change :=
  Stores.of_follows (fun session => (follows_revise session change).mono contained) fun session =>
    (follows_saveConversations session).mono contained

theorem follows_anchor (channel : Channel) :
    Follows Intake (anchor channel) session := by
  unfold Follows leaves anchor
  cases session.tracker.isAnchored channel with
  | true => exact .refl
  | false =>
      cases MessageStore.latest session.store channel with
      | ok tail => exact .single (.anchored session channel tail)
      | error cause => exact .refl

/-! ## Inbound frames -/

section Inbound

variable {Changed : Session σ η → Session σ η → Prop}

omit [MessageStore σ] in
/-- Taking note of the remaining history follows a relation if finishing the channel does. -/
theorem Follows.receiveSync {session : Session σ η} {message : Message}
    (finishes : message.remaining = .ok 0 →
      Follows Changed (finishSync (message.channel session.me)) session) :
    Follows Changed (receiveSync message) session := by
  unfold Session.receiveSync
  cases remains : message.remaining with
  | error cause => exact .throw _
  | ok remaining =>
      apply Follows.answer
      apply Follows.get
      dsimp only
      split
      · next nothing =>
          exact .bind (finishes (nothing ▸ remains)) fun _ _ _ => .pure _
      · exact .pure _

theorem follows_receiveSync (message : Message) :
    Follows Intake (receiveSync message : SessionM σ η Routed) session :=
  .receiveSync fun _ => (follows_finishSync _ session).intake

omit [MessageStore σ] in
/-- Taking note of the reply to the credentials follows a relation if every verdict does, and
telling the owner. -/
theorem Follows.receiveAuth {session : Session σ η} {message : Message}
    (judges : ∀ auth, Changed session { session with auth })
    (tells : ∀ event middle, Follows Changed (emit event) middle) :
    Follows Changed (receiveAuth message) session := by
  unfold Session.receiveAuth
  dsimp only
  split <;>
    exact .bind (.modify (judges _)) fun _ judged _ =>
      .bind (tells _ judged) fun _ _ _ => .pure _

theorem follows_receiveAuth (message : Message) :
    Follows Intake (receiveAuth message : SessionM σ η Routed) session :=
  .receiveAuth (.judged session) fun event middle => follows_tell middle event

variable [HistorySource η]

/-- What a content message brings about once it is merged. -/
def announce (session : Session σ η) (message : Message) (inserted : Timeline.Inserted) :
    SessionM σ η Routed := do
  let channel := message.channel session.me
  if inserted.isNew then
    note (message.peer session.me) message (session.active ≠ some channel)
    saveConversations
    emit (.message channel message)
  if (session.tracker.state? channel).isNone then
    let _ ← catchUp channel
  return .content channel inserted

theorem receiveContent_eq (message : Message) :
    receiveContent message session =
      (do
        anchor (message.channel session.me)
        let inserted ← merge (message.channel session.me) message
        announce session message inserted : SessionM σ η Routed) session :=
  rfl

/-- An announcement follows a relation if accounting for the message, telling the owner and catching
up with the channel do. -/
theorem Follows.announce {session merged : Session σ η} {message : Message}
    (inserted : Timeline.Inserted)
    (accounts : ∀ {next : SessionM σ η Routed}, (∀ left, Follows Changed next left) →
      Follows Changed
        (do
          note (message.peer session.me) message
            (session.active ≠ some (message.channel session.me))
          saveConversations
          next) merged)
    (tells : ∀ event middle, Follows Changed (emit event) middle)
    (catches : ∀ middle, Follows Changed (Session.catchUp (message.channel session.me)) middle) :
    Follows Changed (announce session message inserted) merged := by
  have ending : ∀ middle : Session σ η, Follows Changed
      (do
        if (session.tracker.state? (message.channel session.me)).isNone then
          let _ ← Session.catchUp (message.channel session.me)
        return Routed.content (message.channel session.me) inserted) middle := by
    intro middle
    split
    · exact .bind (catches middle) fun _ _ _ => .pure _
    · exact .pure _
  unfold Session.announce
  dsimp only
  split
  · exact accounts fun left => .bind (tells _ left) fun _ told _ => ending told
  · exact ending merged

/-- Taking in content follows a relation if tracking the channel, merging the message and announcing
it do. -/
theorem Follows.receiveContent {session : Session σ η} {message : Message}
    (anchors : Follows Changed (anchor (message.channel session.me)) session)
    (merges : ∀ anchored : Session σ η, message.channel anchored.me = message.channel session.me →
      Follows Changed (merge (message.channel session.me) message) anchored)
    (announces : ∀ inserted merged,
      Follows Changed (Session.announce session message inserted) merged) :
    Follows Changed (receiveContent message) session := by
  have routed : Follows Changed
      (do
        anchor (message.channel session.me)
        let inserted ← merge (message.channel session.me) message
        Session.announce session message inserted : SessionM σ η Routed) session := by
    apply Follows.bind anchors
    intro _ anchored done
    have kept : Follows (Change fun _ => False) (anchor (message.channel session.me)) session :=
      (follows_anchor session _).change
    have belongs : message.channel anchored.me = message.channel session.me := by
      rw [kept.me_eq done]
    exact .bind (merges anchored belongs) fun inserted merged _ => announces inserted merged
  exact routed

theorem follows_announce (message : Message) (inserted : Timeline.Inserted)
    (merged : Session σ η) :
    Follows Intake (announce session message inserted) merged :=
  .announce inserted
    (fun rest => .bind (follows_note merged _ _ _) fun _ noted _ =>
      .bind (follows_saveConversations noted) fun _ saved _ => rest saved)
    (fun event middle => follows_tell middle event) fun middle => (follows_catchUp _ middle).intake

theorem follows_receiveContent (message : Message) :
    Follows Intake (receiveContent message) session :=
  .receiveContent (follows_anchor session _) (fun _ belongs => (follows_merge belongs).intake)
    (follows_announce session message)

/-- Catching up with peers in turn follows a relation if tracking and catching up with each of their
channels do. -/
theorem Follows.catchUpWith {session : Session σ η} {peers : List AccountId}
    (anchors : ∀ peer ∈ peers, ∀ middle, Follows Changed (anchor (.between session.me peer)) middle)
    (catches : ∀ peer ∈ peers, ∀ middle,
      Follows Changed (Session.catchUp (.between session.me peer)) middle) :
    Follows Changed (catchUpWith peers) session := by
  induction peers generalizing session with
  | nil => exact .pure _
  | cons peer rest ih =>
      obtain ⟨anchorsFirst, anchorsRest⟩ := List.forall_mem_cons.mp anchors
      obtain ⟨catchesFirst, catchesRest⟩ := List.forall_mem_cons.mp catches
      apply Follows.get
      dsimp only
      apply Follows.bind (anchorsFirst session)
      intro _ anchored tracked
      apply Follows.bind (catchesFirst anchored)
      intro _ caught done
      have anchoring : Follows (Change fun _ => False) (anchor (.between session.me peer))
          session := (follows_anchor session _).change
      have catching : Follows (Change fun _ => False) (Session.catchUp (.between session.me peer))
          anchored := (follows_catchUp _ anchored).sync
      rw [← anchoring.me_eq tracked, ← catching.me_eq done] at anchorsRest catchesRest
      exact ih anchorsRest catchesRest

theorem follows_catchUpWith (peers : List AccountId) :
    Follows Intake (catchUpWith peers) session :=
  .catchUpWith (fun _ _ middle => follows_anchor middle _) fun _ _ middle =>
    (follows_catchUp _ middle).intake

/-- Taking in a roster follows a relation if storing it does, telling the owner and catching up
with the peers that it names. -/
theorem Follows.receiveRoster {session : Session σ η} {message : Message}
    (stores : ∀ roster, Stores Changed fun list => list.noteRoster roster)
    (tells : ∀ event middle, Follows Changed (emit event) middle)
    (catches : ∀ roster middle, readRoster message = .ok roster → middle.me = session.me →
      Follows Changed (Session.catchUpWith (roster.map Prod.fst)) middle) :
    Follows Changed (receiveRoster message) session := by
  unfold Session.receiveRoster
  cases read : readRoster message with
  | error cause => exact .throw _
  | ok roster =>
      apply Follows.answer
      apply stores roster session
      intro saved account
      apply Follows.bind (tells _ saved)
      rintro _ _ ⟨⟩
      exact .bind (catches roster _ read account) fun _ _ _ => .pure _

theorem follows_receiveRoster (message : Message) :
    Follows Intake (receiveRoster message) session :=
  .receiveRoster (fun _ => Stores.of_intake (fun _ _ => id) _)
    (fun event middle => follows_tell middle event)
    fun _ middle _ _ => follows_catchUpWith middle _

/-- Handling a message follows a relation if its handler does, and telling the owner. -/
theorem Follows.receiveMessage {session : Session σ η} {message : Message}
    (content : message.header.kind.isContent = true →
      Follows Changed (Session.receiveContent message) session)
    (ack : message.header.kind = .ack → Follows Changed (Session.receiveAck message) session)
    (roster : message.header.kind = .box →
      Follows Changed (Session.receiveRoster message) session)
    (sync : message.header.kind = .sync → Follows Changed (Session.receiveSync message) session)
    (auth : Follows Changed (Session.receiveAuth message) session)
    (tells : ∀ event, Follows Changed (emit event) session) :
    Follows Changed (receiveMessage message) session := by
  have surfaced : ∀ event answer, Follows Changed
      (do emit event; return answer : SessionM σ η Routed) session :=
    fun event answer => .bind (tells event) fun _ _ _ => .pure answer
  unfold Session.receiveMessage
  dsimp only
  split
  · next kind => exact content kind
  · split
    · next kind => exact ack kind
    · next kind => exact roster kind
    · next kind => exact sync kind
    · exact auth
    · exact surfaced _ _
    · exact surfaced _ _
    · exact surfaced _ _
    · split
      · exact .pure _
      · exact surfaced _ _

/-- A message that is no acknowledgement only makes the changes of an intake. -/
theorem follows_receiveMessage {message : Message} (other : message.header.kind ≠ .ack) :
    Follows Intake (receiveMessage message) session :=
  .receiveMessage (fun _ => follows_receiveContent session message)
    (fun acknowledges => absurd acknowledges other)
    (fun _ => follows_receiveRoster session message)
    (fun _ => follows_receiveSync session message) (follows_receiveAuth session message)
    (follows_tell session)

theorem receive_of_decoded {frame : Octets} {message : Message}
    (decoded : Message.decode frame = .ok message) :
    (receive frame : SessionM σ η Routed) = receiveMessage message := by
  unfold receive
  rw [decoded]

/-- Handling a frame follows a relation if handling its message does. -/
theorem Follows.receive {session : Session σ η} {frame : Octets}
    (handles : ∀ message, Message.decode frame = .ok message →
      Follows Changed (Session.receiveMessage message) session) :
    Follows Changed (receive frame) session := by
  cases decoded : Message.decode frame with
  | error cause =>
      unfold Session.receive
      rw [decoded]
      exact .throw _
  | ok message =>
      rw [receive_of_decoded decoded]
      exact handles message decoded

theorem receiveMessage_of_ack {message : Message} (acknowledges : message.header.kind = .ack) :
    (receiveMessage message : SessionM σ η Routed) = receiveAck message := by
  unfold receiveMessage
  simp only [acknowledges]
  rfl

end Inbound

/-! ## Acknowledgements -/

section Acknowledgement

variable {ack entry : Message} {minted : UInt64} {timeline : Timeline}

/-- What an acknowledgement brings about once the entry that it confirms is saved. -/
def announceConfirmed (session : Session σ η) (ack entry : Message) (minted : UInt64) :
    SessionM σ η Routed := do
  revise fun list => list.noteConfirmation (ack.peer session.me) entry.header.timestamp
  saveConversations
  emit (.confirmed (ack.channel session.me) entry.header.seq minted)
  return .ack (ack.channel session.me) true

/-- An acknowledgement whose time cannot be read changes nothing. -/
theorem receiveAck_of_unread {cause : FrameError} (unread : ack.mintedTimestamp = .error cause) :
    receiveAck ack session = .error (.frame cause) session := by
  unfold receiveAck
  rw [unread]
  rfl

/-- An acknowledgement of a message that does not wait changes nothing. -/
theorem receiveAck_of_none (read : ack.mintedTimestamp = .ok minted)
    (confirms : (session.timeline (ack.channel session.me)).confirm ack.header.sender
      ack.header.receiver minted ack.header.seq ack.header.timestamp = (none, timeline)) :
    receiveAck ack session = .ok (.ack (ack.channel session.me) false) session := by
  unfold receiveAck
  rw [read]
  dsimp only [bind, EStateM.bind, pure, EStateM.pure, get, getThe, MonadStateOf.get, EStateM.get]
  rw [confirms]
  rfl

theorem receiveAck_of_refused {cause : StoreError} (read : ack.mintedTimestamp = .ok minted)
    (confirms : (session.timeline (ack.channel session.me)).confirm ack.header.sender
      ack.header.receiver minted ack.header.seq ack.header.timestamp = (some entry, timeline))
    (refused : MessageStore.save session.store (ack.channel session.me) entry = .error cause) :
    receiveAck ack session =
      .error (.store cause) (session.setTimeline (ack.channel session.me) timeline) := by
  have failed := save_of_refused (session.setTimeline (ack.channel session.me) timeline) refused
  unfold receiveAck
  rw [read]
  dsimp only [bind, EStateM.bind, pure, EStateM.pure, get, getThe, MonadStateOf.get, EStateM.get]
  rw [confirms]
  exact bind_of_error failed _

/-- The entry that an acknowledgement confirms is saved, and noted by the tracker. -/
theorem receiveAck_of_saved {outcome : SaveOutcome} {store : σ}
    (read : ack.mintedTimestamp = .ok minted)
    (confirms : (session.timeline (ack.channel session.me)).confirm ack.header.sender
      ack.header.receiver minted ack.header.seq ack.header.timestamp = (some entry, timeline))
    (saved : MessageStore.save session.store (ack.channel session.me) entry =
      .ok (outcome, store)) :
    receiveAck ack session = announceConfirmed session ack entry minted
      { session.setTimeline (ack.channel session.me) timeline with
        store
        tracker := (session.tracker.arrive (ack.channel session.me) entry.header.seq).2 } := by
  have stored := save_of_saved (session.setTimeline (ack.channel session.me) timeline) saved
  unfold receiveAck
  rw [read]
  dsimp only [bind, EStateM.bind, pure, EStateM.pure, get, getThe, MonadStateOf.get, EStateM.get]
  rw [confirms]
  exact bind_of_ok stored _

/-- What becomes of an acknowledgement: it cannot be read, nothing waits, the store refuses the
confirmed entry, or the entry is saved. -/
theorem receiveAck_cases (ack : Message) (session : Session σ η) :
    (∃ cause, receiveAck ack session = .error (.frame cause) session) ∨
    receiveAck ack session = .ok (.ack (ack.channel session.me) false) session ∨
    ∃ minted entry timeline,
      ack.mintedTimestamp = .ok minted ∧
      (session.timeline (ack.channel session.me)).confirm ack.header.sender ack.header.receiver
        minted ack.header.seq ack.header.timestamp = (some entry, timeline) ∧
      ((∃ cause, MessageStore.save session.store (ack.channel session.me) entry = .error cause ∧
          receiveAck ack session =
            .error (.store cause) (session.setTimeline (ack.channel session.me) timeline)) ∨
        ∃ outcome store,
          MessageStore.save session.store (ack.channel session.me) entry = .ok (outcome, store) ∧
          receiveAck ack session = announceConfirmed session ack entry minted
            { session.setTimeline (ack.channel session.me) timeline with
              store
              tracker :=
                (session.tracker.arrive (ack.channel session.me) entry.header.seq).2 }) := by
  cases read : ack.mintedTimestamp with
  | error cause => exact .inl ⟨cause, receiveAck_of_unread session read⟩
  | ok minted =>
      cases confirms : (session.timeline (ack.channel session.me)).confirm ack.header.sender
          ack.header.receiver minted ack.header.seq ack.header.timestamp with
      | mk entry timeline =>
          cases entry with
          | none => exact .inr (.inl (receiveAck_of_none session read confirms))
          | some entry =>
              refine .inr (.inr ⟨minted, entry, timeline, rfl, confirms, ?_⟩)
              cases saving : MessageStore.save session.store (ack.channel session.me) entry with
              | error cause =>
                  exact .inl ⟨cause, rfl, receiveAck_of_refused session read confirms saving⟩
              | ok saved =>
                  exact .inr ⟨saved.1, saved.2, rfl,
                    receiveAck_of_saved session read confirms saving⟩

/-- Handling an acknowledgement follows a relation if the change of the session does, be the
confirmed entry refused or saved, and storing the confirmation and telling the owner. -/
theorem Follows.receiveAck {Changed : Session σ η → Session σ η → Prop} {session : Session σ η}
    (refuses : ∀ {minted : UInt64} {entry : Message} {timeline : Timeline} {cause : StoreError},
      ack.mintedTimestamp = .ok minted →
      (session.timeline (ack.channel session.me)).confirm ack.header.sender ack.header.receiver
        minted ack.header.seq ack.header.timestamp = (some entry, timeline) →
      MessageStore.save session.store (ack.channel session.me) entry = .error cause →
      Changed session (session.setTimeline (ack.channel session.me) timeline))
    (confirms : ∀ {minted : UInt64} {entry : Message} {timeline : Timeline}
      {outcome : SaveOutcome} {store : σ},
      ack.mintedTimestamp = .ok minted →
      (session.timeline (ack.channel session.me)).confirm ack.header.sender ack.header.receiver
        minted ack.header.seq ack.header.timestamp = (some entry, timeline) →
      MessageStore.save session.store (ack.channel session.me) entry = .ok (outcome, store) →
      let confirmed := { session.setTimeline (ack.channel session.me) timeline with
        store
        tracker := (session.tracker.arrive (ack.channel session.me) entry.header.seq).2 }
      receiveAck ack session = announceConfirmed session ack entry minted confirmed →
      Changed session confirmed)
    (stores : ∀ peer time, Stores Changed fun list => list.noteConfirmation peer time)
    (tells : ∀ event middle, Follows Changed (emit event) middle) :
    Follows Changed (receiveAck ack) session := by
  rcases receiveAck_cases ack session with ⟨cause, failed⟩ | unnoticed |
    ⟨minted, entry, timeline, read, found,
      ⟨cause, refused, failed⟩ | ⟨outcome, store, saved, result⟩⟩
  · unfold Follows
    rw [leaves_of_error failed]
  · unfold Follows
    rw [leaves_of_ok unnoticed]
  · exact .of_error (refuses read found refused) failed
  · refine .of_eq (confirms read found saved result) result ?_
    exact stores _ _ _ fun left _ => .bind (tells _ left) fun _ _ _ => .pure _

end Acknowledgement

section Changes

variable (submits)

theorem stores_change (change : ConversationList → ConversationList) :
    Stores (Change submits : Session σ η → Session σ η → Prop) change :=
  Stores.of_intake (fun _ _ => Intake.change) change

/-- The timeline, the store and the tracker change together, so that every change leaves the
confirmed entry in the store. -/
theorem follows_receiveAck (message : Message) :
    Follows (Change submits) (receiveAck message : SessionM σ η Routed) session :=
  .receiveAck (fun _ confirms refused => .unconfirmed rfl confirms refused)
    (fun _ confirms saved _ => .confirmed rfl confirms saved)
    (fun _ _ => stores_change submits _) fun event middle => (follows_tell middle event).change

theorem follows_disconnect :
    Follows (Change submits) (disconnect : SessionM σ η Unit) session :=
  .bind (.modify (.rearmed session)) fun _ rearmed _ => (follows_tell rearmed _).change

/-- Handling a frame only makes changes that a session can make. -/
theorem follows_receive [HistorySource η] (frame : Octets) :
    Follows (Change submits) (receive frame) session := by
  apply Follows.receive
  intro message _
  by_cases acknowledges : message.header.kind = .ack
  · rw [receiveMessage_of_ack acknowledges]
    exact follows_receiveAck submits session message
  · exact (follows_receiveMessage session acknowledges).change

/-! ## Browsing -/

theorem follows_reload : Follows (Change submits) reload session := by
  unfold Follows leaves reload
  cases ConversationList.load session.store session.me with
  | ok conversations => exact .single (.revised session conversations)
  | error cause => exact .refl

omit [MessageStore σ] in
theorem query_eq_ok_iff {α : Type} {ask : σ → Except StoreError α} {answer : α}
    {middle : Session σ η} :
    query ask session = .ok answer middle ↔ ask session.store = .ok answer ∧ middle = session := by
  unfold query
  cases ask session.store with
  | ok found =>
      constructor
      · rintro ⟨⟩
        exact ⟨rfl, rfl⟩
      · rintro ⟨⟨⟩, rfl⟩
        rfl
  | error cause => exact ⟨nofun, fun ⟨impossible, _⟩ => nomatch impossible⟩

omit [MessageStore σ] in
theorem follows_query {α : Type} {Changed : Session σ η → Session σ η → Prop}
    (ask : σ → Except StoreError α) : Follows Changed (query ask) session := by
  unfold Follows leaves query
  cases ask session.store <;> exact .refl

section Browsing

variable [HistorySource η]

/-- Opening a conversation follows a relation if making its channel the active one does, loading its
end, tracking it, catching up with it and forgetting its unread messages. -/
theorem Follows.openConversation {Changed : Session σ η → Session σ η → Prop}
    {session : Session σ η} {peer : AccountId}
    (opens : Changed session { session with active := some (.between session.me peer) })
    (loads : ∀ {middle : Session σ η} {bound limit : UInt64} {cached : List Message},
      MessageStore.before middle.store (.between session.me peer) bound limit = .ok cached →
      Changed middle (middle.setTimeline (.between session.me peer)
        (mergeCached (middle.timeline (.between session.me peer)) cached).2))
    (tracks : ∀ (middle : Session σ η) tail, Changed middle
      { middle with tracker := middle.tracker.anchor (.between session.me peer) tail })
    (catches : ∀ middle, Follows Changed (Session.catchUp (.between session.me peer)) middle)
    (stores : Stores Changed fun list => list.clearUnread peer) :
    Follows Changed (openConversation peer) session := by
  apply Follows.get
  dsimp only
  apply Follows.bind (.modify opens)
  rintro _ _ ⟨⟩
  apply Follows.get
  apply Follows.bind (follows_query _ _)
  intro cached middle answered
  obtain ⟨found, rfl⟩ := (query_eq_ok_iff _).mp answered
  apply Follows.set (.single (loads found))
  apply Follows.bind (.modify (tracks _ _))
  intro _ anchored _
  apply Follows.bind (catches anchored)
  intro _ caught _
  exact stores caught fun _ _ => .pure _

theorem follows_openConversation (peer : AccountId) :
    Follows (Change submits) (openConversation peer) session :=
  .openConversation (.opened session _) (fun found => .loaded (.inl ⟨_, _, found⟩))
    (fun middle => .anchored middle _) (fun middle => (follows_catchUp _ middle).sync)
    (stores_change submits _)

/-- Fetching a piece follows a relation if asking the source of history does, and merging the
messages that it answers with. -/
theorem Follows.fetchPiece {Changed : Session σ η → Session σ η → Prop} {channel : Channel}
    {session : Session σ η} {low high : UInt64}
    (asks : ∀ {answer history},
      Backfill.fetchMessages session.config.sync session.history
        ⟨channel.other session.me, low, high⟩ = (answer, history) →
      Changed session { session with history })
    (takes : ∀ {messages history},
      Backfill.fetchMessages session.config.sync session.history
        ⟨channel.other session.me, low, high⟩ = (.ok messages, history) →
      ∀ message ∈ (Page.ofMessages messages).messages, ∀ middle,
        message.channel middle.me = channel → Follows Changed (merge channel message) middle)
    (added : Nat) : Follows Changed (fetchPiece channel added low high) session := by
  apply Follows.get
  dsimp only
  split
  · next fetched => exact .set (.single (asks fetched)) (.throw _)
  · next fetched =>
      apply Follows.set (.single (asks fetched))
      exact .bind (.mergeAll (takes fetched) 0 none _) fun _ _ _ => .pure _

theorem follows_fetchPiece (channel : Channel) (added : Nat) (low high : UInt64) :
    Follows (SyncChange channel) (fetchPiece channel added low high) session :=
  .fetchPiece (fun _ => .asked session _) (fun _ _ _ _ => follows_merge) added

/-- Loading older messages follows a relation if loading them from the store does, and fetching
each piece. -/
theorem Follows.loadOlder {Changed : Session σ η → Session σ η → Prop} {channel : Channel}
    {session : Session σ η}
    (loads : ∀ {low high : UInt64} {cached : List Message},
      MessageStore.range session.store channel low high = .ok cached →
      Changed session
        (session.setTimeline channel (mergeCached (session.timeline channel) cached).2))
    (fetches : ∀ added low high middle,
      Follows Changed (Session.fetchPiece channel added low high) middle) :
    Follows Changed (loadOlder channel) session := by
  apply Follows.get
  dsimp only
  split
  · exact .pure _
  · split
    · exact .pure _
    · apply Follows.bind (follows_query session _)
      intro cached middle answered
      obtain ⟨found, rfl⟩ := (query_eq_ok_iff session).mp answered
      apply Follows.set (.single (loads found))
      apply Follows.foldlM
      intro added gap middle
      rw [fetchRun_eq_foldlM]
      exact .foldlM (fun added (piece : UInt64 × UInt64) left =>
        fetches added piece.1 piece.2 left) _ _ _

theorem follows_loadOlder_within (channel : Channel) :
    Follows (BrowseChange channel) (loadOlder channel) session :=
  .loadOlder .loaded fun added low high middle =>
    (follows_fetchPiece middle channel added low high).mono fun _ _ => .sync

theorem follows_loadOlder (channel : Channel) :
    Follows (Change submits) (loadOlder channel) session :=
  (follows_loadOlder_within session channel).mono fun _ _ => BrowseChange.change

end Browsing

/-! ## Outbound messages -/

variable {τ : Type}

omit [MessageStore σ] in
/-- Submitting a message follows a relation if queueing it does. -/
theorem Follows.submit {Changed : Session σ η → Session σ η → Prop} {session : Session σ η}
    {message : Message}
    (queues : session.outbox.length < session.config.capacity.toNat →
      Changed session { session with outbox := session.outbox ++ [message] }) :
    Follows Changed (submit message) session := by
  apply Follows.get
  dsimp only
  split
  · exact .throw _
  · next room => exact .single (queues (Nat.not_le.mp room))

theorem follows_submit {message : Message} (submitted : submits message) :
    Follows (Change submits) (submit message) session :=
  .submit (.queued submitted)

/-- Changes of a session beside its transport, which may change at any time. -/
def Linked (R : Session σ η → Session σ η → Prop) (before after : τ × Session σ η) : Prop :=
  before.2 = after.2 ∨ R before.2 after.2

omit [MessageStore σ] in
theorem session_of_linked {R : Session σ η → Session σ η → Prop} {before after : τ × Session σ η}
    (run : Relation.ReflTransGen (Linked R) before after) :
    Relation.ReflTransGen R before.2 after.2 := by
  induction run with
  | refl => exact .refl
  | tail _ step ih =>
      rcases step with same | change
      · exact same ▸ ih
      · exact ih.tail change

omit [MessageStore σ] in
theorem Follows.linked {α : Type} {Changed : Session σ η → Session σ η → Prop}
    {request : SessionM σ η α} {session : Session σ η}
    (follows : Follows Changed request session) (link : τ) :
    Follows (Linked Changed) (Session.linked request) (link, session) := by
  have left : leaves (Session.linked request) (link, session) =
      (link, leaves request session) := by
    unfold leaves Session.linked
    dsimp only
    cases request session <;> rfl
  unfold Follows
  rw [left]
  exact follows.lift (fun session => (link, session)) fun _ _ change => .inr change

variable [Transport τ]

omit [MessageStore σ] in
/-- Sending a frame leaves the session as it is. -/
theorem leaves_transmit (frame : Octets) (state : τ × Session σ η) :
    (leaves (transmit frame) state).2 = state.2 := by
  unfold leaves transmit
  obtain ⟨link, session⟩ := state
  dsimp only
  cases Transport.send link frame with
  | mk outcome after => cases outcome <;> rfl

section Flush

variable {Changed : Session σ η → Session σ η → Prop}
  (drops : ∀ {session : Session σ η} {message rest}, session.outbox = message :: rest →
    Changed session { session with outbox := rest })
  (sends : ∀ {session : Session σ η} {message rest frame}, session.outbox = message :: rest →
    message.encode = .ok frame → Changed session (noteSent { session with outbox := rest } message))

omit [MessageStore σ] in
include drops sends in
theorem Follows.flushQueue (sent : Nat) (queue : List Message) (state : τ × Session σ η)
    (waits : state.2.outbox = queue) :
    Follows (Linked Changed) (flushQueue sent queue) state := by
  induction queue generalizing sent state with
  | nil => exact .pure _
  | cons message rest ih =>
      unfold Session.flushQueue
      split
      · exact .bind (.modify (.inr (drops waits))) fun _ _ _ => .throw _
      · next frame encoded =>
          have transmitted : Follows (Linked Changed) (transmit frame) state :=
            .single (.inl (leaves_transmit frame state).symm)
          apply Follows.bind transmitted
          intro _ middle done
          have same : middle.2 = state.2 := by
            rw [← leaves_of_ok done, leaves_transmit]
          apply Follows.bind (.modify (.inr (sends (same ▸ waits) encoded)))
          rintro _ _ ⟨⟩
          refine ih _ _ ?_
          change (noteSent { middle.2 with outbox := rest } message).outbox = rest
          unfold noteSent
          split <;> rfl

include drops sends in
/-- A flush follows a relation if dropping a message that cannot be written does, taking note of a
sent one, and storing the conversation list. -/
theorem Follows.flush (saves : ∀ middle, Follows Changed saveConversations middle) (link : τ)
    (session : Session σ η) : Follows (Linked Changed) flush (link, session) := by
  apply Follows.get
  dsimp only
  apply Follows.bind (.flushQueue drops sends 0 _ _ rfl)
  intro sent flushed _
  split
  · exact .bind ((saves flushed.2).linked flushed.1) fun _ _ _ => .pure _
  · exact .pure _

end Flush

theorem follows_flush (link : τ) :
    Follows (Linked (Change submits)) flush (link, session) :=
  .flush .dropped .sent (fun middle => (follows_saveConversations middle).change) link session

end Changes

end Messenger.Session
