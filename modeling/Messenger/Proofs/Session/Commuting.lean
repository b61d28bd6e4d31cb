import Messenger.Proofs.Session.Arranged
import Messenger.Proofs.Session.Locality

/-!
# Content of different conversations commutes

Content changes its own channel and the conversation with its own peer, and what it makes of
these depends on nothing else.  So two content messages of different channels and different
peers lead to the same records in either order, with all the history that each of them has
the session fetch.
-/

namespace Messenger

namespace Session

variable {η : Type} {place channel : Channel} {party peer : AccountId}
  {before middle after session other : Session MemoryStore η}

/-! ## What content leaves alone -/

/-- Nothing is different of any channel but one and of any peer but one. -/
structure Confined (place : Channel) (party : AccountId) (before after : Session MemoryStore η) :
    Prop where
  me_eq : after.me = before.me
  config_eq : after.config = before.config
  active_eq : after.active = before.active
  pageSize_eq : after.tracker.pageSize = before.tracker.pageSize
  timelines : ∀ channel, channel ≠ place →
    after.timelines.find? channel = before.timelines.find? channel
  states : ∀ channel, channel ≠ place →
    after.tracker.state? channel = before.tracker.state? channel
  shelves : ∀ channel, channel ≠ place → after.store.shelf channel = before.store.shelf channel
  summaries : ∀ peer, peer ≠ party →
    after.conversations.about peer = before.conversations.about peer

namespace Confined

theorem refl (session : Session MemoryStore η) : Confined place party session session :=
  ⟨rfl, rfl, rfl, rfl, fun _ _ => rfl, fun _ _ => rfl, fun _ _ => rfl, fun _ _ => rfl⟩

theorem trans (first : Confined place party before middle)
    (second : Confined place party middle after) : Confined place party before after where
  me_eq := second.me_eq.trans first.me_eq
  config_eq := second.config_eq.trans first.config_eq
  active_eq := second.active_eq.trans first.active_eq
  pageSize_eq := second.pageSize_eq.trans first.pageSize_eq
  timelines channel apart := (second.timelines channel apart).trans (first.timelines channel apart)
  states channel apart := (second.states channel apart).trans (first.states channel apart)
  shelves channel apart := (second.shelves channel apart).trans (first.shelves channel apart)
  summaries peer apart := (second.summaries peer apart).trans (first.summaries peer apart)

theorem agree (confined : Confined place party before after) (channelApart : channel ≠ place)
    (peerApart : peer ≠ party) : Agree channel peer before after :=
  ⟨confined.me_eq, confined.config_eq, confined.active_eq, confined.pageSize_eq,
    confined.timelines channel channelApart, confined.states channel channelApart,
    confined.shelves channel channelApart, confined.summaries peer peerApart⟩

/-- A new state of the channel. -/
theorem setState (session : Session MemoryStore η) (state : SyncState) :
    Confined place party session { session with tracker := session.tracker.setState place state } :=
  { refl session with
    states := fun _ apart => (Tracker.state?_setState ..).trans (if_neg apart) }

theorem of_syncChange (change : SyncChange place before after) :
    Confined place party before after := by
  have spares := Spares.of_syncChange change
  have pageSize_eq : after.tracker.pageSize = before.tracker.pageSize := by
    cases change with
    | issued =>
        dsimp only
        rw [Tracker.issue_eq_setState]
        rfl
    | advanced =>
        dsimp only [Tracker.advance]
        split <;> rfl
    | _ => rfl
  exact ⟨spares.me_eq, spares.config_eq, spares.active_eq, pageSize_eq, spares.timelines,
    spares.states, spares.shelves,
    fun peer _ => congrArg (ConversationList.about · peer) spares.conversations_eq⟩

end Confined

/-- An arranged list stays arranged, and nothing is different but of one channel and one peer. -/
def Confines (place : Channel) (party : AccountId) (before after : Session MemoryStore η) : Prop :=
  before.conversations.Arranged →
    Confined place party before after ∧ after.conversations.Arranged

theorem confined_leaves {α : Type} {request : SessionM MemoryStore η α}
    (arranged : session.conversations.Arranged)
    (follows : Follows (Confines place party) request session) :
    Confined place party session (leaves request session) ∧
      (leaves request session).conversations.Arranged :=
  preserved_run
    (P := fun after => Confined place party session after ∧ after.conversations.Arranged)
    (fun _ _ change ⟨confined, arranged⟩ =>
      ⟨confined.trans (change arranged).1, (change arranged).2⟩)
    follows ⟨.refl session, arranged⟩

theorem Follows.confines {α : Type} {request : SessionM MemoryStore η α}
    (follows : Follows (SyncChange place) request session) :
    Follows (Confines place party) request session :=
  follows.mono fun _ _ change arranged =>
    ⟨.of_syncChange change, KeepsOrder.of_syncChange change arranged⟩

theorem confines_anchor (place : Channel) :
    Follows (Confines place party) (anchor place) session := by
  unfold Follows leaves anchor
  cases session.tracker.isAnchored place with
  | true => exact .refl
  | false => exact .single fun arranged => ⟨.setState session _, arranged⟩

theorem confines_note (party : AccountId) (message : Message) (countsUnread : Bool) :
    Follows (Confines place party) (note party message countsUnread) session := by
  unfold Follows leaves note ConversationList.noteMessage?
  cases session.conversations.hasRoom party message countsUnread with
  | false => exact .refl
  | true =>
      refine .single fun arranged => ⟨?_, arranged.noteMessage party message countsUnread⟩
      have unchanged : Confined place party session session := .refl session
      exact
        { unchanged with
          summaries := fun _ apart => ConversationList.about_noteMessage_of_ne arranged apart }

theorem confines_saveConversations :
    Follows (Confines place party) saveConversations session :=
  .single fun arranged => ⟨{ Confined.refl session with }, arranged⟩

variable [HistorySource η]

/-- Content changes its channel and the conversation with its peer. -/
theorem confines_receiveContent (message : Message) :
    Follows (Confines (message.channel session.me) (message.peer session.me))
      (receiveContent message) session :=
  .receiveContent (confines_anchor _) (fun _ belongs => (follows_merge belongs).confines)
    fun inserted _ => .announce inserted
      (fun rest => .bind (confines_note _ _ _) fun _ _ _ =>
        .bind confines_saveConversations fun _ saved _ => rest saved)
      (fun _ middle => .modify fun arranged => ⟨{ Confined.refl middle with }, arranged⟩)
      fun middle => (follows_catchUp _ middle).confines

/-! ## Either order -/

omit [HistorySource η] in
/-- Two sessions have the same timelines, tracker states and stored messages of every channel, and
the same summaries of every peer. -/
structure SameRecords (session other : Session MemoryStore η) : Prop where
  timelines : ∀ channel, other.timelines.find? channel = session.timelines.find? channel
  states : ∀ channel, other.tracker.state? channel = session.tracker.state? channel
  shelves : ∀ channel, other.store.shelf channel = session.store.shelf channel
  summaries : ∀ peer, other.conversations.about peer = session.conversations.about peer

/-- Changes at one key and at another one lead to the same values in either order, if they do so at
these two keys. -/
theorem eq_of_updates {κ ν : Type} {a b : κ} {start first both second reverse : κ → ν}
    (firstKeeps : ∀ key, key ≠ a → first key = start key)
    (bothKeep : ∀ key, key ≠ b → both key = first key)
    (secondKeeps : ∀ key, key ≠ b → second key = start key)
    (reverseKeeps : ∀ key, key ≠ a → reverse key = second key)
    (atFirst : reverse a = both a) (atSecond : reverse b = both b) (key : κ) :
    reverse key = both key := by
  by_cases here : key = a
  · rw [here, atFirst]
  · by_cases there : key = b
    · rw [there, atSecond]
    · rw [reverseKeeps key here, secondKeeps key there, bothKeep key there, firstKeeps key here]

variable {answers : HistoryRequest → Answer} {message another : Message}

/-- Of the channel and the peer of a message, the same is known whether content of another channel
and another peer comes after it or before. -/
theorem agree_in_either_order (arranged : session.conversations.Arranged)
    (steady : Steady answers session.history)
    (channels : message.channel session.me ≠ another.channel session.me)
    (peers : message.peer session.me ≠ another.peer session.me) :
    Agree (message.channel session.me) (message.peer session.me)
      (leaves (receiveContent another) (leaves (receiveContent message) session))
      (leaves (receiveContent message) (leaves (receiveContent another) session)) := by
  obtain ⟨confined, otherArranged⟩ :=
    confined_leaves arranged (confines_receiveContent another)
  have itself : Twins answers (another.channel session.me) (another.peer session.me)
      session session := ⟨.refl session, arranged, arranged, steady, steady⟩
  have twins : Twins answers (message.channel session.me) (message.peer session.me) session
      (leaves (receiveContent another) session) :=
    ⟨confined.agree channels peers, arranged, otherArranged, steady,
      itself.receiveContent.leaves.otherSteady⟩
  have alike := twins.receiveContent.leaves
  have afterwards := (confined_leaves alike.arranged (confines_receiveContent another)).1
  have me_eq : (leaves (receiveContent message) session).me = session.me :=
    (confined_leaves arranged (confines_receiveContent message)).1.me_eq
  rw [me_eq] at afterwards
  exact (afterwards.agree channels peers).symm.trans alike.toAgree

/-- Two frames of content of different channels and different peers leave the same records in either
order. -/
theorem content_commutes {submits : Message → Prop} (reachable : Reachable submits session)
    (steady : Steady answers session.history) {frame otherFrame : Octets}
    (decoded : Message.decode frame = .ok message)
    (content : message.header.kind.isContent = true)
    (otherDecoded : Message.decode otherFrame = .ok another)
    (otherContent : another.header.kind.isContent = true)
    (channels : message.channel session.me ≠ another.channel session.me)
    (peers : message.peer session.me ≠ another.peer session.me) :
    SameRecords (leaves (receive otherFrame) (leaves (receive frame) session))
      (leaves (receive frame) (leaves (receive otherFrame) session)) := by
  have arranged := reachable.arranged
  rw [receive_eq_receiveContent decoded content,
    receive_eq_receiveContent otherDecoded otherContent]
  have agree := agree_in_either_order arranged steady channels peers
  have otherAgree :=
    (agree_in_either_order arranged steady channels.symm peers.symm).symm
  obtain ⟨first, firstArranged⟩ := confined_leaves arranged (confines_receiveContent message)
  obtain ⟨second, secondArranged⟩ := confined_leaves arranged (confines_receiveContent another)
  have both := (confined_leaves firstArranged (confines_receiveContent another)).1
  have reverse := (confined_leaves secondArranged (confines_receiveContent message)).1
  rw [first.me_eq] at both
  rw [second.me_eq] at reverse
  constructor
  · exact eq_of_updates first.timelines both.timelines second.timelines reverse.timelines
      agree.timeline_eq otherAgree.timeline_eq
  · exact eq_of_updates first.states both.states second.states reverse.states
      agree.state_eq otherAgree.state_eq
  · exact eq_of_updates first.shelves both.shelves second.shelves reverse.shelves
      agree.shelf_eq otherAgree.shelf_eq
  · exact eq_of_updates first.summaries both.summaries second.summaries reverse.summaries
      agree.about_eq otherAgree.about_eq

/-- A history of account 1 that has the first texts of account 2 and of account 3. -/
def firstTexts : ScriptedHistory where
  me := 1
  logs := ⟨[(⟨1, 2⟩, [(1, (Message.bareText 2 1 1 1001).spelling)]),
    (⟨1, 3⟩, [(1, (Message.bareText 3 1 1 2001).spelling)])]⟩

/-- A session that knows nothing, over this history. -/
def beforeTexts : Session MemoryStore ScriptedHistory :=
  start 1 ⟨8, 8, {}⟩ MemoryStore.empty firstTexts

/-- The second texts of both accounts, in either order, have the first ones fetched as well. -/
theorem second_texts_commute :
    let both := leaves (receive (Message.bareText 3 1 2 2002).spelling)
      (leaves (receive (Message.bareText 2 1 2 1002).spelling) beforeTexts)
    SameRecords both (leaves (receive (Message.bareText 2 1 2 1002).spelling)
      (leaves (receive (Message.bareText 3 1 2 2002).spelling) beforeTexts)) ∧
    (both.timeline ⟨1, 2⟩).seqs = [1, 2] ∧ (both.timeline ⟨1, 3⟩).seqs = [1, 2] := by
  have reachable : Reachable (fun _ => False) beforeTexts := .start ..
  have steady : Steady _ beforeTexts.history := ScriptedHistory.steady rfl rfl
  have decoded : Message.decode (Message.bareText 2 1 2 1002).spelling =
      .ok (.bareText 2 1 2 1002) := by decide +kernel
  have otherDecoded : Message.decode (Message.bareText 3 1 2 2002).spelling =
      .ok (.bareText 3 1 2 2002) := by decide +kernel
  have numbers : (((leaves (receive (Message.bareText 3 1 2 2002).spelling)
      (leaves (receive (Message.bareText 2 1 2 1002).spelling) beforeTexts)).timeline
        ⟨1, 2⟩).seqs) = [1, 2] := by decide +kernel
  have otherNumbers : (((leaves (receive (Message.bareText 3 1 2 2002).spelling)
      (leaves (receive (Message.bareText 2 1 2 1002).spelling) beforeTexts)).timeline
        ⟨1, 3⟩).seqs) = [1, 2] := by decide +kernel
  exact ⟨content_commutes reachable steady decoded rfl otherDecoded rfl (by decide) (by decide),
    numbers, otherNumbers⟩

end Session

end Messenger
