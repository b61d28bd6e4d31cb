import Messenger.Proofs.Session.Atomicity
import Messenger.Proofs.Session.Persistence
import Messenger.Proofs.Session.Redelivery
import Messenger.Proofs.Session.Sparing

/-!
# The first content of a channel

Content starts the cycle of its channel if the tracker does not know the channel yet.  The
tracker gets to know a channel not only from content, but also from a confirmation, from the end
of its history, from a roster, and when the owner opens it, pages it or catches up with it; content
that comes after one of these starts no cycle.
-/

namespace Messenger.Session

variable {η : Type} {channel : Channel} {before after session : Session MemoryStore η}

/-! ## Cycles that were used up -/

/-- No change of a cycle gives a channel another one. -/
theorem SyncChange.synced {place : Channel} (change : SyncChange place before after)
    (synced : (before.tracker.state channel).synced = true) :
    (after.tracker.state channel).synced = true := by
  have kept : ∀ call : Tracker.Call, call ≠ .rearm →
      ((call.apply before.tracker).state channel).synced = true := fun call other =>
    (before.tracker.effect_apply call channel).synced other synced
  cases change with
  | issued => exact kept (.issue place) nofun
  | advanced last => exact kept (.advance place last) nofun
  | finished => exact kept (.finish place) nofun
  | @repeated _ seq => exact kept (.arrive place seq) nofun
  | @merged _ seq => exact kept (.arrive place seq) nofun
  | _ => exact synced

/-- Tracking a channel leaves its cycle as it is. -/
theorem synced_anchor (done : anchor channel before = .ok () after) :
    (after.tracker.state channel).synced = (before.tracker.state channel).synced := by
  unfold anchor at done
  split at done
  · cases done
    rfl
  · cases done
    change ((before.tracker.anchor channel _).state channel).synced = _
    rw [Tracker.state_anchor, if_pos rfl, SyncState.synced_anchor]

variable [HistorySource η] {message : Message}

/-- Catching up with a channel uses up its cycle. -/
theorem synced_catchUp (channel : Channel) (session : Session MemoryStore η) :
    ((leaves (catchUp channel) session).tracker.state channel).synced = true := by
  have issued : ((session.issuing channel).tracker.state channel).synced = true :=
    session.tracker.synced_issue channel
  cases plans : (session.tracker.issue channel).1 with
  | none => rwa [leaves_of_ok (catchUp_of_none plans)]
  | some plan =>
      have same : leaves (catchUp channel) session =
          leaves (catchUpFrom channel (plan.cursor (channel.other session.me)) 0)
            (session.issuing channel) := by
        unfold leaves
        rw [catchUp_of_plan plans]
      have kept : ∀ before after : Session MemoryStore η, SyncChange channel before after →
          (before.tracker.state channel).synced = true →
          (after.tracker.state channel).synced = true := fun _ _ change => change.synced
      rw [same]
      exact preserved_run kept (follows_catchUpFrom channel _ 0 _) issued

omit [HistorySource η] in
theorem tracker_of_note {peer : AccountId} {countsUnread : Bool} {answer : Unit}
    (done : note peer message countsUnread before = .ok answer after) :
    after.tracker = before.tracker := by
  unfold note at done
  split at done
  · cases done
    rfl
  · cases done

/-- An announcement that answers leaves the tracker as it is, but for the cycle that it runs if the
channel was not tracked. -/
theorem of_announce_eq_ok {merged : Session MemoryStore η} {inserted : Timeline.Inserted}
    {routed : Routed} (announced : announce session message inserted merged = .ok routed after) :
    ∃ middle : Session MemoryStore η, middle.tracker = merged.tracker ∧
      after = if (session.tracker.state? (message.channel session.me)).isNone then
          leaves (catchUp (message.channel session.me)) middle
        else middle := by
  have ending : ∀ middle : Session MemoryStore η,
      (do
        if (session.tracker.state? (message.channel session.me)).isNone then
          let _ ← catchUp (message.channel session.me)
        return Routed.content (message.channel session.me) inserted :
          SessionM MemoryStore η Routed) middle = .ok routed after →
      after = if (session.tracker.state? (message.channel session.me)).isNone then
          leaves (catchUp (message.channel session.me)) middle
        else middle := by
    intro middle ended
    split at ended
    · obtain ⟨_, left, caught, ended⟩ := of_bind_eq_ok ended
      cases ended
      rw [if_pos ‹_›, leaves_of_ok caught]
    · cases ended
      rw [if_neg ‹_›]
  unfold announce at announced
  dsimp only at announced
  split at announced
  · obtain ⟨_, noted, accounted, announced⟩ := of_bind_eq_ok announced
    obtain ⟨_, saved, stored, announced⟩ := of_bind_eq_ok announced
    obtain ⟨_, told, emitted, announced⟩ := of_bind_eq_ok announced
    have same := tracker_of_note accounted
    refine ⟨told, ?_, ending told announced⟩
    cases emitted
    cases stored
    exact same
  · exact ⟨merged, rfl, ending merged announced⟩

/-- Content that is taken in uses up the cycle of its channel exactly if the channel was not
tracked, or its cycle was used up before. -/
theorem synced_receiveContent_iff {routed : Routed}
    (received : receiveContent message session = .ok routed after) :
    (after.tracker.state (message.channel session.me)).synced = true ↔
      session.tracker.state? (message.channel session.me) = none ∨
        (session.tracker.state (message.channel session.me)).synced = true := by
  rw [receiveContent_eq] at received
  obtain ⟨_, anchored, anchors, received⟩ := of_bind_eq_ok received
  obtain ⟨inserted, merged, merges, announced⟩ := of_bind_eq_ok received
  obtain ⟨middle, unchanged, result⟩ := of_announce_eq_ok announced
  have kept : (middle.tracker.state (message.channel session.me)).synced =
      (session.tracker.state (message.channel session.me)).synced := by
    rw [unchanged, (Merges.of_merge merges).synced_eq, synced_anchor anchors]
  rw [result]
  cases known : session.tracker.state? (message.channel session.me) with
  | none => exact iff_of_true (synced_catchUp _ middle) (.inl rfl)
  | some state =>
      rw [or_iff_right (Option.some_ne_none state), ← kept]
      rfl

/-! ## Channels that are not tracked -/

/-- A channel that is not tracked stays so. -/
structure PassesOver (channel : Channel) (before after : Session MemoryStore η) : Prop where
  me_eq : after.me = before.me
  untracked : before.tracker.state? channel = none → after.tracker.state? channel = none

namespace PassesOver

omit [HistorySource η] in
theorem of_same (me_eq : after.me = before.me) (tracker_eq : after.tracker = before.tracker) :
    PassesOver channel before after :=
  ⟨me_eq, fun untracked => tracker_eq ▸ untracked⟩

omit [HistorySource η] in
/-- A new state of another channel. -/
theorem of_setState {other : Channel} {state : SyncState} (different : other ≠ channel)
    (me_eq : after.me = before.me)
    (tracker_eq : after.tracker = before.tracker.setState other state) :
    PassesOver channel before after := by
  refine ⟨me_eq, fun untracked => ?_⟩
  rw [tracker_eq, Tracker.state?_setState, if_neg different.symm, untracked]

omit [HistorySource η] in
theorem of_spares {other : Channel} (different : other ≠ channel)
    (spares : Spares other before after) : PassesOver channel before after :=
  ⟨spares.me_eq, fun untracked => (spares.states channel different.symm).trans untracked⟩

omit [HistorySource η] in
theorem trans {middle : Session MemoryStore η} (first : PassesOver channel before middle)
    (second : PassesOver channel middle after) : PassesOver channel before after :=
  ⟨second.me_eq.trans first.me_eq, fun untracked => second.untracked (first.untracked untracked)⟩

end PassesOver

omit [HistorySource η] in
theorem Follows.passed {α : Type} {request : SessionM MemoryStore η α}
    (follows : Follows (PassesOver channel) request session) :
    PassesOver channel session (leaves request session) :=
  preserved_run (P := PassesOver channel session) (fun _ _ change passed => passed.trans change)
    follows (.of_same rfl rfl)

/-- A message after which a session tracks a channel. -/
inductive Introduces (session : Session MemoryStore η) (channel : Channel) (message : Message) :
    Prop where
  | content (content : message.header.kind.isContent = true)
      (belongs : message.channel session.me = channel)
  /-- The message acknowledges one that waits. -/
  | confirms (kind : message.header.kind = .ack) {after : Session MemoryStore η}
      (confirmed : receiveAck message session = .ok (.ack channel true) after)
  /-- The message says that no history remains. -/
  | ends (kind : message.header.kind = .sync) (belongs : message.channel session.me = channel)
      (nothing : message.remaining = .ok 0)
  | roster (kind : message.header.kind = .box) {roster : List (AccountId × UInt64)}
      (read : readRoster message = .ok roster) {peer : AccountId}
      (named : peer ∈ roster.map Prod.fst) (belongs : Channel.between session.me peer = channel)

/-- One request that does not bear on a channel, or what happens between two requests. -/
inductive PassesBy (channel : Channel) : Session MemoryStore η → Session MemoryStore η → Prop where
  | receive (session : Session MemoryStore η) {frame : Octets}
      (apart : ∀ message, Message.decode frame = .ok message →
        ¬Introduces session channel message) :
      PassesBy channel session (leaves (receive frame) session)
  | catchUp (session : Session MemoryStore η) {other : Channel} (different : other ≠ channel) :
      PassesBy channel session (leaves (catchUp other) session)
  | openConversation (session : Session MemoryStore η) {peer : AccountId}
      (different : Channel.between session.me peer ≠ channel) :
      PassesBy channel session (leaves (openConversation peer) session)
  | loadOlder (session : Session MemoryStore η) {other : Channel} (different : other ≠ channel) :
      PassesBy channel session (leaves (loadOlder other) session)
  | submit (session : Session MemoryStore η) (message : Message) :
      PassesBy channel session (leaves (submit message) session)
  | flush (session : Session MemoryStore η) {τ : Type} [Transport τ] (link : τ) :
      PassesBy channel session (leaves flush (link, session)).2
  | disconnect (session : Session MemoryStore η) :
      PassesBy channel session (leaves disconnect session)
  | reload (session : Session MemoryStore η) : PassesBy channel session (leaves reload session)
  | takeEvents (session : Session MemoryStore η) :
      PassesBy channel session session.takeEvents.2
  | answers (session : Session MemoryStore η) (history : η) :
      PassesBy channel session { session with history }

section Untracked

omit [HistorySource η] in
theorem passesOver_emit (event : Event) : Follows (PassesOver channel) (emit event) session :=
  .modify (.of_same rfl rfl)

omit [HistorySource η] in
theorem passesOver_revise (change : ConversationList → ConversationList) :
    Follows (PassesOver channel) (revise change) session :=
  .modify (.of_same rfl rfl)

omit [HistorySource η] in
theorem passesOver_saveConversations :
    Follows (PassesOver channel) saveConversations session :=
  .single (.of_same rfl rfl)

omit [HistorySource η] in
theorem passesOver_anchor {other : Channel} (different : other ≠ channel) :
    Follows (PassesOver channel) (anchor other) session := by
  unfold Follows leaves anchor
  split
  · next done =>
      split at done
      · cases done
        exact .refl
      · cases done
        exact .single (.of_setState different rfl rfl)
  · next failed =>
      split at failed
      · cases failed
      · cases failed

omit [HistorySource η] in
theorem Follows.passesOver {α : Type} {other : Channel} {request : SessionM MemoryStore η α}
    (different : other ≠ channel) (follows : Follows (SyncChange other) request session) :
    Follows (PassesOver channel) request session :=
  follows.mono fun _ _ change => .of_spares different (.of_syncChange change)

omit [HistorySource η] in
theorem passesOver_note (peer : AccountId) (message : Message) (countsUnread : Bool) :
    Follows (PassesOver channel) (note peer message countsUnread) session := by
  unfold Follows leaves note
  cases session.conversations.noteMessage? peer message countsUnread with
  | none => exact .refl
  | some conversations => exact .single (.of_same rfl rfl)

theorem passesOver_announce {merged : Session MemoryStore η} (inserted : Timeline.Inserted)
    (different : message.channel session.me ≠ channel) :
    Follows (PassesOver channel) (announce session message inserted) merged :=
  .announce inserted
    (fun rest => .bind (passesOver_note _ _ _) fun _ _ _ =>
      .bind passesOver_saveConversations fun _ saved _ => rest saved)
    (fun event _ => passesOver_emit event)
    fun middle => (follows_catchUp _ middle).passesOver different

theorem passesOver_receiveContent (different : message.channel session.me ≠ channel) :
    Follows (PassesOver channel) (receiveContent message) session :=
  .receiveContent (passesOver_anchor different)
    (fun _ belongs => (follows_merge belongs).passesOver different)
    fun inserted _ => passesOver_announce inserted different

omit [HistorySource η] in
theorem stores_passesOver (change : ConversationList → ConversationList) :
    Stores (PassesOver channel : Session MemoryStore η → Session MemoryStore η → Prop) change :=
  Stores.of_follows (fun _ => passesOver_revise change) fun _ => passesOver_saveConversations

omit [HistorySource η] in
/-- An acknowledgement of another channel, or of nothing that waits. -/
theorem passesOver_receiveAck
    (unconfirmed : ∀ after, receiveAck message session ≠ .ok (.ack channel true) after) :
    Follows (PassesOver channel) (receiveAck message) session := by
  apply Follows.receiveAck
  · exact fun _ _ _ => .of_same rfl rfl
  · intro minted entry timeline outcome store _ _ _ confirmed result
    have different : message.channel session.me ≠ channel := by
      rintro rfl
      obtain ⟨after, announced, -⟩ := announceConfirmed_eq_ok session confirmed message entry minted
      exact unconfirmed after (result.trans announced)
    exact .of_setState different rfl rfl
  · exact fun _ _ => stores_passesOver _
  · exact fun event _ => passesOver_emit event

/-- A roster that does not name the peer of the channel. -/
theorem passesOver_catchUpWith {peers : List AccountId}
    (different : ∀ peer ∈ peers, Channel.between session.me peer ≠ channel) :
    Follows (PassesOver channel) (catchUpWith peers) session :=
  .catchUpWith (fun peer member _ => passesOver_anchor (different peer member))
    fun peer member middle => (follows_catchUp _ middle).passesOver (different peer member)

theorem passesOver_receive {frame : Octets}
    (apart : ∀ message, Message.decode frame = .ok message →
      ¬Introduces session channel message) :
    Follows (PassesOver channel) (receive frame) session := by
  apply Follows.receive
  intro message decoded
  have other := apart message decoded
  apply Follows.receiveMessage
  · intro content
    exact passesOver_receiveContent fun belongs => other (.content content belongs)
  · intro kind
    exact passesOver_receiveAck fun _ confirmed => other (.confirms kind confirmed)
  · intro kind
    refine .receiveRoster (fun _ => stores_passesOver _) (fun event _ => passesOver_emit event) ?_
    intro roster middle read account
    refine passesOver_catchUpWith fun peer named belongs => ?_
    exact other (.roster kind read named (account ▸ belongs))
  · intro kind
    refine .receiveSync fun nothing => ?_
    exact (follows_finishSync _ session).passesOver fun belongs =>
      other (.ends kind belongs nothing)
  · exact .receiveAuth (fun _ => .of_same rfl rfl) fun event _ => passesOver_emit event
  · exact passesOver_emit

theorem passesOver_openConversation {peer : AccountId}
    (different : Channel.between session.me peer ≠ channel) :
    Follows (PassesOver channel) (openConversation peer) session :=
  .openConversation (.of_same rfl rfl) (fun _ => .of_same rfl rfl)
    (fun _ _ => .of_setState different rfl rfl)
    (fun middle => (follows_catchUp _ middle).passesOver different) (stores_passesOver _)

omit [HistorySource η] in
theorem passesOver_submit : Follows (PassesOver channel) (submit message) session :=
  .submit fun _ => .of_same rfl rfl

omit [HistorySource η] in
theorem passesOver_disconnect : Follows (PassesOver channel) disconnect session := by
  refine .bind (.modify ⟨rfl, fun untracked => ?_⟩) fun _ _ _ => passesOver_emit _
  change session.tracker.rearm.state? channel = none
  unfold Tracker.state? Tracker.rearm at *
  rw [Assoc.find?_mapValues, untracked]
  rfl

end Untracked

/-- A request that does not bear on a channel does not make it tracked. -/
theorem PassesBy.passesOver (passes : PassesBy channel before after) :
    PassesOver channel before after := by
  cases passes with
  | receive apart => exact (passesOver_receive apart).passed
  | catchUp different => exact ((follows_catchUp _ before).passesOver different).passed
  | openConversation different => exact (passesOver_openConversation different).passed
  | @loadOlder other different =>
      exact .of_spares different (.of_run (fun _ _ => .of_browseChange)
        (follows_loadOlder_within before other))
  | submit message => exact passesOver_submit.passed
  | flush link => exact .of_same (me_flush link before) (tracker_flush link before)
  | disconnect => exact passesOver_disconnect.passed
  | reload =>
      unfold leaves Session.reload
      cases ConversationList.load before.store before.me <;> exact .of_same rfl rfl
  | takeEvents => exact .of_same rfl rfl
  | answers history => exact .of_same rfl rfl

/-- A channel on which no request has borne is not tracked. -/
theorem untracked_of_passesBy {me : AccountId} {config : SessionConfig} {store : MemoryStore}
    {history : η}
    (run : Relation.ReflTransGen (PassesBy channel) (start me config store history) session) :
    session.tracker.state? channel = none :=
  preserved_run (P := fun left => left.tracker.state? channel = none)
    (fun _ _ passes => passes.passesOver.untracked) run rfl

/-- Content that is taken in uses up the cycle of its channel exactly if the channel was not
tracked, or its cycle was used up before.  The first content does so if no request before it has
borne on the channel, be it a frame or a request of the owner. -/
theorem content_synced_iff {frame : Octets} {routed : Routed}
    (decoded : Message.decode frame = .ok message)
    (content : message.header.kind.isContent = true)
    (received : receive frame session = .ok routed after) :
    ((after.tracker.state (message.channel session.me)).synced = true ↔
      session.tracker.state? (message.channel session.me) = none ∨
        (session.tracker.state (message.channel session.me)).synced = true) ∧
    ∀ me config store history,
      Relation.ReflTransGen (PassesBy (message.channel session.me))
        (start me config store history) session →
      (after.tracker.state (message.channel session.me)).synced = true := by
  rw [receive_eq_receiveContent decoded content] at received
  have uses := synced_receiveContent_iff received
  exact ⟨uses, fun _ _ _ _ run => uses.mpr (.inl (untracked_of_passesBy run))⟩

/-- A session of account 1 that has taken in a text of account 3 and sent one to account 2. -/
def afterOthers : Session MemoryStore Silence :=
  let fresh : Session MemoryStore Silence := start 1 ⟨8, 8, {}⟩ MemoryStore.empty Silence.silence
  let received := leaves (receive (Message.bareText 3 1 1 900).spelling) fresh
  (leaves flush (connected, leaves (submit (.bareText 1 2 0 1000)) received)).2

set_option maxRecDepth 1000 in
theorem conversations_afterOthers :
    afterOthers.conversations = ⟨[⟨2, 1000, "", 0, .text⟩, ⟨3, 900, "", 1, .text⟩]⟩ := by
  have alone : ConversationList.empty.noteMessage 3 (.bareText 3 1 1 900) true =
      ⟨[⟨3, 900, "", 1, .text⟩]⟩ := by decide +kernel
  change (ConversationList.empty.noteMessage 3 (.bareText 3 1 1 900) true).noteMessage 2
    (.bareText 1 2 0 1000) false = _
  rw [alone]
  change ConversationList.arrange [⟨3, 900, "", 1, .text⟩, ⟨2, 1000, "", 0, .text⟩] = _
  simp [ConversationList.arrange, List.mergeSort]

/-- Nothing of this bears on the channel with account 2, so its first text uses up the cycle. -/
theorem first_text_uses_cycle :
    ∃ routed after,
      Message.decode (Message.bareText 2 1 1 2000).spelling = .ok (.bareText 2 1 1 2000) ∧
      (Message.bareText 2 1 1 2000).header.kind.isContent = true ∧
      receive (Message.bareText 2 1 1 2000).spelling afterOthers = .ok routed after ∧
      (after.tracker.state ⟨1, 2⟩).synced = true := by
  have decoded : Message.decode (Message.bareText 2 1 1 2000).spelling =
      .ok (.bareText 2 1 1 2000) := by decide +kernel
  have apart : ∀ message, Message.decode (Message.bareText 3 1 1 900).spelling = .ok message →
      ¬Introduces (start 1 ⟨8, 8, {}⟩ MemoryStore.empty Silence.silence) ⟨1, 2⟩ message := by
    intro message other introduces
    have text : Message.decode (Message.bareText 3 1 1 900).spelling =
        .ok (.bareText 3 1 1 900) := by decide +kernel
    cases text.symm.trans other
    cases introduces with
    | content _ belongs => exact absurd belongs (by decide)
    | confirms kind => cases kind
    | ends kind => cases kind
    | roster kind => cases kind
  have run : Relation.ReflTransGen (PassesBy ⟨1, 2⟩)
      (start 1 ⟨8, 8, {}⟩ MemoryStore.empty Silence.silence) afterOthers := by
    unfold afterOthers
    exact ((Relation.ReflTransGen.single (.receive _ apart)).tail (.submit _ _)).tail
      (.flush _ connected)
  -- The order of the list cannot be computed by reduction, so the list is put in as it is.
  have listed : ∀ session : Session MemoryStore Silence, ∀ conversations,
      session.conversations = conversations → session = { session with conversations } := by
    rintro session _ rfl
    rfl
  have answered : answer? (receive (Message.bareText 2 1 1 2000).spelling) afterOthers =
      some (.content ⟨1, 2⟩ (.at 1)) := by
    rw [listed _ _ conversations_afterOthers]
    decide +kernel
  have received := eq_ok_of_answer? answered
  exact ⟨_, _, decoded, rfl, received, (content_synced_iff decoded rfl received).2 _ _ _ _ run⟩

/-- The session once the text that it has sent is confirmed, under the number 3. -/
def afterConfirmation : Session MemoryStore Silence :=
  afterText.receiveAll [textAck.spelling]

theorem reachable_afterConfirmation :
    Reachable (· = .bareText 1 2 0 1000) afterConfirmation := by
  unfold afterConfirmation receiveAll
  rw [List.foldl_cons, List.foldl_nil]
  exact .receive reachable_afterText textAck.spelling

/-- A confirmation makes the channel tracked without a cycle, and the first content after it does
not start one either. -/
theorem no_cycle_after_confirmation :
    ∃ session : Session MemoryStore Silence, ∃ frames frame message routed after,
      Reachable (· = .bareText 1 2 0 1000) session ∧ session = afterText.receiveAll frames ∧
      (∀ earlier ∈ frames, ∀ other, Message.decode earlier = .ok other →
        other.header.kind.isContent = false) ∧
      Message.decode frame = .ok message ∧ message.header.kind.isContent = true ∧
      (session.tracker.state (message.channel session.me)).synced = false ∧
      receive frame session = .ok routed after ∧
      (after.tracker.state (message.channel session.me)).synced = false := by
  have decoded : Message.decode (Message.bareText 2 1 4 2000).spelling =
      .ok (.bareText 2 1 4 2000) := by decide +kernel
  have acknowledged : ∀ earlier ∈ [textAck.spelling], ∀ other,
      Message.decode earlier = .ok other → other.header.kind.isContent = false := by
    intro earlier member other decodes
    rw [List.mem_singleton.mp member] at decodes
    cases decode_textAck.symm.trans decodes
    rfl
  have tracked : afterConfirmation.tracker.state? ⟨1, 2⟩ = some ⟨1, some 3, false⟩ := by
    decide +kernel
  have fresh : (afterConfirmation.tracker.state ⟨1, 2⟩).synced = false := by
    rw [Tracker.state_of_tracked tracked]
  have answered : answer? (receive (Message.bareText 2 1 4 2000).spelling) afterConfirmation =
      some (.content ⟨1, 2⟩ (.at 1)) := by decide +kernel
  have unissued : ((leaves (receive (Message.bareText 2 1 4 2000).spelling)
      afterConfirmation).tracker.state ⟨1, 2⟩).synced = false := by decide +kernel
  exact ⟨afterConfirmation, [textAck.spelling], _, _, _, _, reachable_afterConfirmation, rfl,
    acknowledged, decoded, rfl, fresh, eq_ok_of_answer? answered, unissued⟩

end Messenger.Session
