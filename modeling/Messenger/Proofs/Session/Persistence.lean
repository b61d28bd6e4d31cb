import Mathlib.Data.List.Chain
import Messenger.Proofs.Conversation.Storable
import Messenger.Proofs.Session.Acknowledgement
import Messenger.Proofs.Session.Sparing
import Messenger.Transport.Flaky

/-!
# The stored conversation list keeps up

A request that changes the conversation list stores it before it does anything that can
fail.  The one exception is a flush: it stores the list only if all messages were sent, so
that a flush which fails on its way leaves the store behind the list.  What is behind is
stored by the next request that stores the list, and lost if the list is loaded before.
-/

namespace Messenger

namespace ConversationList

/-- Only the values of a store tell which list is loaded from it. -/
theorem load_congr {store other : MemoryStore} (same : other.values = store.values)
    (account : AccountId) : load other account = load store account := by
  have value : ∀ key, MessageStore.value other key = MessageStore.value store key := by
    intro key
    exact congrArg (fun values => Except.ok (values.find? key)) same
  unfold load MessageStore.typedValue
  rw [value]

/-- Account for the content among messages that `me` sent, one after the other. -/
def noteAll (me : AccountId) (list : ConversationList) (messages : List Message) :
    ConversationList :=
  messages.foldl (fun list message =>
    if message.header.kind.isContent then list.noteMessage (message.peer me) message false
    else list) list

theorem noteAll_cons (me : AccountId) (list : ConversationList) (message : Message)
    (rest : List Message) :
    list.noteAll me (message :: rest) =
      (if message.header.kind.isContent then list.noteMessage (message.peer me) message false
        else list).noteAll me rest :=
  rfl

end ConversationList

namespace Session

variable {η : Type} {before after session : Session MemoryStore η}

/-! ## Lists that are stored -/

/-- The list is in a form that is loaded as it is stored, and it is stored if it can be
counted. -/
structure Listed (session : Session MemoryStore η) : Prop where
  storable : session.conversations.Storable
  stored : session.conversations.entries.length < UInt64.size →
    ConversationList.load session.store session.me = .ok session.conversations

theorem listed_start (me : AccountId) (config : SessionConfig) (history : η) :
    (start me config MemoryStore.empty history).Listed :=
  ⟨ConversationList.storable_empty, fun _ =>
    congrArg Except.ok ConversationList.storable_empty.arrange_eq⟩

/-- A session that loads the list that it has stays as it is. -/
theorem reload_of_stored
    (stored : ConversationList.load session.store session.me = .ok session.conversations) :
    reload session = .ok () session := by
  unfold reload
  rw [stored]

/-- A change that touches neither the list nor what is stored of it, or a changed list that is
stored at once. -/
inductive Relists (before after : Session MemoryStore η) : Prop where
  | apart (me_eq : after.me = before.me) (values_eq : after.store.values = before.store.values)
      (conversations_eq : after.conversations = before.conversations)
  | stored (me_eq : after.me = before.me)
      (storable : before.conversations.Storable → after.conversations.Storable)
      (saved : after.conversations.save before.store before.me = .ok after.store)

theorem Listed.relists (listed : before.Listed) (change : Relists before after) :
    after.Listed := by
  cases change with
  | apart me_eq values_eq conversations_eq =>
      refine ⟨conversations_eq ▸ listed.storable, fun counted => ?_⟩
      rw [ConversationList.load_congr values_eq, me_eq, conversations_eq]
      exact listed.stored (conversations_eq ▸ counted)
  | stored me_eq storable saved =>
      refine ⟨storable listed.storable, fun counted => ?_⟩
      rw [me_eq]
      exact ConversationList.load_of_save (storable listed.storable) counted saved

theorem Listed.follows {α : Type} {request : SessionM MemoryStore η α} (listed : session.Listed)
    (follows : Follows Relists request session) : (leaves request session).Listed :=
  preserved_run (P := Listed) (fun _ _ change listed => listed.relists change) follows listed

/-! ## What requests do to the list -/

section Requests

variable {channel : Channel} {message : Message}

theorem Spares.relists (spares : Spares channel before after) : Relists before after :=
  .apart spares.me_eq spares.values_eq spares.conversations_eq

theorem Follows.relists {α : Type} {request : SessionM MemoryStore η α}
    (follows : Follows (SyncChange channel) request session) : Follows Relists request session :=
  follows.mono fun _ _ change => (Spares.of_syncChange change).relists

/-- A changed list is stored at once. -/
theorem relists_stored {α : Type} {first : SessionM MemoryStore η Unit}
    {next : SessionM MemoryStore η α} {conversations : ConversationList}
    (revised : first session = .ok () { session with conversations })
    (storable : session.conversations.Storable → conversations.Storable)
    (rest : ∀ left : Session MemoryStore η, left.me = session.me → Follows Relists next left) :
    Follows Relists (do first; saveConversations; next) session := by
  obtain ⟨store, saved⟩ : ∃ store, conversations.save session.store session.me = .ok store :=
    ⟨_, rfl⟩
  have changed : Relists session { session with conversations, store } :=
    .stored rfl storable saved
  have stored : (saveConversations : SessionM MemoryStore η Unit) { session with conversations } =
      .ok () { session with conversations, store } := by
    unfold saveConversations
    dsimp only
    rw [saved]
  refine .of_eq changed ?_ (rest _ rfl)
  rw [bind_of_ok revised, bind_of_ok stored]

theorem stores_relists {change : ConversationList → ConversationList}
    (storable : ∀ list : ConversationList, list.Storable → (change list).Storable) :
    Stores (Relists : Session MemoryStore η → Session MemoryStore η → Prop) change :=
  fun session rest => relists_stored rfl (storable session.conversations) rest

/-- A message is accounted for, or nothing changes. -/
theorem note_cases {σ : Type} (session : Session σ η) (peer : AccountId) (message : Message)
    (countsUnread : Bool) :
    note peer message countsUnread session =
        .ok () { session with
          conversations := session.conversations.noteMessage peer message countsUnread } ∨
      note peer message countsUnread session =
        .error (.aborted (.unreadOverflow peer)) session := by
  unfold note ConversationList.noteMessage?
  split
  · next noted =>
      split at noted
      · cases noted
        exact .inl rfl
      · cases noted
  · exact .inr rfl

theorem relists_emit (event : Event) : Follows Relists (emit event) session :=
  .modify (.apart rfl rfl rfl)

theorem relists_anchor (channel : Channel) : Follows Relists (anchor channel) session := by
  unfold Follows leaves anchor
  cases session.tracker.isAnchored channel with
  | true => exact .refl
  | false => exact .single (.apart rfl rfl rfl)

variable [HistorySource η]

theorem relists_announce (session : Session MemoryStore η)
    (brief : (Utf8.encode message.preview).length < UInt64.size) (inserted : Timeline.Inserted)
    (merged : Session MemoryStore η) :
    Follows Relists (announce session message inserted) merged := by
  refine .announce inserted (fun rest => ?_) (fun event _ => relists_emit event)
    fun middle => (follows_catchUp _ middle).relists
  rcases note_cases merged (message.peer session.me) message
      (session.active ≠ some (message.channel session.me)) with noted | full
  · exact relists_stored noted (fun storable => storable.noteMessage _ brief _) fun left _ =>
      rest left
  · unfold Follows
    rw [leaves_of_error (bind_of_error full _)]

theorem relists_receiveContent (brief : (Utf8.encode message.preview).length < UInt64.size) :
    Follows Relists (receiveContent message) session :=
  .receiveContent (relists_anchor _) (fun _ belongs => (follows_merge belongs).relists)
    (relists_announce session brief)

omit [HistorySource η] in
theorem relists_receiveAck (ack : Message) : Follows Relists (receiveAck ack) session :=
  .receiveAck (fun _ _ _ => .apart rfl rfl rfl)
    (fun _ _ saved _ => .apart rfl (MemoryStore.values_of_save saved) rfl)
    (fun _ _ => stores_relists fun _ storable => storable.noteConfirmation _ _)
    fun event _ => relists_emit event

theorem relists_catchUpWith (peers : List AccountId) :
    Follows Relists (catchUpWith peers) session :=
  .catchUpWith (fun _ _ _ => relists_anchor _) fun _ _ middle => (follows_catchUp _ middle).relists

theorem relists_receive (frame : Octets) : Follows Relists (receive frame) session := by
  apply Follows.receive
  intro message decoded
  have brief := (Message.of_decode_eq_ok decoded).1.length_preview_lt
  apply Follows.receiveMessage
  · exact fun _ => relists_receiveContent brief
  · exact fun _ => relists_receiveAck message
  · exact fun _ => .receiveRoster
      (fun roster => stores_relists fun _ storable => storable.noteRoster roster)
      (fun event _ => relists_emit event) fun _ _ _ _ => relists_catchUpWith _
  · exact fun _ => .receiveSync fun _ => (follows_finishSync _ session).relists
  · exact .receiveAuth (fun _ => .apart rfl rfl rfl) fun event _ => relists_emit event
  · exact relists_emit

theorem relists_openConversation (peer : AccountId) :
    Follows Relists (openConversation peer) session :=
  .openConversation (.apart rfl rfl rfl) (fun _ => .apart rfl rfl rfl)
    (fun _ _ => .apart rfl rfl rfl) (fun middle => (follows_catchUp _ middle).relists)
    (stores_relists fun _ storable => storable.clearUnread peer)

theorem relists_loadOlder (channel : Channel) : Follows Relists (loadOlder channel) session :=
  (follows_loadOlder_within session channel).mono fun _ _ change =>
    (Spares.of_browseChange change).relists

omit [HistorySource η] in
theorem relists_submit : Follows Relists (submit message) session :=
  .submit fun _ => .apart rfl rfl rfl

omit [HistorySource η] in
theorem relists_disconnect : Follows Relists disconnect session :=
  .bind (.modify (.apart rfl rfl rfl)) fun _ _ _ => relists_emit _

end Requests

/-! ## What a flush does to the list -/

section Flush

variable {τ : Type} [Transport τ]

/-- Sent messages are accounted for, and nothing is stored. -/
structure Notes (sent : List Message) (before after : Session MemoryStore η) : Prop where
  me_eq : after.me = before.me
  store_eq : after.store = before.store
  tracker_eq : after.tracker = before.tracker
  conversations_eq : after.conversations = before.conversations.noteAll before.me sent
  storable : before.conversations.Storable → after.conversations.Storable

theorem Notes.of_nothing (session : Session MemoryStore η) (outbox : List Message) :
    Notes [] session { session with outbox } :=
  ⟨rfl, rfl, rfl, rfl, id⟩

/-- The first message of a queue is accounted for before the others. -/
theorem Notes.cons {message : Message} {rest sent : List Message}
    {session after : Session MemoryStore η}
    (wellFormed : message.WellFormed)
    (notes : Notes sent (noteSent { session with outbox := rest } message) after) :
    Notes (message :: sent) session after := by
  obtain ⟨me_eq, store_eq, tracker_eq, conversations_eq, storable⟩ := notes
  unfold noteSent at me_eq store_eq tracker_eq conversations_eq storable
  split at me_eq
  · next content =>
      rw [if_pos content] at store_eq tracker_eq conversations_eq storable
      refine ⟨me_eq, store_eq, tracker_eq, ?_, fun fits => storable ?_⟩
      · rwa [ConversationList.noteAll_cons, if_pos content]
      · exact fits.noteMessage _ wellFormed.length_preview_lt _
  · next other =>
      rw [if_neg other] at store_eq tracker_eq conversations_eq storable
      refine ⟨me_eq, store_eq, tracker_eq, ?_, storable⟩
      rwa [ConversationList.noteAll_cons, if_neg other]

theorem notes_flushQueue (count : Nat) (queue : List Message) (link : τ)
    (session : Session MemoryStore η) :
    Notes (dispatched link queue) session (leaves (flushQueue count queue) (link, session)).2 := by
  induction queue generalizing count link session with
  | nil => exact .of_nothing session session.outbox
  | cons message rest ih =>
      rw [dispatched_cons]
      cases encoded : message.encode with
      | error cause =>
          rw [leaves_of_error (flushQueue_of_unwritable count session encoded)]
          exact .of_nothing session rest
      | ok frame =>
          dsimp only
          cases sending : Transport.send link frame with
          | mk outcome moved =>
              cases outcome with
              | error cause =>
                  rw [leaves_of_error (flushQueue_of_unsent count session encoded sending)]
                  exact .of_nothing session session.outbox
              | ok =>
                  have later := ih (count + 1) moved
                    (noteSent { session with outbox := rest } message)
                  unfold leaves at later ⊢
                  rw [flushQueue_of_sent count session encoded sending]
                  exact .cons (Message.encode_eq_ok_iff.mp encoded).1 later

/-- A flush leaves what its queue leaves, but for what is stored. -/
theorem exists_leaves_flush (link : τ) (session : Session MemoryStore η) :
    ∃ store, (leaves flush (link, session)).2 =
      { (leaves (flushQueue 0 session.outbox) (link, session)).2 with store } := by
  cases sending : flushQueue 0 session.outbox (link, session) with
  | error cause left =>
      have failed : flush (link, session) = .error cause left := bind_of_error sending _
      rw [leaves_of_error failed, leaves_of_error sending]
      exact ⟨_, rfl⟩
  | ok count left =>
      have goesOn : leaves flush (link, session) = leaves (do
          if 0 < count then linked saveConversations
          return count : LinkedM τ MemoryStore η Nat) left := leaves_bind_of_ok sending _
      rw [goesOn, leaves_of_ok sending]
      split
      · rw [leaves_bind_pure]
        exact ⟨_, rfl⟩
      · exact ⟨_, rfl⟩

theorem me_flush (link : τ) (session : Session MemoryStore η) :
    (leaves flush (link, session)).2.me = session.me := by
  obtain ⟨store, same⟩ := exists_leaves_flush link session
  rw [same]
  exact (notes_flushQueue 0 session.outbox link session).me_eq

/-- A flush tells the tracker nothing. -/
theorem tracker_flush (link : τ) (session : Session MemoryStore η) :
    (leaves flush (link, session)).2.tracker = session.tracker := by
  obtain ⟨store, same⟩ := exists_leaves_flush link session
  rw [same]
  exact (notes_flushQueue 0 session.outbox link session).tracker_eq

/-- A queue is sent as a whole, or its sending fails before all of it was sent. -/
theorem flushQueue_cases (count : Nat) (queue : List Message) (link : τ)
    (session : Session MemoryStore η) :
    (∃ left, flushQueue count queue (link, session) = .ok (count + queue.length) left) ∨
      ∃ cause left, flushQueue count queue (link, session) = .error cause left ∧
        (dispatched link queue).length < queue.length := by
  induction queue generalizing count link session with
  | nil => exact .inl ⟨_, rfl⟩
  | cons message rest ih =>
      rw [dispatched_cons]
      cases encoded : message.encode with
      | error cause =>
          refine .inr ⟨_, _, flushQueue_of_unwritable count session encoded, ?_⟩
          exact Nat.zero_lt_succ _
      | ok frame =>
          dsimp only
          cases sending : Transport.send link frame with
          | mk outcome moved =>
              cases outcome with
              | error cause =>
                  refine .inr ⟨_, _, flushQueue_of_unsent count session encoded sending, ?_⟩
                  exact Nat.zero_lt_succ _
              | ok =>
                  have total : count + (message :: rest).length = count + 1 + rest.length := by
                    rw [List.length_cons]
                    omega
                  rw [flushQueue_of_sent count session encoded sending, total]
                  rcases ih (count + 1) moved _ with sent | ⟨cause, left, failed, shorter⟩
                  · exact .inl sent
                  · exact .inr ⟨cause, left, failed, Nat.succ_lt_succ shorter⟩

/-- A flush that answers has stored the list that it changed, and one that fails has not sent every
message, and has accounted for what it sent and stored nothing. -/
theorem flush_cases (link : τ) (session : Session MemoryStore η) :
    (∃ count moved left, flush (link, session) = .ok count (moved, left) ∧ Relists session left) ∨
      ∃ cause moved left, flush (link, session) = .error cause (moved, left) ∧
        Notes (dispatched link session.outbox) session left ∧
        (dispatched link session.outbox).length < session.outbox.length := by
  have notes := notes_flushQueue 0 session.outbox link session
  rcases flushQueue_cases 0 session.outbox link session with
    ⟨left, sending⟩ | ⟨cause, left, sending, shorter⟩
  · rw [leaves_of_ok sending] at notes
    have goesOn : flush (link, session) = (do
        if 0 < 0 + session.outbox.length then linked saveConversations
        return 0 + session.outbox.length : LinkedM τ MemoryStore η Nat) left :=
      bind_of_ok sending _
    refine .inl ?_
    by_cases some : 0 < 0 + session.outbox.length
    · rw [if_pos some] at goesOn
      obtain ⟨store, saved⟩ : ∃ store,
          left.2.conversations.save left.2.store left.2.me = .ok store := ⟨_, rfl⟩
      refine ⟨0 + session.outbox.length, left.1, { left.2 with store }, ?_,
        .stored notes.me_eq notes.storable ?_⟩
      · rw [goesOn]
        have stored : linked (saveConversations : SessionM MemoryStore η Unit) left =
            .ok () (left.1, { left.2 with store }) := by
          unfold linked saveConversations
          dsimp only
          rw [saved]
        exact bind_of_ok stored _
      · rwa [← notes.store_eq, ← notes.me_eq]
    · rw [if_neg some] at goesOn
      have nothing : session.outbox = [] := List.eq_nil_of_length_eq_zero (by omega)
      rw [nothing] at notes
      exact ⟨_, left.1, left.2, goesOn,
        .apart notes.me_eq (congrArg _ notes.store_eq) notes.conversations_eq⟩
  · rw [leaves_of_error sending] at notes
    exact .inr ⟨cause, left.1, left.2, bind_of_error sending _, notes, shorter⟩

end Flush

/-! ## Runs of requests -/

/-- A flush fails after it has sent content that changes the list. -/
def Spills (before after : Session MemoryStore η) : Prop :=
  ∃ (τ : Type) (_ : Transport τ) (link moved : τ) (cause : SessionError),
    flush (link, before) = .error cause (moved, after) ∧
      before.conversations.noteAll before.me (dispatched link before.outbox) ≠
        before.conversations

/-- A flush that fails leaves the stored list as it was. -/
theorem Spills.load_eq (spills : Spills before after) :
    ConversationList.load after.store after.me = ConversationList.load before.store before.me ∧
      after.conversations ≠ before.conversations := by
  obtain ⟨τ, transport, link, moved, cause, failed, changed⟩ := spills
  rcases flush_cases link before with ⟨_, _, _, done, -⟩ | ⟨_, _, _, failing, notes, -⟩
  · cases failed.symm.trans done
  · cases failed.symm.trans failing
    rw [notes.store_eq, notes.me_eq, notes.conversations_eq]
    exact ⟨rfl, changed⟩

/-- A flush spills only if it sends one message and fails at another one. -/
theorem Spills.two_wait (spills : Spills before after) : 2 ≤ before.outbox.length := by
  obtain ⟨τ, transport, link, moved, cause, failed, changed⟩ := spills
  rcases flush_cases link before with ⟨_, _, _, done, -⟩ | ⟨_, _, _, -, -, unsent⟩
  · cases failed.symm.trans done
  · have some : dispatched link before.outbox ≠ [] := by
      intro nothing
      rw [nothing] at changed
      exact changed rfl
    have one := List.length_pos_iff.mpr some
    omega

/-- Where at most one message waits at a time, no flush spills. -/
theorem isChain_not_spills {sessions : List (Session MemoryStore η)}
    (oneWaits : ∀ session ∈ sessions, session.outbox.length ≤ 1) :
    List.IsChain (fun before after => ¬Spills before after) sessions := by
  refine (List.pairwise_of_forall_mem_list fun before member _ _ spills => ?_).isChain
  exact absurd (oneWaits before member) (Nat.not_le.mpr spills.two_wait)

variable {submits : Message → Prop} [HistorySource η]

/-- A request after which the list may not be stored is a flush that spills. -/
theorem Listed.request (listed : before.Listed)
    (counted : before.conversations.entries.length < UInt64.size)
    (request : Request submits before after) (kept : ¬Spills before after) : after.Listed := by
  cases request with
  | receive frame => exact listed.follows (relists_receive frame)
  | catchUp channel => exact listed.follows (follows_catchUp channel before).relists
  | openConversation peer => exact listed.follows (relists_openConversation peer)
  | loadOlder channel => exact listed.follows (relists_loadOlder channel)
  | submit submitted => exact listed.follows relists_submit
  | @flush τ transport link =>
      rcases flush_cases link before with
        ⟨_, _, _, done, change⟩ | ⟨_, moved, left, failed, notes, -⟩
      · rw [leaves_of_ok done]
        exact listed.relists change
      · rw [leaves_of_error failed] at kept ⊢
        have same : left.conversations = before.conversations := by
          rw [notes.conversations_eq]
          exact Decidable.not_not.mp fun changed =>
            kept ⟨τ, transport, link, moved, _, failed, changed⟩
        exact listed.relists (.apart notes.me_eq (congrArg _ notes.store_eq) same)
  | disconnect => exact listed.follows relists_disconnect
  | reload => rwa [leaves_of_ok (reload_of_stored (listed.stored counted))]
  | takeEvents => exact listed.relists (.apart rfl rfl rfl)
  | answers history => exact listed.relists (.apart rfl rfl rfl)

/-- Along a run from a session whose list is stored, it stays stored exactly if no flush spills. -/
theorem Listed.run (listed : before.Listed)
    (counted : before.conversations.entries.length < UInt64.size)
    {sessions : List (Session MemoryStore η)}
    (run : List.IsChain (Request submits) (before :: sessions))
    (allCounted : ∀ session ∈ sessions,
      session.conversations.entries.length < UInt64.size) :
    (∀ session ∈ sessions,
        ConversationList.load session.store session.me = .ok session.conversations) ↔
      List.IsChain (fun before after => ¬Spills before after) (before :: sessions) := by
  induction sessions generalizing before with
  | nil => exact iff_of_true (List.forall_mem_nil _) (List.isChain_singleton before)
  | cons after rest ih =>
      obtain ⟨request, further⟩ := List.isChain_cons_cons.mp run
      obtain ⟨afterCounted, restCounted⟩ := List.forall_mem_cons.mp allCounted
      rw [List.forall_mem_cons, List.isChain_cons_cons]
      by_cases spills : Spills before after
      · obtain ⟨unchanged, changed⟩ := spills.load_eq
        refine iff_of_false (fun stored => changed ?_) fun kept => kept.1 spills
        have loaded := (listed.stored counted).symm.trans (unchanged.symm.trans stored.1)
        exact (Except.ok.inj loaded).symm
      · have keeps := listed.request counted request spills
        rw [ih keeps afterCounted further restCounted]
        exact and_congr_left fun _ => iff_of_true (keeps.stored afterCounted) spills

/-- Along every run of requests from an empty store, whether they answer or fail, the stored list is
the one at hand, and loading it changes nothing, exactly if no flush fails after it has sent content
that changes the list. -/
theorem list_stored_iff_no_spill {me : AccountId} {config : SessionConfig} {history : η}
    {sessions : List (Session MemoryStore η)}
    (run : List.IsChain (Request submits)
      (start me config MemoryStore.empty history :: sessions))
    (counted : ∀ session ∈ sessions, session.conversations.entries.length < UInt64.size) :
    (∀ session ∈ sessions,
        ConversationList.load session.store session.me = .ok session.conversations ∧
          reload session = .ok () session) ↔
      List.IsChain (fun before after => ¬Spills before after)
        (start me config MemoryStore.empty history :: sessions) := by
  have none : ConversationList.empty.entries.length < UInt64.size := by decide
  rw [← (listed_start me config history).run none run counted]
  exact forall₂_congr fun session _ => and_iff_left_of_imp reload_of_stored

/-- The sessions on the way to an acknowledged text: a text arrives, another one is submitted and
sent, and its acknowledgement arrives. -/
def toAcknowledged : List (Session MemoryStore Silence) :=
  let fresh : Session MemoryStore Silence := start 1 ⟨8, 8, {}⟩ MemoryStore.empty Silence.silence
  let received := leaves (receive (Message.bareText 2 1 1 900).spelling) fresh
  let submitted := leaves (submit (.bareText 1 2 0 1000)) received
  let flushed := (leaves flush (connected, submitted)).2
  [received, submitted, flushed, leaves (receive textAck.spelling) flushed]

theorem run_toAcknowledged : List.IsChain (Request (· = .bareText 1 2 0 1000))
    (start 1 ⟨8, 8, {}⟩ MemoryStore.empty Silence.silence :: toAcknowledged) := by
  unfold toAcknowledged
  refine .cons_cons (.receive _ _) (.cons_cons (.submit _ ?_) (.cons_cons (.flush _ connected)
    (.cons_cons (.receive _ _) (.singleton _))))
  rfl

/-- Never more than one message waits on this way, so the list is stored after every request. -/
theorem stored_until_acknowledged :
    List.IsChain (Request (· = .bareText 1 2 0 1000))
        (start 1 ⟨8, 8, {}⟩ MemoryStore.empty Silence.silence :: toAcknowledged) ∧
      (∀ session ∈ toAcknowledged, session.conversations.entries.length < UInt64.size) ∧
      ∀ session ∈ toAcknowledged,
        ConversationList.load session.store session.me = .ok session.conversations ∧
          reload session = .ok () session := by
  have lengths : toAcknowledged.map (fun session =>
      (session.conversations.entries.length, session.outbox.length)) =
        [(1, 0), (1, 1), (1, 0), (1, 0)] := by decide +kernel
  have small : ∀ session ∈ toAcknowledged,
      session.conversations.entries.length < UInt64.size ∧ session.outbox.length ≤ 1 := by
    intro session member
    have listed := lengths ▸ List.mem_map_of_mem (f := fun session : Session MemoryStore Silence =>
      (session.conversations.entries.length, session.outbox.length)) member
    have each : ∀ pair ∈ [(1, 0), (1, 1), (1, 0), (1, 0)],
        pair.1 < UInt64.size ∧ pair.2 ≤ 1 := by decide
    exact each _ listed
  have counted : ∀ session ∈ toAcknowledged,
      session.conversations.entries.length < UInt64.size := fun session member =>
    (small session member).1
  refine ⟨run_toAcknowledged, counted, (list_stored_iff_no_spill run_toAcknowledged counted).mpr ?_⟩
  refine isChain_not_spills (List.forall_mem_cons.mpr ⟨Nat.zero_le 1, fun session member => ?_⟩)
  exact (small session member).2

/-- A connection that fails after one message. -/
def frail : Flaky Link :=
  { link := connected, sends := some 1 }

/-- The sessions on the way to a spilled list: two texts are submitted, and the connection fails
after the first one is sent. -/
def toSpilled : List (Session MemoryStore Silence) :=
  let fresh : Session MemoryStore Silence := start 1 ⟨8, 8, {}⟩ MemoryStore.empty Silence.silence
  let once := leaves (submit (.bareText 1 2 0 1000)) fresh
  let twice := leaves (submit (.bareText 1 2 0 1001)) once
  [once, twice, (leaves flush (frail, twice)).2]

/-- The list after the failed flush is not the stored one, and is lost when the stored one is
loaded. -/
theorem spilled_and_lost :
    ∃ sessions : List (Session MemoryStore Silence),
      List.IsChain (Request fun _ => True)
        (start 1 ⟨8, 8, {}⟩ MemoryStore.empty Silence.silence :: sessions) ∧
      ∃ session ∈ sessions,
        ConversationList.load session.store session.me ≠ .ok session.conversations ∧
        (leaves reload session).conversations ≠ session.conversations := by
  have run : List.IsChain (Request fun _ => True)
      (start 1 ⟨8, 8, {}⟩ MemoryStore.empty Silence.silence :: toSpilled) := by
    unfold toSpilled
    exact .cons_cons (.submit _ trivial) (.cons_cons (.submit _ trivial)
      (.cons_cons (.flush _ frail) (.singleton _)))
  let spilled := (leaves flush (frail, leaves (submit (.bareText 1 2 0 1001))
    (leaves (submit (.bareText 1 2 0 1000))
      (start 1 ⟨8, 8, {}⟩ MemoryStore.empty Silence.silence)))).2
  have loaded : ConversationList.load spilled.store spilled.me = .ok ⟨[]⟩ := by decide +kernel
  have known : spilled.conversations = ⟨[⟨2, 1000, "", 0, .text⟩]⟩ := by decide +kernel
  have reloaded : (leaves reload spilled).conversations = ⟨[]⟩ := by decide +kernel
  refine ⟨toSpilled, run, spilled, ?_, ?_, ?_⟩
  · unfold toSpilled
    simp [spilled]
  · rw [loaded, known]
    decide
  · rw [reloaded, known]
    decide

end Session

end Messenger
