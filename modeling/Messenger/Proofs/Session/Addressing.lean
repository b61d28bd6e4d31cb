import Messenger.History.Scripted
import Messenger.Proofs.Channel.Names
import Messenger.Proofs.History.Drive
import Messenger.Proofs.Session.Arrival
import Messenger.Proofs.Session.Sparing

/-!
# Whom a session asks for history

All requests for the history of a channel name one peer, and this peer is the other party of
the channel exactly if the account is a party of it.  The channel of a group and a member
other than the account has no such peer: what is asked for it is never its history.
-/

namespace Messenger

/-- Content belongs to a channel of an account exactly if the account sent it, or it is addressed
to the account or to nobody. -/
theorem Message.has_channel_iff (message : Message) {me : AccountId} :
    (message.channel me).has me = true ↔
      message.header.sender = me ∨ message.header.receiver = me ∨ message.header.receiver = 0 := by
  unfold channel resolvedReceiver
  rw [Channel.has_between_iff]
  split
  · next nobody => simp [nobody]
  · next named => simp [named]

namespace Session

variable {σ η : Type} {channel : Channel}

/-- All that was asked in the meantime was asked of the peer of a channel. -/
structure Asks (channel : Channel) (before after : Session σ (Recorded η)) : Prop where
  me_eq : after.me = before.me
  requests : ∃ more, after.history.requests = before.history.requests ++ more ∧
    ∀ request ∈ more, request.peer = channel.other before.me

namespace Asks

variable {before middle after : Session σ (Recorded η)}

theorem of_same (me_eq : after.me = before.me) (history_eq : after.history = before.history) :
    Asks channel before after :=
  ⟨me_eq, [], by rw [history_eq, List.append_nil], List.forall_mem_nil _⟩

theorem refl (session : Session σ (Recorded η)) : Asks channel session session :=
  .of_same rfl rfl

theorem trans (first : Asks channel before middle) (second : Asks channel middle after) :
    Asks channel before after := by
  obtain ⟨me_eq, earlier, asked, peers⟩ := first
  obtain ⟨sameMe, later, askedLater, peersLater⟩ := second
  refine ⟨sameMe.trans me_eq, earlier ++ later, ?_, ?_⟩
  · rw [askedLater, asked, List.append_assoc]
  · rw [me_eq] at peersLater
    exact List.forall_mem_append.mpr ⟨peers, peersLater⟩

end Asks

theorem Follows.asks {α : Type} {request : SessionM σ (Recorded η) α}
    {session : Session σ (Recorded η)} (follows : Follows (Asks channel) request session) :
    Asks channel session (leaves request session) :=
  preserved_run (P := Asks channel session) (fun _ _ asks asked => asked.trans asks) follows
    (.refl session)

/-! ## What is asked for a channel -/

section Requests

variable [MessageStore σ] {session : Session σ (Recorded η)} {message : Message}

/-- A merge asks nothing. -/
theorem asks_merge (channel place : Channel) :
    Asks channel session (leaves (merge place message) session) := by
  cases numbered : message.seq? with
  | none =>
      rw [leaves_of_ok (merge_of_unnumbered numbered)]
      exact .of_same rfl rfl
  | some seq =>
      cases new : ((session.timeline place).insert message).1.isNew with
      | false =>
          rw [leaves_of_ok (merge_of_duplicate numbered new)]
          exact .of_same rfl rfl
      | true =>
          cases saving : MessageStore.save session.store place message with
          | ok saved =>
              rw [leaves_of_ok (merge_of_saved numbered new saving)]
              exact .of_same rfl rfl
          | error cause =>
              rw [leaves_of_error (merge_of_refused numbered new saving)]
              exact .of_same rfl rfl

omit [MessageStore σ] in
theorem asks_emit (event : Event) : Follows (Asks channel) (emit event) session :=
  .modify (.of_same rfl rfl)

theorem asks_takePage (channel : Channel) (page : Page) :
    Follows (Asks channel) (takePage channel page) session :=
  .takePage (fun _ _ _ _ => .single (asks_merge _ _)) (fun _ _ => .of_same rfl rfl)
    (fun _ => .bind (.modify (.of_same rfl rfl)) fun _ _ _ => asks_emit _) session

variable [HistorySource η]

/-- A cycle asks the peer that its cursor names. -/
theorem asks_catchUpFrom {session : Session σ (Recorded η)} {cursor : Cursor} (merged : Nat)
    (peer : cursor.peer = channel.other session.me) :
    Follows (Asks channel) (catchUpFrom channel cursor merged) session := by
  have asked : ∃ more, (Backfill.nextPage session.config.sync session.history cursor).2.requests =
      session.history.requests ++ more ∧
        ∀ request ∈ more, request.peer = channel.other session.me := by
    obtain ⟨count, -, -, sent⟩ :=
      Recorded.requests_nextPage session.config.sync session.history cursor
    exact ⟨_, sent, fun request member => List.eq_of_mem_replicate member ▸ peer⟩
  rw [catchUpFrom]
  apply Follows.get
  split
  · next fetched =>
      rw [fetched] at asked
      apply Follows.set (.single ⟨rfl, asked⟩)
      exact .bind (asks_emit _) fun _ _ _ => .pure _
  · next fetched =>
      rw [fetched] at asked
      exact .set (.single ⟨rfl, asked⟩) (.throw _)
  · next fetched =>
      rw [fetched] at asked
      exact .set (.single ⟨rfl, asked⟩) (.pure _)
  · next page moved history fetched =>
      rw [fetched] at asked
      apply Follows.set (.single ⟨rfl, asked⟩)
      apply Follows.bind (asks_takePage channel page)
      intro count middle took
      have taking : Follows (Asks channel) (takePage channel page) { session with history } :=
        asks_takePage channel page
      have same := taking.asks.me_eq
      rw [leaves_of_ok took] at same
      refine asks_catchUpFrom _ ?_
      rw [same, (Backfill.moved_of_nextPage fetched).2, Cursor.peer_advance, peer]
termination_by cursor.distance
decreasing_by exact Backfill.distance_lt_of_nextPage (by assumption)

theorem asks_catchUp (channel : Channel) : Follows (Asks channel) (catchUp channel) session := by
  apply Follows.get
  cases issued : session.tracker.issue channel with
  | mk plan tracker =>
      apply Follows.set (.single (.of_same rfl rfl))
      cases plan with
      | none => exact .pure _
      | some plan => exact asks_catchUpFrom 0 rfl

omit [HistorySource η] in
theorem asks_anchor (place : Channel) : Asks channel session (leaves (anchor place) session) := by
  unfold leaves anchor
  cases session.tracker.isAnchored place with
  | true => exact .refl session
  | false => cases MessageStore.latest session.store place <;> exact .of_same rfl rfl

omit [HistorySource η] in
theorem asks_saveConversations : Asks channel session (leaves saveConversations session) := by
  unfold leaves saveConversations
  cases session.conversations.save session.store session.me <;> exact .of_same rfl rfl

omit [MessageStore σ] [HistorySource η] in
theorem asks_note (peer : AccountId) (message : Message) (countsUnread : Bool) :
    Asks channel session (leaves (note peer message countsUnread) session) := by
  unfold leaves note
  cases session.conversations.noteMessage? peer message countsUnread <;> exact .of_same rfl rfl

theorem asks_announce (session merged : Session σ (Recorded η)) (inserted : Timeline.Inserted) :
    Follows (Asks (message.channel session.me)) (announce session message inserted) merged :=
  .announce inserted
    (fun rest => .bind (.single (asks_note _ _ _)) fun _ _ _ =>
      .bind (.single asks_saveConversations) fun _ saved _ => rest saved)
    (fun event _ => asks_emit event) fun _ => asks_catchUp _

theorem asks_receiveContent :
    Follows (Asks (message.channel session.me)) (receiveContent message) session :=
  .receiveContent (.single (asks_anchor _)) (fun _ _ => .single (asks_merge _ _))
    fun inserted merged => asks_announce session merged inserted

theorem asks_fetchPiece (channel : Channel) (added : Nat) (low high : UInt64)
    (session : Session σ (Recorded η)) :
    Follows (Asks channel) (fetchPiece channel added low high) session := by
  obtain ⟨count, -, -, asked⟩ := Recorded.requests_retry session.config.sync
    (session.pieceRequest channel (low, high)) Backfill.decodeAll
    session.config.sync.retry.attempts "" session.history
  have asks : Asks channel session { session with
      history := (Backfill.fetchMessages session.config.sync session.history
        (session.pieceRequest channel (low, high))).2 } :=
    ⟨rfl, _, asked, fun request member => List.eq_of_mem_replicate member ▸ rfl⟩
  have first := fetchPiece_eq channel added (low, high) session
  split at first
  · next fetched =>
      rw [fetched] at asks
      exact .of_error asks first
  · next fetched =>
      rw [fetched] at asks
      refine .of_eq asks first ?_
      exact .bind (.mergeAll (fun _ _ _ _ => .single (asks_merge _ _)) _ _ _) fun _ _ _ => .pure _

theorem asks_loadOlder (channel : Channel) :
    Follows (Asks channel) (loadOlder channel) session :=
  .loadOlder (fun _ => .of_same rfl rfl) (asks_fetchPiece channel)

end Requests

/-! ## Whether it is asked of the right peer -/

/-- What a request asks the source of history. -/
def asked {α : Type} (request : SessionM σ (Recorded η) α) (session : Session σ (Recorded η)) :
    List HistoryRequest :=
  (leaves request session).history.requests.drop session.history.requests.length

/-- All requests name a peer of an account whose channel with the account is a given one. -/
def Address (me : AccountId) (channel : Channel) (requests : List HistoryRequest) : Prop :=
  ∀ request ∈ requests, Channel.between me request.peer = channel

/-- What is asked for a channel is asked of its other party exactly if the account is a party. -/
theorem Asks.address_iff {α : Type} {request : SessionM σ (Recorded η) α}
    {session : Session σ (Recorded η)} {a b : AccountId}
    (asks : Asks (.between a b) session (leaves request session)) :
    Address session.me (.between a b) (asked request session) ↔
      asked request session = [] ∨ (Channel.between a b).has session.me = true := by
  obtain ⟨-, more, recorded, peers⟩ := asks
  have whole : asked request session = more := by
    unfold asked
    rw [recorded, List.drop_left]
  rw [whole, ← Channel.between_other_iff]
  unfold Address
  cases more with
  | nil => exact iff_of_true (List.forall_mem_nil _) (.inl rfl)
  | cons first rest =>
      constructor
      · intro address
        have firstRight := address first List.mem_cons_self
        rw [peers first List.mem_cons_self] at firstRight
        exact .inr firstRight
      · rintro (none | right) other member
        · cases none
        · rw [peers other member, right]

variable [MessageStore σ] [HistorySource η]

/-- What a session asks when it catches up with a channel, loads older messages of it or takes in
content of it is asked of the other party of the channel exactly if nothing is asked, or the account
is a party.  Content is of such a channel exactly if the account sent it, or it is addressed to the
account or to nobody. -/
theorem history_addressed_iff (session : Session σ (Recorded η)) :
    (∀ a b : AccountId, let channel := Channel.between a b
      (Address session.me channel (asked (catchUp channel) session) ↔
        asked (catchUp channel) session = [] ∨ channel.has session.me = true) ∧
      (Address session.me channel (asked (loadOlder channel) session) ↔
        asked (loadOlder channel) session = [] ∨ channel.has session.me = true)) ∧
    ∀ frame message, Message.decode frame = .ok message →
      message.header.kind.isContent = true →
      (Address session.me (message.channel session.me) (asked (receive frame) session) ↔
        asked (receive frame) session = [] ∨ message.header.sender = session.me ∨
          message.header.receiver = session.me ∨ message.header.receiver = 0) := by
  refine ⟨fun a b => ⟨?_, ?_⟩, fun frame message decoded content => ?_⟩
  · exact (asks_catchUp _).asks.address_iff
  · exact (asks_loadOlder _).asks.address_iff
  · rw [receive_eq_receiveContent decoded content]
    exact asks_receiveContent.asks.address_iff.trans (or_congr_right message.has_channel_iff)

/-- A session of account 1 that remembers what it asks a source without messages. -/
def remembering : Session MemoryStore (Recorded ScriptedHistory) :=
  start 1 ⟨8, 8, {}⟩ MemoryStore.empty ⟨{ me := 1 }, []⟩

/-- For a text that account 2 sends to account 1, account 2 is asked. -/
theorem text_asks_sender :
    Message.decode (Message.bareText 2 1 5 1005).spelling = .ok (.bareText 2 1 5 1005) ∧
      (Message.bareText 2 1 5 1005).header.kind.isContent = true ∧
      asked (receive (Message.bareText 2 1 5 1005).spelling) remembering = [⟨2, 1, 50⟩] ∧
      Address 1 ⟨1, 2⟩ (asked (receive (Message.bareText 2 1 5 1005).spelling) remembering) := by
  have decoded : Message.decode (Message.bareText 2 1 5 1005).spelling =
      .ok (.bareText 2 1 5 1005) := by decide +kernel
  have requests : asked (receive (Message.bareText 2 1 5 1005).spelling) remembering =
      [⟨2, 1, 50⟩] := by decide +kernel
  exact ⟨decoded, rfl, requests,
    ((history_addressed_iff remembering).2 _ _ decoded rfl).mpr (.inr (.inr (.inl rfl)))⟩

/-- For a text that account 5 sends to a group, account 5 is asked, whose channel with account 1 is
not the one of the text; yet that one is reported to have no more history. -/
theorem group_text_asks_member :
    ∃ session : Session MemoryStore (Recorded ScriptedHistory), ∃ frame message,
      Reachable (fun _ => False) session ∧ Message.decode frame = .ok message ∧
      message.header.kind.isContent = true ∧ isGroup message.header.receiver = true ∧
      ¬Address session.me (message.channel session.me) (asked (receive frame) session) ∧
      .syncCompleted (message.channel session.me) ∈ (leaves (receive frame) session).events := by
  let text := Message.bareText 5 68719476743 3 2000
  have decoded : Message.decode text.spelling = .ok text := by decide +kernel
  have requests : asked (receive text.spelling) remembering = [⟨5, 1, 50⟩] := by decide +kernel
  have events : (leaves (receive text.spelling) remembering).events =
      [.message ⟨5, 68719476743⟩ text, .syncCompleted ⟨5, 68719476743⟩] := by decide +kernel
  refine ⟨remembering, text.spelling, text, .start .., decoded, rfl, rfl, fun address => ?_, ?_⟩
  · rw [requests] at address
    exact absurd (address ⟨5, 1, 50⟩ List.mem_cons_self) (by decide)
  · rw [events]
    exact List.mem_cons_of_mem _ List.mem_cons_self

end Session

end Messenger
