import Messenger.Proofs.Session.Requests

/-!
# Sessions that requests can reach

A session is reachable if requests lead to it from a session that knows nothing,
whatever its store and its source of history are at the start, and however the
source changes between the requests.
-/

namespace Messenger.Session

variable {σ η : Type} [MessageStore σ]

variable [HistorySource η]

/-- The sessions that requests can reach if the owner only submits some messages. -/
inductive Reachable (submits : Message → Prop) : Session σ η → Prop where
  | start (me : AccountId) (config : SessionConfig) (store : σ) (history : η) :
      Reachable submits (start me config store history)
  | receive {session : Session σ η} (reachable : Reachable submits session) (frame : Octets) :
      Reachable submits (leaves (receive frame) session)
  | catchUp {session : Session σ η} (reachable : Reachable submits session)
      (channel : Channel) : Reachable submits (leaves (catchUp channel) session)
  | openConversation {session : Session σ η} (reachable : Reachable submits session)
      (peer : AccountId) : Reachable submits (leaves (openConversation peer) session)
  | loadOlder {session : Session σ η} (reachable : Reachable submits session)
      (channel : Channel) : Reachable submits (leaves (loadOlder channel) session)
  | submit {session : Session σ η} (reachable : Reachable submits session) {message : Message}
      (submitted : submits message) : Reachable submits (leaves (submit message) session)
  | flush {session : Session σ η} (reachable : Reachable submits session) {τ : Type}
      [Transport τ] (link : τ) : Reachable submits (leaves flush (link, session)).2
  | disconnect {session : Session σ η} (reachable : Reachable submits session) :
      Reachable submits (leaves disconnect session)
  | reload {session : Session σ η} (reachable : Reachable submits session) :
      Reachable submits (leaves reload session)
  | takeEvents {session : Session σ η} (reachable : Reachable submits session) :
      Reachable submits session.takeEvents.2
  /-- The source of history changed between requests. -/
  | answers {session : Session σ η} (reachable : Reachable submits session) (history : η) :
      Reachable submits { session with history }

/-- One request to a session whose owner only submits some messages, or what happens between
two requests. -/
inductive Request (submits : Message → Prop) : Session σ η → Session σ η → Prop where
  | receive (session : Session σ η) (frame : Octets) :
      Request submits session (leaves (receive frame) session)
  | catchUp (session : Session σ η) (channel : Channel) :
      Request submits session (leaves (catchUp channel) session)
  | openConversation (session : Session σ η) (peer : AccountId) :
      Request submits session (leaves (openConversation peer) session)
  | loadOlder (session : Session σ η) (channel : Channel) :
      Request submits session (leaves (loadOlder channel) session)
  | submit (session : Session σ η) {message : Message} (submitted : submits message) :
      Request submits session (leaves (submit message) session)
  | flush (session : Session σ η) {τ : Type} [Transport τ] (link : τ) :
      Request submits session (leaves flush (link, session)).2
  | disconnect (session : Session σ η) : Request submits session (leaves disconnect session)
  | reload (session : Session σ η) : Request submits session (leaves reload session)
  | takeEvents (session : Session σ η) : Request submits session session.takeEvents.2
  | answers (session : Session σ η) (history : η) :
      Request submits session { session with history }

/-- Requests lead from one session to another. -/
abbrev Later (submits : Message → Prop) : Session σ η → Session σ η → Prop :=
  Relation.ReflTransGen (Request submits)

variable {submits : Message → Prop}

/-- A request only makes changes that a session can make. -/
theorem Request.run {before after : Session σ η} (request : Request submits before after) :
    Relation.ReflTransGen (Change submits) before after := by
  cases request with
  | receive frame => exact follows_receive submits before frame
  | catchUp channel => exact (follows_catchUp channel before).sync
  | openConversation peer => exact follows_openConversation submits before peer
  | loadOlder channel => exact follows_loadOlder submits before channel
  | submit submitted => exact follows_submit submits before submitted
  | flush link => exact session_of_linked (follows_flush submits before link)
  | disconnect => exact follows_disconnect submits before
  | reload => exact follows_reload submits before
  | takeEvents => exact .single (.taken before)
  | answers history =>
      exact .single (.sync (SyncChange.asked before history : SyncChange default before _))

/-- What the changes of a session preserve is preserved by all later requests. -/
theorem Later.preserves {P : Session σ η → Prop}
    (preserved : ∀ before after, Change submits before after → P before → P after)
    {before after : Session σ η} (later : Later submits before after) (holds : P before) :
    P after := by
  induction later with
  | refl => exact holds
  | tail _ request ih => exact preserved_run preserved request.run ih

/-- Every reachable session is later than one that knows nothing. -/
theorem Reachable.exists_later {session : Session σ η} (reachable : Reachable submits session) :
    ∃ me config store history, Later submits (.start me config store history) session := by
  have further : ∀ {before after : Session σ η},
      (∃ me config store history, Later submits (.start me config store history) before) →
      Request submits before after →
      ∃ me config store history, Later submits (.start me config store history) after :=
    fun ⟨me, config, store, history, later⟩ request =>
      ⟨me, config, store, history, later.tail request⟩
  induction reachable with
  | start me config store history => exact ⟨me, config, store, history, .refl⟩
  | receive _ frame ih => exact further ih (.receive _ frame)
  | catchUp _ channel ih => exact further ih (.catchUp _ channel)
  | openConversation _ peer ih => exact further ih (.openConversation _ peer)
  | loadOlder _ channel ih => exact further ih (.loadOlder _ channel)
  | submit _ submitted ih => exact further ih (.submit _ submitted)
  | flush _ link ih => exact further ih (.flush _ link)
  | disconnect _ ih => exact further ih (.disconnect _)
  | reload _ ih => exact further ih (.reload _)
  | takeEvents _ ih => exact further ih (.takeEvents _)
  | answers _ history ih => exact further ih (.answers _ history)

/-- What holds of every session that knows nothing, and is preserved by every change, holds of
every reachable session. -/
theorem Reachable.invariant {P : Session σ η → Prop}
    (initially : ∀ me config store history, P (.start me config store history))
    (preserved : ∀ before after, Change submits before after → P before → P after)
    {session : Session σ η} (reachable : Reachable submits session) : P session := by
  obtain ⟨me, config, store, history, later⟩ := reachable.exists_later
  exact later.preserves preserved (initially me config store history)

end Messenger.Session
