import Messenger.Proofs.Conversation.Order
import Messenger.Proofs.Session.Reachable

/-!
# Arranged conversation lists

The conversation list of every reachable session has the latest activity first, whatever
list its store had at the start.
-/

namespace Messenger.Session

variable {σ η : Type} [MessageStore σ]

/-- An arranged list stays arranged. -/
def KeepsOrder (before after : Session σ η) : Prop :=
  before.conversations.Arranged → after.conversations.Arranged

namespace KeepsOrder

variable {before after : Session σ η}

omit [MessageStore σ] in
theorem of_same (same : after.conversations = before.conversations) : KeepsOrder before after :=
  fun arranged => same ▸ arranged

theorem of_syncChange {channel : Channel} (change : SyncChange channel before after) :
    KeepsOrder before after :=
  of_same (by cases change <;> rfl)

theorem of_browseChange {channel : Channel} (change : BrowseChange channel before after) :
    KeepsOrder before after := by
  cases change with
  | sync change => exact of_syncChange change
  | loaded found => exact of_same rfl

end KeepsOrder

variable {session : Session σ η}

omit [MessageStore σ] in
theorem arranged_leaves {α : Type} {request : SessionM σ η α}
    (follows : Follows KeepsOrder request session) (arranged : session.conversations.Arranged) :
    (leaves request session).conversations.Arranged :=
  preserved_run (P := fun session : Session σ η => session.conversations.Arranged)
    (fun _ _ change => change) follows arranged

theorem Follows.keepsOrder {α : Type} {channel : Channel} {request : SessionM σ η α}
    (follows : Follows (SyncChange channel) request session) :
    Follows KeepsOrder request session :=
  follows.mono fun _ _ => .of_syncChange

omit [MessageStore σ] in
theorem keepsOrder_emit (event : Event) : Follows KeepsOrder (emit event) session :=
  .modify (.of_same rfl)

theorem keepsOrder_saveConversations : Follows KeepsOrder saveConversations session := by
  unfold Follows leaves saveConversations
  cases session.conversations.save session.store session.me with
  | ok store => exact .single (.of_same rfl)
  | error cause => exact .refl

omit [MessageStore σ] in
theorem keepsOrder_note (peer : AccountId) (message : Message) (countsUnread : Bool) :
    Follows KeepsOrder (note peer message countsUnread) session := by
  unfold Follows leaves note ConversationList.noteMessage?
  split
  · next done =>
      split at done
      · next noted =>
          cases done
          split at noted
          · cases noted
            exact .single fun arranged => arranged.noteMessage peer message countsUnread
          · cases noted
      · cases done
  · next failed =>
      split at failed
      · cases failed
      · cases failed
        exact .refl

/-- To change the list and store it keeps its order if the change does. -/
theorem stores_keepsOrder {change : ConversationList → ConversationList}
    (keeps : ∀ list : ConversationList, list.Arranged → (change list).Arranged) :
    Stores (KeepsOrder : Session σ η → Session σ η → Prop) change :=
  Stores.of_follows (fun session => .modify (keeps session.conversations))
    fun _ => keepsOrder_saveConversations

theorem keepsOrder_anchor (channel : Channel) : Follows KeepsOrder (anchor channel) session := by
  unfold Follows leaves anchor
  cases session.tracker.isAnchored channel with
  | true => exact .refl
  | false =>
      cases MessageStore.latest session.store channel with
      | ok tail => exact .single (.of_same rfl)
      | error cause => exact .refl

section Requests

variable [HistorySource η]

theorem keepsOrder_receiveContent (message : Message) :
    Follows KeepsOrder (receiveContent message) session :=
  .receiveContent (keepsOrder_anchor _) (fun _ belongs => (follows_merge belongs).keepsOrder)
    fun inserted _ => .announce inserted
      (fun rest => .bind (keepsOrder_note _ _ _) fun _ _ _ =>
        .bind keepsOrder_saveConversations fun _ saved _ => rest saved)
      (fun event _ => keepsOrder_emit event) fun middle => (follows_catchUp _ middle).keepsOrder

theorem keepsOrder_receive (frame : Octets) : Follows KeepsOrder (receive frame) session := by
  apply Follows.receive
  intro message _
  apply Follows.receiveMessage
  · exact fun _ => keepsOrder_receiveContent message
  · exact fun _ => .receiveAck (fun _ _ _ => .of_same rfl) (fun _ _ _ _ => .of_same rfl)
      (fun peer time => stores_keepsOrder fun _ arranged => arranged.noteConfirmation peer time)
      fun event _ => keepsOrder_emit event
  · exact fun _ => .receiveRoster
      (fun roster => stores_keepsOrder fun list _ => list.arranged_noteRoster roster)
      (fun event _ => keepsOrder_emit event) fun _ _ _ _ =>
        .catchUpWith (fun _ _ _ => keepsOrder_anchor _)
          fun _ _ middle => (follows_catchUp _ middle).keepsOrder
  · exact fun _ => .receiveSync fun _ => (follows_finishSync _ session).keepsOrder
  · exact .receiveAuth (fun _ => .of_same rfl) fun event _ => keepsOrder_emit event
  · exact keepsOrder_emit

theorem keepsOrder_openConversation (peer : AccountId) :
    Follows KeepsOrder (openConversation peer) session :=
  .openConversation (.of_same rfl) (fun _ => .of_same rfl) (fun _ _ => .of_same rfl)
    (fun middle => (follows_catchUp _ middle).keepsOrder)
    (stores_keepsOrder fun _ arranged => arranged.clearUnread peer)

end Requests

theorem keepsOrder_reload : Follows KeepsOrder reload session := by
  unfold Follows leaves reload
  cases loaded : ConversationList.load session.store session.me with
  | ok conversations => exact .single fun _ => ConversationList.arranged_of_load loaded
  | error cause => exact .refl

theorem keepsOrder_flush {τ : Type} [Transport τ] (link : τ) (session : Session σ η) :
    Follows (Linked KeepsOrder) flush (link, session) := by
  refine .flush (fun _ => .of_same rfl) (fun {session message rest _} _ _ => ?_)
    (fun _ => keepsOrder_saveConversations) link session
  unfold noteSent
  split
  · exact fun arranged => arranged.noteMessage _ _ _
  · exact .of_same rfl

variable [HistorySource η] {submits : Message → Prop}

/-- Every reachable session has its conversations in order. -/
theorem Reachable.arranged (reachable : Reachable submits session) :
    session.conversations.Arranged := by
  induction reachable with
  | start => exact List.Pairwise.nil
  | receive _ frame ih => exact arranged_leaves (keepsOrder_receive frame) ih
  | catchUp _ channel ih => exact arranged_leaves (follows_catchUp channel _).keepsOrder ih
  | openConversation _ peer ih => exact arranged_leaves (keepsOrder_openConversation peer) ih
  | loadOlder _ channel ih =>
      exact arranged_leaves ((follows_loadOlder_within _ channel).mono fun _ _ =>
        KeepsOrder.of_browseChange) ih
  | submit _ _ ih => exact arranged_leaves (.submit fun _ => .of_same rfl) ih
  | flush _ link ih =>
      exact preserved_run (P := fun session : Session σ η => session.conversations.Arranged)
        (fun _ _ change => change) (session_of_linked (keepsOrder_flush link _)) ih
  | disconnect _ ih =>
      exact arranged_leaves (.bind (.modify (.of_same rfl)) fun _ _ _ => keepsOrder_emit _) ih
  | reload _ ih => exact arranged_leaves keepsOrder_reload ih
  | takeEvents _ ih => exact ih
  | answers _ history ih => exact ih

end Messenger.Session
