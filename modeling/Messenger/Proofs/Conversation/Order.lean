import Messenger.Conversation.Stored
import Messenger.Proofs.Sorting

/-!
# The order of a conversation list

A list that was arranged has the latest activity first.  To account for a message in such a
list changes the summaries of its peer, depending on these only, and leaves those of all
other peers.
-/

namespace Messenger.ConversationList

/-- The latest activity comes first. -/
def Arranged (list : ConversationList) : Prop :=
  list.entries.Pairwise fun a b => b.lastActivity ≤ a.lastActivity

/-- The summaries of a peer.  There is more than one only if a stored list had more. -/
def about (list : ConversationList) (peer : AccountId) : List Conversation :=
  list.entries.filter fun entry => entry.peer = peer

theorem later_trans (a b c : Conversation)
    (first : decide (b.lastActivity ≤ a.lastActivity) = true)
    (second : decide (c.lastActivity ≤ b.lastActivity) = true) :
    decide (c.lastActivity ≤ a.lastActivity) = true :=
  decide_eq_true (UInt64.le_trans (of_decide_eq_true second) (of_decide_eq_true first))

theorem later_total (a b : Conversation) :
    (decide (b.lastActivity ≤ a.lastActivity) ||
      decide (a.lastActivity ≤ b.lastActivity)) = true := by
  simpa using UInt64.le_total b.lastActivity a.lastActivity

theorem arranged_arrange (entries : List Conversation) : (arrange entries).Arranged :=
  (List.pairwise_mergeSort later_trans later_total entries).imp of_decide_eq_true

/-- Arranging keeps the order of summaries among which the latest activity comes first. -/
theorem about_arrange {entries : List Conversation} {peer : AccountId}
    (sorted : (about ⟨entries⟩ peer).Pairwise fun a b => b.lastActivity ≤ a.lastActivity) :
    (arrange entries).about peer = about ⟨entries⟩ peer :=
  filter_mergeSort later_trans later_total (sorted.imp decide_eq_true)

theorem find?_eq_head?_about (list : ConversationList) (peer : AccountId) :
    list.find? peer = (list.about peer).head? :=
  (List.head?_filter ..).symm

theorem find?_eq_none_iff {list : ConversationList} {peer : AccountId} :
    list.find? peer = none ↔ peer ∉ list.entries.map Conversation.peer := by
  unfold find?
  rw [List.find?_eq_none, List.mem_map]
  simp only [decide_eq_true_eq, not_exists, not_and]

theorem mem_of_find?_eq_some {list : ConversationList} {peer : AccountId} {entry : Conversation}
    (found : list.find? peer = some entry) : entry ∈ list.entries ∧ entry.peer = peer := by
  unfold find? at found
  exact ⟨List.mem_of_find?_eq_some found, by simpa using List.find?_some found⟩

theorem about_change_of_ne {peer other : AccountId} (different : other ≠ peer)
    {f : Conversation → Conversation} (keeps : ∀ entry, entry.peer = peer → (f entry).peer = peer)
    (entries : List Conversation) :
    about ⟨change peer f entries⟩ other = about ⟨entries⟩ other := by
  induction entries with
  | nil => rfl
  | cons first rest ih =>
      unfold about at ih ⊢
      unfold change
      dsimp only at ih ⊢
      split
      · next here =>
          rw [List.filter_cons_of_neg, List.filter_cons_of_neg]
          · simpa [here] using different.symm
          · simpa [keeps first here] using different.symm
      · rw [List.filter_cons, List.filter_cons, ih]

theorem about_change_self (peer : AccountId) {f : Conversation → Conversation}
    (keeps : ∀ entry, entry.peer = peer → (f entry).peer = peer) (entries : List Conversation) :
    about ⟨change peer f entries⟩ peer = (about ⟨entries⟩ peer).modifyHead f := by
  induction entries with
  | nil => rfl
  | cons first rest ih =>
      unfold about at ih ⊢
      unfold change
      dsimp only at ih ⊢
      split
      · next here =>
          rw [List.filter_cons_of_pos (by simpa using keeps first here),
            List.filter_cons_of_pos (by simpa using here)]
          rfl
      · next elsewhere =>
          rw [List.filter_cons_of_neg (by simpa using elsewhere),
            List.filter_cons_of_neg (by simpa using elsewhere), ih]

section Noting

variable {list other : ConversationList} {peer : AccountId} {message : Message}
  {countsUnread : Bool}

theorem Arranged.about (arranged : list.Arranged) (peer : AccountId) :
    (list.about peer).Pairwise fun a b => b.lastActivity ≤ a.lastActivity :=
  List.Pairwise.filter _ arranged

/-- Accounting for a message keeps the order. -/
theorem Arranged.noteMessage (arranged : list.Arranged) (peer : AccountId) (message : Message)
    (countsUnread : Bool) : (list.noteMessage peer message countsUnread).Arranged := by
  unfold ConversationList.noteMessage
  dsimp only
  split
  · exact arranged_arrange _
  · split
    · exact arranged
    · exact arranged_arrange _

/-- What a message makes of the summaries of its peer. -/
def accounted (peer : AccountId) (message : Message) (countsUnread : Bool) :
    List Conversation → List Conversation
  | [] => [summarize peer message (unreadBy peer message countsUnread)]
  | entry :: rest =>
      if message.header.timestamp < entry.lastActivity then entry :: rest
      else summarize peer message (entry.unread + unreadBy peer message countsUnread) :: rest

/-- What becomes of the summaries of a peer depends on these only. -/
theorem about_noteMessage_self (arranged : list.Arranged) :
    (list.noteMessage peer message countsUnread).about peer =
      accounted peer message countsUnread (list.about peer) := by
  have sorted := arranged.about peer
  have search := find?_eq_head?_about list peer
  unfold ConversationList.noteMessage
  dsimp only
  cases summaries : list.about peer with
  | nil =>
      rw [summaries] at search
      rw [search]
      have added : ConversationList.about
          ⟨list.entries ++ [summarize peer message (unreadBy peer message countsUnread)]⟩ peer =
          [summarize peer message (unreadBy peer message countsUnread)] := by
        unfold ConversationList.about at summaries ⊢
        rw [List.filter_append, summaries]
        simp [summarize]
      rw [List.head?_nil]
      dsimp only
      rw [about_arrange, added]
      · rfl
      · rw [added]
        exact List.pairwise_singleton ..
  | cons entry rest =>
      rw [summaries] at search sorted
      rw [search, List.head?_cons]
      dsimp only [accounted]
      split
      · exact summaries
      · next notBefore =>
          obtain ⟨ordered, sortedRest⟩ := List.pairwise_cons.mp sorted
          have changed := about_change_self peer (f := fun entry =>
            summarize peer message (entry.unread + unreadBy peer message countsUnread))
            (fun _ _ => rfl) list.entries
          rw [show about ⟨list.entries⟩ peer = _ from summaries, List.modifyHead_cons] at changed
          rw [about_arrange, changed]
          rw [changed]
          refine List.pairwise_cons.mpr ⟨fun later behind => ?_, sortedRest⟩
          exact UInt64.le_trans (ordered later behind) (UInt64.not_lt.mp notBefore)

/-- The summaries of the other peers stay as they are. -/
theorem about_noteMessage_of_ne {another : AccountId} (arranged : list.Arranged)
    (different : another ≠ peer) :
    (list.noteMessage peer message countsUnread).about another = list.about another := by
  have sorted := arranged.about another
  unfold ConversationList.noteMessage
  dsimp only
  split
  · have added : ConversationList.about
        ⟨list.entries ++ [summarize peer message (unreadBy peer message countsUnread)]⟩ another =
        list.about another := by
      unfold ConversationList.about
      rw [List.filter_append, List.filter_cons_of_neg, List.filter_nil, List.append_nil]
      exact fun same => different (of_decide_eq_true same).symm
    rw [about_arrange (added ▸ sorted), added]
  · split
    · rfl
    · have changed := about_change_of_ne different (f := fun entry =>
        summarize peer message (entry.unread + unreadBy peer message countsUnread))
        (fun _ _ => rfl) list.entries
      rw [about_arrange (changed ▸ sorted), changed]

/-- Whether there is room depends on the summaries of the peer only. -/
theorem hasRoom_congr (same : other.about peer = list.about peer) :
    other.hasRoom peer message countsUnread = list.hasRoom peer message countsUnread := by
  unfold hasRoom
  rw [find?_eq_head?_about, find?_eq_head?_about, same]

end Noting

/-! ## Other changes -/

section Changes

variable {list : ConversationList}

theorem Arranged.noteConfirmation (arranged : list.Arranged) (peer : AccountId) (time : UInt64) :
    (list.noteConfirmation peer time).Arranged := by
  unfold ConversationList.noteConfirmation
  split
  · exact arranged
  · exact arranged_arrange _

theorem arranged_noteRoster (list : ConversationList) (roster : List (AccountId × UInt64)) :
    (list.noteRoster roster).Arranged :=
  arranged_arrange _

/-- A change that leaves some data of the peer's conversation leaves these data of all. -/
theorem map_change {α : Type} {data : Conversation → α} {peer : AccountId}
    {f : Conversation → Conversation}
    (same : ∀ entry, entry.peer = peer → data (f entry) = data entry)
    (entries : List Conversation) : (change peer f entries).map data = entries.map data := by
  induction entries with
  | nil => rfl
  | cons first rest ih =>
      unfold change
      split
      · next here => rw [List.map_cons, List.map_cons, same first here]
      · rw [List.map_cons, List.map_cons, ih]

theorem map_peer_change {peer : AccountId} {f : Conversation → Conversation}
    (keeps : ∀ entry, entry.peer = peer → (f entry).peer = peer) (entries : List Conversation) :
    (change peer f entries).map Conversation.peer = entries.map Conversation.peer :=
  map_change (fun entry here => (keeps entry here).trans here.symm) entries

theorem change_id (peer : AccountId) (entries : List Conversation) :
    change peer id entries = entries := by
  have same : (change peer id entries).map id = entries.map id :=
    map_change (fun _ _ => rfl) entries
  rwa [List.map_id, List.map_id] at same

theorem Arranged.clearUnread (arranged : list.Arranged) (peer : AccountId) :
    (list.clearUnread peer).Arranged := by
  have activities : (list.entries.map Conversation.lastActivity).Pairwise fun a b => b ≤ a :=
    List.pairwise_map.mpr arranged
  have same : (list.clearUnread peer).entries.map Conversation.lastActivity =
      list.entries.map Conversation.lastActivity :=
    map_change (f := fun entry => { entry with unread := 0 }) (fun _ _ => rfl) list.entries
  exact List.pairwise_map.mp (same ▸ activities)

/-- Whatever is stored, the list that is loaded is arranged. -/
theorem arranged_of_load {σ : Type} [MessageStore σ] {store : σ} {account : AccountId}
    (loaded : load store account = .ok list) : list.Arranged := by
  unfold load at loaded
  cases found : MessageStore.typedValue (List Conversation) store (storageKey account) with
  | error cause =>
      rw [found] at loaded
      cases loaded
  | ok entries =>
      rw [found] at loaded
      cases loaded
      exact arranged_arrange _

end Changes

end Messenger.ConversationList
