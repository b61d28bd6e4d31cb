import Mathlib.Data.List.Permutation
import Messenger.Proofs.Conversation.Activity

/-!
# Messages in any order

A list that accounts for messages shows of every peer the newest one, in whatever order the
messages come, as long as no two messages of a peer have the same time.  Only which messages are
counted as unread depends on the order: an older message than the latest is not counted.
-/

namespace Messenger

/-- A conversation apart from its count of unread messages. -/
def Conversation.shown (conversation : Conversation) : Conversation :=
  { conversation with unread := 0 }

namespace ConversationList

/-! ## Accounting for many messages -/

/-- A message to account for in the conversation with a peer. -/
structure Notice where
  peer : AccountId
  message : Message
  countsUnread : Bool
deriving DecidableEq, Repr

namespace Notice

/-- What a notice says, whether or not it is counted. -/
def said (notice : Notice) : AccountId × Message :=
  (notice.peer, notice.message)

/-- Account for a notice. -/
def note (list : ConversationList) (notice : Notice) : ConversationList :=
  list.noteMessage notice.peer notice.message notice.countsUnread

/-- Account for a notice, unless the unread messages could no longer be counted. -/
def note? (list : ConversationList) (notice : Notice) : Option ConversationList :=
  list.noteMessage? notice.peer notice.message notice.countsUnread

end Notice

/-- The list that accounts for notices one after the other. -/
def noticed (notices : List Notice) : ConversationList :=
  notices.foldl Notice.note empty

/-- The same, unless the unread messages could no longer be counted. -/
def noticed? (notices : List Notice) : Option ConversationList :=
  notices.foldlM Notice.note? empty

section Checked

variable {list : ConversationList} {notices : List Notice}

theorem note_of_note? {notice : Notice} {after : ConversationList}
    (noted : notice.note? list = some after) : notice.note list = after := by
  unfold Notice.note? noteMessage? at noted
  split at noted
  · exact Option.some.inj noted
  · cases noted

/-- Where the unread messages are counted, the list is the one that does without a check. -/
theorem foldl_note_of_foldlM_note? {after : ConversationList}
    (noted : notices.foldlM Notice.note? list = some after) :
    notices.foldl Notice.note list = after := by
  induction notices generalizing list with
  | nil => exact Option.some.inj noted
  | cons notice rest ih =>
      rw [List.foldlM_cons] at noted
      obtain ⟨next, first, others⟩ := Option.bind_eq_some_iff.mp noted
      rw [List.foldl_cons, note_of_note? first]
      exact ih others

/-- The unread messages of so few notices can be counted. -/
theorem foldlM_note?_of_few (recorded : Nat)
    (counted : ∀ entry ∈ list.entries, entry.unread.toNat ≤ recorded)
    (few : recorded + notices.length < UInt32.size) :
    notices.foldlM Notice.note? list = some (notices.foldl Notice.note list) := by
  induction notices generalizing list recorded with
  | nil => rfl
  | cons notice rest ih =>
      rw [List.length_cons] at few
      have first : notice.note? list = some (notice.note list) :=
        noteMessage?_of_few counted (by omega)
      rw [List.foldlM_cons, first]
      exact ih (recorded + 1) (unread_noteMessage_le counted) (by omega)

end Checked

/-! ## The newest message of every peer -/

/-- The time that a message gives for its peer. -/
def stamp (said : AccountId × Message) : AccountId × UInt64 :=
  (said.1, said.2.header.timestamp)

/-- What is shown of a message in the conversation with its peer. -/
def summary (said : AccountId × Message) : Conversation :=
  summarize said.1 said.2 0

/-- Of the messages of a peer the newest. -/
structure Newest (messages : List (AccountId × Message)) (newest : AccountId × Message) : Prop where
  member : newest ∈ messages
  le : ∀ other ∈ messages, other.1 = newest.1 →
    other.2.header.timestamp ≤ newest.2.header.timestamp

section Newest

variable {messages others : List (AccountId × Message)} {a b : AccountId × Message}

theorem Newest.perm (newest : Newest messages a) (same : messages.Perm others) :
    Newest others a where
  member := same.mem_iff.mp newest.member
  le other member := newest.le other (same.mem_iff.mpr member)

/-- A peer has one newest message, if no two messages of a peer have the same time. -/
theorem Newest.eq_of_peer_eq (timed : (messages.map stamp).Nodup) (first : Newest messages a)
    (second : Newest messages b) (same : a.1 = b.1) : a = b := by
  refine List.inj_on_of_nodup_map timed first.member second.member (Prod.ext same ?_)
  exact UInt64.le_antisymm (second.le a first.member same) (first.le b second.member same.symm)

end Newest

section Shown

variable {list : ConversationList} {notices others : List Notice}

theorem Tells.foldl_note {times : List (AccountId × UInt64)} (tells : Tells list.entries times)
    (notices : List Notice) :
    Tells (notices.foldl Notice.note list).entries
      (times ++ (notices.map Notice.said).map stamp) := by
  induction notices generalizing list times with
  | nil => rwa [List.map_nil, List.map_nil, List.append_nil]
  | cons notice rest ih =>
      rw [List.map_cons, List.map_cons, List.append_cons]
      exact ih (tells.noteMessage notice.peer notice.message notice.countsUnread)

theorem tells_noticed (notices : List Notice) :
    Tells (noticed notices).entries ((notices.map Notice.said).map stamp) :=
  tells_empty.foldl_note notices

/-- What is shown was said. -/
theorem forall_foldl_note {messages : List (AccountId × Message)}
    (each : ∀ entry ∈ list.entries, ∃ said ∈ messages, entry.shown = summary said) :
    ∀ entry ∈ (notices.foldl Notice.note list).entries,
      ∃ said ∈ messages ++ notices.map Notice.said, entry.shown = summary said := by
  induction notices generalizing list messages with
  | nil => rwa [List.map_nil, List.append_nil]
  | cons notice rest ih =>
      rw [List.map_cons, List.append_cons]
      refine ih (forall_noteMessage (fun entry member => ?_) ?_ fun _ _ _ => ?_)
      · obtain ⟨said, among, shows⟩ := each entry member
        exact ⟨said, List.mem_append_left _ among, shows⟩
      · exact ⟨notice.said, List.mem_append_right _ (List.mem_singleton_self _), rfl⟩
      · exact ⟨notice.said, List.mem_append_right _ (List.mem_singleton_self _), rfl⟩

/-- A conversation shows the newest message of its peer. -/
theorem exists_newest_of_mem {entry : Conversation} (member : entry ∈ (noticed notices).entries) :
    ∃ said, Newest (notices.map Notice.said) said ∧ entry.shown = summary said := by
  obtain ⟨said, among, shows⟩ := @forall_foldl_note empty notices [] nofun entry member
  have latest := (tells_noticed notices).latest entry member
  have peer : entry.peer = said.1 := congrArg Conversation.peer shows
  have time : entry.lastActivity = said.2.header.timestamp :=
    congrArg Conversation.lastActivity shows
  refine ⟨said, ⟨among, fun other spoken same => ?_⟩, shows⟩
  rw [← time]
  refine latest.le _ ?_
  rw [peer, ← same]
  exact List.mem_map_of_mem (f := stamp) spoken

/-- The newest messages of the peers are shown, and nothing else. -/
theorem mem_map_shown_noticed_iff (timed : ((notices.map Notice.said).map stamp).Nodup)
    {conversation : Conversation} :
    conversation ∈ (noticed notices).entries.map Conversation.shown ↔
      ∃ said, Newest (notices.map Notice.said) said ∧ summary said = conversation := by
  rw [List.mem_map]
  constructor
  · rintro ⟨entry, member, rfl⟩
    obtain ⟨said, newest, shows⟩ := exists_newest_of_mem member
    exact ⟨said, newest, shows.symm⟩
  · rintro ⟨said, newest, rfl⟩
    have named : said.1 ∈ ((notices.map Notice.said).map stamp).map Prod.fst :=
      List.mem_map_of_mem (f := Prod.fst) (List.mem_map_of_mem (f := stamp) newest.member)
    obtain ⟨entry, member, here⟩ := List.mem_map.mp (((tells_noticed notices).named _).mpr named)
    obtain ⟨other, latest, shows⟩ := exists_newest_of_mem member
    have same : other.1 = said.1 := (congrArg Conversation.peer shows).symm.trans here
    rw [Newest.eq_of_peer_eq timed latest newest same] at shows
    exact ⟨entry, member, shows⟩

theorem find?_noticed_eq_none_iff {peer : AccountId} :
    (noticed notices).find? peer = none ↔ ∀ notice ∈ notices, notice.peer ≠ peer := by
  have peers : ((notices.map Notice.said).map stamp).map Prod.fst = notices.map Notice.peer := by
    rw [List.map_map, List.map_map]
    rfl
  rw [find?_eq_none_iff, (tells_noticed notices).named, peers, List.mem_map]
  exact ⟨fun none notice among here => none ⟨notice, among, here⟩,
    fun none ⟨notice, among, here⟩ => none notice among here⟩

/-- Of conversations with distinct peers the one with a peer is found. -/
theorem map_shown_find?_eq_some_iff (nodup : (list.entries.map Conversation.peer).Nodup)
    {peer : AccountId} {conversation : Conversation} :
    (list.find? peer).map Conversation.shown = some conversation ↔
      conversation ∈ list.entries.map Conversation.shown ∧ conversation.peer = peer := by
  constructor
  · intro found
    obtain ⟨entry, search, rfl⟩ := Option.map_eq_some_iff.mp found
    obtain ⟨member, here⟩ := mem_of_find?_eq_some search
    exact ⟨List.mem_map_of_mem (f := Conversation.shown) member, here⟩
  · rintro ⟨shown, here⟩
    obtain ⟨entry, member, rfl⟩ := List.mem_map.mp shown
    replace here : entry.peer = peer := here
    cases search : list.find? peer with
    | none =>
        refine absurd ?_ (find?_eq_none_iff.mp search)
        exact here ▸ List.mem_map_of_mem member
    | some other =>
        obtain ⟨among, there⟩ := mem_of_find?_eq_some search
        cases List.inj_on_of_nodup_map nodup among member (there.trans here.symm)
        rfl

theorem nodup_map_shown (nodup : (list.entries.map Conversation.peer).Nodup) :
    (list.entries.map Conversation.shown).Nodup := by
  refine List.Nodup.of_map Conversation.peer ?_
  rwa [List.map_map]

theorem Arranged.foldl_note (arranged : list.Arranged) (notices : List Notice) :
    (notices.foldl Notice.note list).Arranged := by
  induction notices generalizing list with
  | nil => exact arranged
  | cons notice rest ih =>
      exact ih (arranged.noteMessage notice.peer notice.message notice.countsUnread)

theorem arranged_noticed (notices : List Notice) : (noticed notices).Arranged :=
  @Arranged.foldl_note empty .nil notices

end Shown

section Orders

variable {notices others : List Notice}

/-- The same messages in another order show the same conversations. -/
theorem mem_map_shown_noticed_of_perm
    (same : (notices.map Notice.said).Perm (others.map Notice.said))
    (timed : ((notices.map Notice.said).map stamp).Nodup) {conversation : Conversation} :
    conversation ∈ (noticed notices).entries.map Conversation.shown ↔
      conversation ∈ (noticed others).entries.map Conversation.shown := by
  have timedOthers := (same.map stamp).nodup_iff.mp timed
  rw [mem_map_shown_noticed_iff timed, mem_map_shown_noticed_iff timedOthers]
  exact exists_congr fun said => and_congr_left fun _ =>
    ⟨fun newest => newest.perm same, fun newest => newest.perm same.symm⟩

/-- If no two conversations have the same activity, their order is the same too. -/
theorem map_shown_noticed_of_perm (same : (notices.map Notice.said).Perm (others.map Notice.said))
    (timed : ((notices.map Notice.said).map stamp).Nodup)
    (apart : ((noticed notices).entries.map Conversation.lastActivity).Nodup) :
    (noticed notices).entries.map Conversation.shown =
      (noticed others).entries.map Conversation.shown := by
  have members := (List.perm_ext_iff_of_nodup (nodup_map_shown (tells_noticed notices).nodup)
    (nodup_map_shown (tells_noticed others).nodup)).mpr fun conversation =>
      mem_map_shown_noticed_of_perm same timed
  have times : (((noticed notices).entries.map Conversation.shown).map
      Conversation.lastActivity).Nodup := by rwa [List.map_map]
  -- Both lists are sorted by activity, and no two members are equal in it.
  refine @List.Perm.eq_of_pairwise _ (fun a b => b.lastActivity ≤ a.lastActivity) _ _
    ?_ ?_ ?_ members
  · intro a b inNotices inOthers lower higher
    exact List.inj_on_of_nodup_map times inNotices (members.mem_iff.mpr inOthers)
      (UInt64.le_antisymm higher lower)
  · exact List.pairwise_map.mpr (arranged_noticed notices)
  · exact List.pairwise_map.mpr (arranged_noticed others)

/-- Of messages without two of a peer at the same time, whatever order they come in and whichever
are counted as unread, every peer is shown the newest, a peer without messages is not shown, and
if no two peers are active at the same time, the peers are shown in the same order.  Where the
unread messages are counted, the list is the same, and those of fewer than `2 ^ 32` messages can
be counted. -/
theorem noticed_of_perm (same : (notices.map Notice.said).Perm (others.map Notice.said))
    (timed : ((notices.map Notice.said).map stamp).Nodup) :
    (∀ notice ∈ notices, ∃ said, Newest (notices.map Notice.said) said ∧ said.1 = notice.peer ∧
      ((noticed notices).find? notice.peer).map Conversation.shown = some (summary said)) ∧
    (∀ peer, (noticed notices).find? peer = none ↔ ∀ notice ∈ notices, notice.peer ≠ peer) ∧
    (∀ peer, ((noticed notices).find? peer).map Conversation.shown =
      ((noticed others).find? peer).map Conversation.shown) ∧
    (((noticed notices).entries.map Conversation.lastActivity).Nodup →
      (noticed notices).entries.map Conversation.shown =
        (noticed others).entries.map Conversation.shown) ∧
    (∀ list, noticed? notices = some list → noticed notices = list) ∧
    (notices.length < UInt32.size → noticed? notices = some (noticed notices)) := by
  refine ⟨fun notice among => ?_, fun peer => find?_noticed_eq_none_iff, fun peer => ?_,
    map_shown_noticed_of_perm same timed, fun list => foldl_note_of_foldlM_note?, fun few => ?_⟩
  · cases search : (noticed notices).find? notice.peer with
    | none => exact absurd rfl (find?_noticed_eq_none_iff.mp search notice among)
    | some entry =>
        obtain ⟨member, here⟩ := mem_of_find?_eq_some search
        obtain ⟨said, newest, shows⟩ := exists_newest_of_mem member
        have peer : said.1 = entry.peer := (congrArg Conversation.peer shows).symm
        exact ⟨said, newest, peer.trans here, congrArg some shows⟩
  · refine Option.ext fun conversation => ?_
    rw [map_shown_find?_eq_some_iff (tells_noticed notices).nodup,
      map_shown_find?_eq_some_iff (tells_noticed others).nodup,
      mem_map_shown_noticed_of_perm same timed]
  · exact foldlM_note?_of_few 0 nofun (by omega)

/-- The older message of a peer comes before or behind the newer one.  It is shown in neither
case, and counted as unread only if it comes before. -/
theorem noticed_of_older_message :
    let older : Notice := ⟨2, .bareText 2 1 0 100, true⟩
    let newer : Notice := ⟨2, .bareText 2 1 0 300, true⟩
    let between : Notice := ⟨3, .bareText 1 3 0 200, true⟩
    (noticed [older, between, newer]).entries.map Conversation.unread = [2, 0] ∧
      (noticed [newer, between, older]).entries.map Conversation.unread = [1, 0] ∧
      (noticed [older, between, newer]).entries.map Conversation.shown =
        (noticed [newer, between, older]).entries.map Conversation.shown := by
  intro older newer between
  have counted : (noticed [older, between, newer]).entries.map Conversation.unread =
      [2, 0] := by cbv
  have uncounted : (noticed [newer, between, older]).entries.map Conversation.unread =
      [1, 0] := by cbv
  have times : (noticed [older, between, newer]).entries.map Conversation.lastActivity =
      [300, 200] := by cbv
  have convergent :=
    @noticed_of_perm [older, between, newer] [newer, between, older] (by decide) (by decide)
  exact ⟨counted, uncounted, convergent.2.2.2.1 (times ▸ by decide)⟩

end Orders

end ConversationList

end Messenger
