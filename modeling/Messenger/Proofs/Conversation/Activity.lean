import Mathlib.Data.Fintype.Card
import Messenger.Proofs.Conversation.Storable
import Messenger.Proofs.Timeline.Insertion

/-!
# The latest activity of every peer

Whatever happens to a list of conversations, it has one conversation with every peer that was
named to it, and the time of a conversation is the latest of all times that were given for its
peer.  Messages and rosters name peers, so they always give times; a confirmation gives a time
only for a peer that was named before.

The order in which the conversations are stored plays no part in this, so the invariant is one
of the entries up to their order, and arranging them is a step like any other.
-/

namespace Messenger.ConversationList

/-! ## The latest of given times -/

/-- The latest of the times that are given for a peer. -/
structure IsLatest (times : List (AccountId × UInt64)) (peer : AccountId) (time : UInt64) :
    Prop where
  given : (peer, time) ∈ times
  le : ∀ other, (peer, other) ∈ times → other ≤ time

section Times

variable {times : List (AccountId × UInt64)} {peer : AccountId} {time : UInt64}

/-- What is given for one peer is nothing to the others. -/
theorem IsLatest.append_of_ne (latest : IsLatest times peer time) {named : AccountId × UInt64}
    (different : peer ≠ named.1) : IsLatest (times ++ [named]) peer time where
  given := List.mem_append_left _ latest.given
  le other member := by
    rcases List.mem_append.mp member with before | added
    · exact latest.le other before
    · exact absurd (congrArg Prod.fst (List.mem_singleton.mp added)) different

/-- Of a time more for the peer and the latest of those before, the later one is the latest. -/
theorem IsLatest.append (latest : IsLatest times peer time) (added : UInt64) :
    IsLatest (times ++ [(peer, added)]) peer (max time added) where
  given := by
    rw [UInt64.max_def]
    split
    · exact List.mem_append_right _ (List.mem_singleton_self _)
    · exact List.mem_append_left _ latest.given
  le other member := by
    rw [UInt64.le_iff_toNat_le, UInt64.toNat_max]
    rcases List.mem_append.mp member with before | last
    · exact Nat.le_trans (UInt64.le_iff_toNat_le.mp (latest.le other before)) (Nat.le_max_left ..)
    · cases List.mem_singleton.mp last
      exact Nat.le_max_right ..

/-- The first time for a peer is the latest. -/
theorem isLatest_append_of_notMem (fresh : peer ∉ times.map Prod.fst) :
    IsLatest (times ++ [(peer, time)]) peer time where
  given := List.mem_append_right _ (List.mem_singleton_self _)
  le other member := by
    rcases List.mem_append.mp member with before | added
    · exact absurd (List.mem_map_of_mem before) fresh
    · cases List.mem_singleton.mp added
      exact UInt64.le_refl _

end Times

/-! ## Conversations at their latest times -/

/-- There is one conversation with every peer that times are given for and with nobody else, each
at the latest of the times of its peer. -/
structure Tells (entries : List Conversation) (times : List (AccountId × UInt64)) : Prop where
  nodup : (entries.map Conversation.peer).Nodup
  named : ∀ peer, peer ∈ entries.map Conversation.peer ↔ peer ∈ times.map Prod.fst
  latest : ∀ entry ∈ entries, IsLatest times entry.peer entry.lastActivity

theorem tells_empty : Tells empty.entries [] where
  nodup := .nil
  named _ := .rfl
  latest := nofun

namespace Tells

variable {entries : List Conversation} {times : List (AccountId × UInt64)} {peer : AccountId}
  {time : UInt64}

theorem perm {other : List Conversation} (tells : Tells entries times)
    (same : other.Perm entries) : Tells other times where
  nodup := (same.map Conversation.peer).nodup_iff.mpr tells.nodup
  named peer := (same.map Conversation.peer).mem_iff.trans (tells.named peer)
  latest entry member := tells.latest entry (same.mem_iff.mp member)

theorem arrange (tells : Tells entries times) :
    Tells (ConversationList.arrange entries).entries times :=
  tells.perm (List.mergeSort_perm ..)

/-- A conversation with a new peer tells the first time of the peer. -/
theorem append_singleton (tells : Tells entries times) (added : Conversation)
    (fresh : added.peer ∉ entries.map Conversation.peer) :
    Tells (entries ++ [added]) (times ++ [(added.peer, added.lastActivity)]) where
  nodup := by
    rw [List.map_append]
    exact (List.perm_append_singleton ..).nodup_iff.mpr (List.nodup_cons.mpr ⟨fresh, tells.nodup⟩)
  named peer := by
    rw [List.map_append, List.map_append, List.mem_append, List.mem_append, tells.named peer]
    rfl
  latest := by
    refine forall_append_singleton (fun entry member => ?_) ?_
    · refine (tells.latest entry member).append_of_ne fun same : entry.peer = added.peer => fresh ?_
      exact same ▸ List.mem_map_of_mem member
    · exact isLatest_append_of_notMem (mt (tells.named _).mpr fresh)

/-- A conversation that is moved to a time of its peer, unless it is later already, tells the time
with those before. -/
theorem change {f : Conversation → Conversation} (tells : Tells entries times)
    (present : peer ∈ entries.map Conversation.peer)
    (keeps : ∀ entry, entry.peer = peer → (f entry).peer = peer)
    (moves : ∀ entry ∈ entries, entry.peer = peer →
      (f entry).lastActivity = max entry.lastActivity time) :
    Tells (ConversationList.change peer f entries) (times ++ [(peer, time)]) where
  nodup := by
    rw [map_peer_change keeps]
    exact tells.nodup
  named other := by
    rw [map_peer_change keeps, tells.named other, List.map_append, List.mem_append,
      List.map_singleton, List.mem_singleton]
    refine ⟨.inl, fun either => either.elim id fun same => ?_⟩
    exact same ▸ (tells.named peer).mp present
  latest := by
    refine forall_change_of_nodup tells.nodup (fun entry member elsewhere => ?_)
      fun entry member here => ?_
    · exact (tells.latest entry member).append_of_ne elsewhere
    · rw [keeps entry here, moves entry member here]
      exact (here ▸ tells.latest entry member).append time

/-- A time that a conversation is not behind changes nothing. -/
theorem append_of_le {entry : Conversation} (tells : Tells entries times)
    (member : entry ∈ entries) (late : time ≤ entry.lastActivity) :
    Tells entries (times ++ [(entry.peer, time)]) := by
  rw [← change_id entry.peer entries]
  refine tells.change (List.mem_map_of_mem member) (fun _ here => here) fun other among here => ?_
  cases List.inj_on_of_nodup_map tells.nodup among member here
  rw [UInt64.max_def]
  split
  · next early => exact UInt64.le_antisymm early late
  · rfl

/-! ## Operations -/

variable {list : ConversationList}

theorem noteMessage (tells : Tells list.entries times) (peer : AccountId) (message : Message)
    (countsUnread : Bool) :
    Tells (list.noteMessage peer message countsUnread).entries
      (times ++ [(peer, message.header.timestamp)]) := by
  unfold ConversationList.noteMessage
  dsimp only
  cases search : list.find? peer with
  | none =>
      have unnamed := find?_eq_none_iff.mp search
      exact (tells.append_singleton (summarize peer message _) unnamed).arrange
  | some entry =>
      obtain ⟨member, rfl⟩ := mem_of_find?_eq_some search
      dsimp only
      split
      · next earlier => exact tells.append_of_le member (UInt64.le_of_lt earlier)
      · next notEarlier =>
          refine arrange (tells.change (List.mem_map_of_mem member) ?_ fun other among here => ?_)
          · exact fun _ _ => rfl
          · cases List.inj_on_of_nodup_map tells.nodup among member here
            rw [UInt64.max_def, if_pos (UInt64.not_lt.mp notEarlier)]
            rfl

theorem admitPeer (tells : Tells entries times) (named : AccountId × UInt64) :
    Tells (ConversationList.admitPeer entries named) (times ++ [named]) := by
  unfold ConversationList.admitPeer
  cases search : find? ⟨entries⟩ named.1 with
  | none =>
      unfold find? at search
      rw [search]
      exact tells.append_singleton ⟨named.1, named.2, "", 0, .na⟩ (find?_eq_none_iff.mp search)
  | some entry =>
      obtain ⟨member, here⟩ := mem_of_find?_eq_some search
      unfold find? at search
      rw [search]
      exact tells.change (here ▸ List.mem_map_of_mem member) (fun _ here => here) fun _ _ _ => rfl

theorem noteRoster (tells : Tells list.entries times) (roster : List (AccountId × UInt64)) :
    Tells (list.noteRoster roster).entries (times ++ roster) := by
  refine arrange ?_
  generalize list.entries = entries at tells
  induction roster generalizing entries times with
  | nil => rwa [List.append_nil]
  | cons named rest ih =>
      rw [List.append_cons]
      exact ih _ (tells.admitPeer named)

/-- A confirmation for a peer without a conversation is dropped. -/
theorem noteConfirmation (tells : Tells list.entries times) (peer : AccountId) (time : UInt64) :
    Tells (list.noteConfirmation peer time).entries
      (times ++ if peer ∈ times.map Prod.fst then [(peer, time)] else []) := by
  unfold ConversationList.noteConfirmation
  cases search : list.find? peer with
  | none =>
      have unnamed := mt (tells.named peer).mpr (find?_eq_none_iff.mp search)
      rw [if_neg unnamed, List.append_nil]
      exact tells
  | some entry =>
      obtain ⟨member, rfl⟩ := mem_of_find?_eq_some search
      have present := List.mem_map_of_mem (f := Conversation.peer) member
      rw [if_pos ((tells.named _).mp present)]
      refine arrange (tells.change present ?_ ?_)
      · exact fun _ here => here
      · exact fun _ _ _ => rfl

theorem clearUnread (tells : Tells list.entries times) (peer : AccountId) :
    Tells (list.clearUnread peer).entries times := by
  have peers : (list.clearUnread peer).entries.map Conversation.peer =
      list.entries.map Conversation.peer :=
    map_peer_change (f := fun entry => { entry with unread := 0 }) (fun _ here => here) list.entries
  refine ⟨peers ▸ tells.nodup, fun other => peers ▸ tells.named other, ?_⟩
  exact forall_change tells.latest fun entry member _ => tells.latest entry member

/-- A peer of which more times are given has a conversation that is not behind the one before. -/
theorem exists_notBehind {before : List Conversation} {earlier : List (AccountId × UInt64)}
    (tells : Tells entries times) (told : Tells before earlier) (known : earlier ⊆ times) :
    ∀ entry ∈ before, ∃ now ∈ entries,
      now.peer = entry.peer ∧ entry.lastActivity ≤ now.lastActivity := by
  intro entry member
  have given := known (told.latest entry member).given
  obtain ⟨now, present, here⟩ :=
    List.mem_map.mp ((tells.named entry.peer).mpr (List.mem_map_of_mem given))
  exact ⟨now, present, here, (tells.latest now present).le _ (here ▸ given)⟩

/-- If somebody was not named, the conversations can be counted. -/
theorem length_lt (tells : Tells entries times) {stranger : AccountId}
    (unnamed : stranger ∉ times.map Prod.fst) : entries.length < UInt64.size := by
  have distinct : ((stranger :: entries.map Conversation.peer).map UInt64.toFin).Nodup :=
    (List.nodup_cons.mpr ⟨mt (tells.named stranger).mp unnamed, tells.nodup⟩).map
      fun _ _ => UInt64.toFin_inj.mp
  have fewer := distinct.length_le_card
  rwa [List.length_map, List.length_cons, List.length_map, Fintype.card_fin] at fewer

end Tells

/-! ## Unread messages -/

section Unread

variable {list : ConversationList} {recorded : Nat} {peer : AccountId} {message : Message}
  {countsUnread : Bool}

theorem toNat_unreadBy_le (peer : AccountId) (message : Message) (countsUnread : Bool) :
    (unreadBy peer message countsUnread).toNat ≤ 1 := by
  unfold unreadBy
  split
  · exact Nat.le_refl 1
  · exact Nat.zero_le 1

/-- No more messages of a peer are unread than were accounted for. -/
theorem unread_noteMessage_le (counted : ∀ entry ∈ list.entries, entry.unread.toNat ≤ recorded) :
    ∀ entry ∈ (list.noteMessage peer message countsUnread).entries,
      entry.unread.toNat ≤ recorded + 1 := by
  have one := toNat_unreadBy_le peer message countsUnread
  refine forall_noteMessage (fun entry member => ?_) ?_ fun entry member _ => ?_
  · exact Nat.le_succ_of_le (counted entry member)
  · exact Nat.le_trans one (Nat.le_add_left ..)
  · change (entry.unread + unreadBy peer message countsUnread).toNat ≤ recorded + 1
    rw [UInt32.toNat_add]
    exact Nat.le_trans (Nat.mod_le ..) (Nat.add_le_add (counted entry member) one)

/-- As long as so few messages were accounted for, one more can be. -/
theorem noteMessage?_of_few (counted : ∀ entry ∈ list.entries, entry.unread.toNat ≤ recorded)
    (few : recorded + 1 < UInt32.size) :
    list.noteMessage? peer message countsUnread =
      some (list.noteMessage peer message countsUnread) := by
  refine if_pos ?_
  have one := toNat_unreadBy_le peer message countsUnread
  unfold hasRoom
  cases search : list.find? peer with
  | none => rfl
  | some entry =>
      have unread := counted entry (mem_of_find?_eq_some search).1
      exact Bool.or_eq_true_iff.mpr (.inr (decide_eq_true (by omega)))

end Unread

/-! ## Runs -/

/-- What can happen to a list. -/
inductive Update where
  | message (peer : AccountId) (message : Message) (countsUnread : Bool)
  | confirmation (peer : AccountId) (time : UInt64)
  | roster (entries : List (AccountId × UInt64))
  | read (peer : AccountId)
  /-- The list is stored for an account, and is loaded again unless storing it was refused. -/
  | reload (store : Backend) (account : AccountId)

namespace Update

/-- The messages that are accounted for. -/
def messages : Update → List Message
  | .message _ noted _ => [noted]
  | _ => []

/-- The times that an update gives for peers, of which some were named earlier. -/
def times (earlier : List (AccountId × UInt64)) : Update → List (AccountId × UInt64)
  | .message peer noted _ => [(peer, noted.header.timestamp)]
  | .confirmation peer time => if peer ∈ earlier.map Prod.fst then [(peer, time)] else []
  | .roster entries => entries
  | .read _ => []
  | .reload _ _ => []

/-- The times that updates give, behind those that were given earlier. -/
def timesAfter (earlier : List (AccountId × UInt64)) (updates : List Update) :
    List (AccountId × UInt64) :=
  updates.foldl (fun given update => given ++ update.times given) earlier

theorem timesAfter_append (earlier : List (AccountId × UInt64)) (updates more : List Update) :
    timesAfter earlier (updates ++ more) = timesAfter (timesAfter earlier updates) more :=
  List.foldl_append

theorem isPrefix_timesAfter (earlier : List (AccountId × UInt64)) (updates : List Update) :
    earlier <+: timesAfter earlier updates := by
  induction updates generalizing earlier with
  | nil => exact List.prefix_rfl
  | cons update rest ih => exact (List.prefix_append ..).trans (ih _)

end Update

/-- The list after an update.  There is none if the unread messages could no longer be counted or
the list that was stored could not be loaded. -/
def update (list : ConversationList) : Update → Option ConversationList
  | .message peer message countsUnread => list.noteMessage? peer message countsUnread
  | .confirmation peer time => some (list.noteConfirmation peer time)
  | .roster entries => some (list.noteRoster entries)
  | .read peer => some (list.clearUnread peer)
  | .reload store account =>
      match list.save store account with
      | .ok after => (load after account).toOption
      | .error _ => some list

/-- The list after a run of updates of an empty one. -/
def updateAll (updates : List Update) : Option ConversationList :=
  updates.foldlM update empty

/-- A list that can be stored, that tells the given times, and whose unread messages are among so
many that were accounted for. -/
structure Tallies (list : ConversationList) (recorded : Nat) (times : List (AccountId × UInt64)) :
    Prop where
  storable : list.Storable
  unread_le : ∀ entry ∈ list.entries, entry.unread.toNat ≤ recorded
  tells : Tells list.entries times

theorem tallies_empty : empty.Tallies 0 [] where
  storable := storable_empty
  unread_le := nofun
  tells := tells_empty

section Runs

variable {list : ConversationList} {recorded : Nat} {times : List (AccountId × UInt64)}
  {stranger : AccountId}

/-- A list that can be stored is loaded as it was. -/
theorem update_reload (storable : list.Storable) (counted : list.entries.length < UInt64.size)
    (store : Backend) (account : AccountId) : list.update (.reload store account) = some list := by
  unfold update
  dsimp only
  cases saved : list.save store account with
  | error cause => rfl
  | ok after => exact congrArg Except.toOption (load_of_save storable counted saved)

/-- One update succeeds, and the list tells the times with those of the update. -/
theorem Tallies.update (tallies : list.Tallies recorded times) {update : Update}
    (few : recorded + update.messages.length < UInt32.size)
    (short : ∀ message ∈ update.messages, message.payload.length < UInt64.size)
    (unnamed : stranger ∉ times.map Prod.fst) :
    ∃ after, list.update update = some after ∧
      after.Tallies (recorded + update.messages.length) (times ++ update.times times) := by
  obtain ⟨storable, unread_le, tells⟩ := tallies
  cases update with
  | message peer message countsUnread =>
      have brief := message.length_preview_lt (short message (List.mem_singleton_self _))
      exact ⟨_, noteMessage?_of_few unread_le few, storable.noteMessage peer brief countsUnread,
        unread_noteMessage_le unread_le, tells.noteMessage peer message countsUnread⟩
  | confirmation peer time =>
      exact ⟨_, rfl, storable.noteConfirmation peer time,
        forall_noteConfirmation unread_le fun _ counted => counted,
        tells.noteConfirmation peer time⟩
  | roster entries =>
      exact ⟨_, rfl, storable.noteRoster entries,
        forall_noteRoster unread_le (fun _ _ counted => counted) fun _ _ => Nat.zero_le _,
        tells.noteRoster entries⟩
  | read peer =>
      refine ⟨_, rfl, storable.clearUnread peer, ?_, ?_⟩
      · exact forall_change unread_le fun _ _ _ => Nat.zero_le _
      · rw [Update.times, List.append_nil]
        exact tells.clearUnread peer
  | reload store account =>
      refine ⟨list, update_reload storable (tells.length_lt unnamed) store account, ?_⟩
      rw [Update.times, List.append_nil]
      exact ⟨storable, unread_le, tells⟩

/-- A run succeeds, and the list tells the times with all those of the run. -/
theorem Tallies.foldlM {updates : List Update} (tallies : list.Tallies recorded times)
    (few : recorded + (updates.flatMap Update.messages).length < UInt32.size)
    (short : ∀ message ∈ updates.flatMap Update.messages, message.payload.length < UInt64.size)
    (unnamed : stranger ∉ (Update.timesAfter times updates).map Prod.fst) :
    ∃ after, updates.foldlM ConversationList.update list = some after ∧
      after.Tallies (recorded + (updates.flatMap Update.messages).length)
        (Update.timesAfter times updates) := by
  induction updates generalizing list recorded times with
  | nil => exact ⟨list, rfl, tallies⟩
  | cons update rest ih =>
      rw [List.flatMap_cons, List.length_append, ← Nat.add_assoc] at few ⊢
      rw [List.flatMap_cons] at short
      obtain ⟨shortFirst, shortRest⟩ := List.forall_mem_append.mp short
      -- Whoever is not named by the end of the run is not named before.
      have known := (Update.isPrefix_timesAfter times (update :: rest)).subset
      have unnamedYet : stranger ∉ times.map Prod.fst :=
        fun named => unnamed (List.map_subset _ known named)
      obtain ⟨next, updated, tallied⟩ := tallies.update (by omega) shortFirst unnamedYet
      obtain ⟨after, run, talliedAll⟩ := ih tallied few shortRest unnamed
      refine ⟨after, ?_, talliedAll⟩
      rw [List.foldlM_cons, updated]
      exact run

end Runs

/-- A run with fewer than `2 ^ 32` messages, of which each fits into memory, and which does not
name every account there is, always succeeds.  The list has the latest activity first, one
conversation with every peer that was named, and each at the latest time that was given.  What was
in the list at any time is still there, at that time or later. -/
theorem updateAll_tells {updates : List Update}
    (few : (updates.flatMap Update.messages).length < UInt32.size)
    (short : ∀ message ∈ updates.flatMap Update.messages, message.payload.length < UInt64.size)
    (unnamed : ∃ stranger, stranger ∉ (Update.timesAfter [] updates).map Prod.fst) :
    ∃ list, updateAll updates = some list ∧ list.Arranged ∧
      Tells list.entries (Update.timesAfter [] updates) ∧
      ∀ earlier later, updates = earlier ++ later →
        ∃ before, updateAll earlier = some before ∧
          ∀ entry ∈ before.entries, ∃ now ∈ list.entries,
            now.peer = entry.peer ∧ entry.lastActivity ≤ now.lastActivity := by
  obtain ⟨stranger, unnamed⟩ := unnamed
  obtain ⟨list, run, tallies⟩ := tallies_empty.foldlM (by rwa [Nat.zero_add]) short unnamed
  refine ⟨list, run, tallies.storable.arranged, tallies.tells, ?_⟩
  rintro earlier later rfl
  have known : Update.timesAfter [] earlier ⊆ Update.timesAfter [] (earlier ++ later) := by
    rw [Update.timesAfter_append]
    exact (Update.isPrefix_timesAfter _ later).subset
  rw [List.flatMap_append] at few short
  rw [List.length_append] at few
  have fewer : 0 + (earlier.flatMap Update.messages).length < UInt32.size := by omega
  have unnamedYet : stranger ∉ (Update.timesAfter [] earlier).map Prod.fst :=
    fun named => unnamed (List.map_subset _ known named)
  obtain ⟨before, ran, tallied⟩ :=
    tallies_empty.foldlM fewer (List.forall_mem_append.mp short).1 unnamedYet
  exact ⟨before, ran, tallies.tells.exists_notBehind tallied.tells known⟩

/-- The first confirmation gives no time, as its peer is not named yet; the older times of a
roster, of a confirmation and of a message are given, but are not the latest. -/
theorem updateAll_tells_of_stale_times :
    let updates : List Update :=
      [.confirmation 2 900, .message 2 (.bareText 2 1 0 100) true,
        .roster [(3, 50), (2, 300), (3, 20)], .confirmation 2 250,
        .message 3 (.bareText 3 1 0 40) true, .read 3, .reload (.memory .empty) 1]
    ∃ list, updateAll updates = some list ∧ list.Arranged ∧
      Tells list.entries [(2, 100), (3, 50), (2, 300), (3, 20), (2, 250), (3, 40)] := by
  intro updates
  have times : Update.timesAfter [] updates =
      [(2, 100), (3, 50), (2, 300), (3, 20), (2, 250), (3, 40)] := by decide
  have unnamed : 9 ∉ (Update.timesAfter [] updates).map Prod.fst := by decide
  obtain ⟨list, run, arranged, tells, -⟩ :=
    @updateAll_tells updates (by decide) (by decide) ⟨9, unnamed⟩
  exact ⟨list, run, arranged, times ▸ tells⟩

end Messenger.ConversationList
