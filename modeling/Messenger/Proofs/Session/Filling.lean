import Mathlib.Data.List.Basic
import Messenger.Proofs.Session.Pieces
import Messenger.Proofs.Session.Sparing
import Messenger.Proofs.Timeline.Lookup

/-!
# Filling the window of older messages

Loading older messages puts the messages of a window in front of a timeline, each number
once: those in the store, and those that only history has.  History is asked for the numbers
that the store lacks and no others, run by run, in pieces of a page.
-/

namespace Messenger

/-- What a shelf and a log have under `count` numbers from `low` on, one message for a number: the
one on the shelf, or else the one in the log. -/
def Message.combined (shelf log : List Message) (low count : Nat) : List Message :=
  (List.range' low count).filterMap fun n => (numbered? shelf n).or (numbered? log n)

namespace Backfill

/-- The messages of a log in pieces of numbers. -/
def inPieces (log : List Message) (pieces : List (Nat × Nat)) : List Message :=
  pieces.flatMap fun piece => window log piece.1 (piece.2 - piece.1 + 1)

variable {log : List Message} {pieces : List (Nat × Nat)} {included : Nat → Prop}
  {message : Message} {n : Nat}

theorem mem_inPieces (covers : Covers included pieces) :
    message ∈ inPieces log pieces ↔ message ∈ log ∧ included message.header.seq.toNat := by
  unfold inPieces
  rw [← covers.mem_iff, List.mem_flatMap]
  constructor
  · rintro ⟨piece, listed, member⟩
    obtain ⟨logged, lower, upper⟩ := mem_window.mp member
    have := covers.nonempty piece listed
    exact ⟨logged, piece, listed, lower, by omega⟩
  · rintro ⟨logged, piece, listed, lower, upper⟩
    exact ⟨piece, listed, mem_window.mpr ⟨logged, lower, by omega⟩⟩

theorem ascending_inPieces (covers : Covers included pieces) (ascending : Message.Ascending log) :
    Message.Ascending (inPieces log pieces) := by
  refine List.pairwise_flatMap.mpr ⟨fun piece _ => List.Pairwise.filter _ ascending, ?_⟩
  refine covers.ordered.imp_of_mem fun {a b} aListed _ before earlier first later second => ?_
  have := covers.nonempty a aListed
  have := (mem_window.mp first).2.2
  have := (mem_window.mp second).2.1
  rw [UInt64.lt_iff_toNat_lt]
  omega

/-- Under an included number the pieces have what the log has, and nothing under any other. -/
theorem numbered?_inPieces (covers : Covers included pieces) (ascending : Message.Ascending log) :
    Message.numbered? (inPieces log pieces) n = some message ↔
      Message.numbered? log n = some message ∧ included n := by
  rw [(ascending_inPieces covers ascending).numbered?_eq_some_iff,
    ascending.numbered?_eq_some_iff, mem_inPieces covers]
  constructor
  · rintro ⟨⟨logged, has⟩, rfl⟩
    exact ⟨⟨logged, rfl⟩, has⟩
  · rintro ⟨⟨logged, rfl⟩, has⟩
    exact ⟨⟨logged, has⟩, rfl⟩

end Backfill

namespace Session

/-! ## Messages that a channel lacks -/

section Lacking

variable {η : Type} {channel : Channel} {before middle after session : Session MemoryStore η}
  {message : Message} {messages earlier later : List Message}

/-- Ascending messages of a channel whose numbers neither its settled timeline nor its shelf has. -/
structure Misses (session : Session MemoryStore η) (channel : Channel) (messages : List Message) :
    Prop where
  settled : (session.timeline channel).pending = []
  ascending : (session.timeline channel).Ascending
  increasing : Message.Ascending messages
  numbered : ∀ message ∈ messages, message.header.seq ≠ 0
  belongs : ∀ message ∈ messages, message.channel session.me = channel
  unlisted : ∀ message ∈ messages,
    Message.numbered? (session.timeline channel).entries message.header.seq.toNat = none
  unstored : ∀ message ∈ messages,
    Message.numbered? (session.store.shelf channel) message.header.seq.toNat = none

/-- Messages were all new to the timeline and the shelf of a channel. -/
structure Gains (channel : Channel) (messages : List Message)
    (before after : Session MemoryStore η) : Prop where
  me_eq : after.me = before.me
  config_eq : after.config = before.config
  timeline_eq : after.timeline channel = (before.timeline channel).insertAll messages
  longer : (after.timeline channel).entries.length =
    (before.timeline channel).entries.length + messages.length
  shelf_eq : ∀ n, Message.numbered? (after.store.shelf channel) n =
    (Message.numbered? (before.store.shelf channel) n).or (Message.numbered? messages n)

theorem Gains.refl (before : Session MemoryStore η) : Gains channel [] before before :=
  ⟨rfl, rfl, rfl, rfl, fun _ => Option.or_none.symm⟩

theorem Gains.trans (first : Gains channel earlier before middle)
    (second : Gains channel later middle after) :
    Gains channel (earlier ++ later) before after where
  me_eq := second.me_eq.trans first.me_eq
  config_eq := second.config_eq.trans first.config_eq
  timeline_eq := by
    rw [second.timeline_eq, first.timeline_eq]
    exact List.foldl_append.symm
  longer := by
    rw [second.longer, first.longer, List.length_append]
    omega
  shelf_eq n := by
    rw [second.shelf_eq, first.shelf_eq, Message.numbered?_append, Option.or_assoc]

theorem Misses.of_append (misses : session.Misses channel (earlier ++ later)) :
    session.Misses channel earlier where
  settled := misses.settled
  ascending := misses.ascending
  increasing := (List.pairwise_append.mp misses.increasing).1
  numbered := (List.forall_mem_append.mp misses.numbered).1
  belongs := (List.forall_mem_append.mp misses.belongs).1
  unlisted := (List.forall_mem_append.mp misses.unlisted).1
  unstored := (List.forall_mem_append.mp misses.unstored).1

/-- Once the earlier messages are there, the later ones are still lacking. -/
theorem Misses.rest (misses : before.Misses channel (earlier ++ later))
    (gains : Gains channel earlier before after) : after.Misses channel later := by
  obtain ⟨-, increasing, apart⟩ := List.pairwise_append.mp misses.increasing
  obtain ⟨numberedEarlier, numbered⟩ := List.forall_mem_append.mp misses.numbered
  obtain ⟨settled, ascending, found⟩ :=
    Timeline.insertAll_of_settled misses.settled misses.ascending numberedEarlier
  rw [← gains.timeline_eq] at settled ascending found
  have other : ∀ message ∈ later,
      Message.numbered? earlier message.header.seq.toNat = none := by
    intro message behind
    refine Message.numbered?_eq_none_iff.mpr fun entry before => ?_
    exact Nat.ne_of_lt (UInt64.lt_iff_toNat_lt.mp (apart entry before message behind))
  refine ⟨settled, ascending, increasing, numbered, ?_, ?_, ?_⟩
  · rw [gains.me_eq]
    exact (List.forall_mem_append.mp misses.belongs).2
  · intro message behind
    rw [found, (List.forall_mem_append.mp misses.unlisted).2 message behind,
      other message behind]
    rfl
  · intro message behind
    rw [gains.shelf_eq, (List.forall_mem_append.mp misses.unstored).2 message behind,
      other message behind]
    rfl

/-- Merging a message that the channel lacks stores it in the timeline and on the shelf. -/
theorem merge_of_misses (misses : session.Misses channel [message]) :
    ∃ inserted after, merge channel message session = .ok inserted after ∧
      inserted.isNew = true ∧ Gains channel [message] session after ∧
      after.history = session.history := by
  have numbered := Message.seq?_eq_some_iff.mpr ⟨rfl, misses.numbered message List.mem_cons_self⟩
  have new := (Timeline.isNew_iff_of_settled misses.settled misses.ascending
    (misses.numbered message List.mem_cons_self)).mpr (misses.unlisted message List.mem_cons_self)
  obtain ⟨outcome, store, saved, -⟩ := session.store.save_of_numbered channel numbered
  refine ⟨_, _, merge_of_saved numbered new saved, new, ⟨rfl, rfl, ?_, ?_, fun n => ?_⟩, rfl⟩
  · exact timeline_setTimeline_self session channel _
  · refine (congrArg (fun timeline => timeline.entries.length)
      (timeline_setTimeline_self session channel _)).trans ?_
    have placed := Timeline.entries_insert_perm (session.timeline channel) message
    rw [if_pos new] at placed
    exact placed.length_eq
  · exact MemoryStore.numbered?_of_save saved (misses.unstored message List.mem_cons_self)

/-- Messages that the channel lacks are all merged. -/
theorem mergeAll_of_misses (misses : session.Misses channel messages) (merged : Nat)
    (last : Option UInt64) :
    ∃ highest after, mergeAll channel merged last messages session =
        .ok (merged + messages.length, highest) after ∧
      Gains channel messages session after ∧ after.history = session.history := by
  induction messages generalizing session merged last with
  | nil => exact ⟨last, session, rfl, .refl session, rfl⟩
  | cons message rest ih =>
      rw [← List.singleton_append] at misses
      obtain ⟨inserted, middle, first, new, gains, kept⟩ := merge_of_misses misses.of_append
      obtain ⟨highest, after, others, gainsRest, keptRest⟩ :=
        ih (misses.rest gains) (merged + 1) (higher last message.seq?)
      refine ⟨highest, after, ?_, gains.trans gainsRest, keptRest.trans kept⟩
      rw [mergeAll_cons (misses.belongs message List.mem_cons_self), bind_of_ok first, new,
        if_pos rfl, others, List.length_cons, Nat.add_right_comm, Nat.add_assoc]

end Lacking

/-! ## Pieces of history -/

section Fetching

variable {session : Session MemoryStore ScriptedHistory} {peer : AccountId} {log : List Message}

/-- The history of a session serves a log in the channel with a peer, and can end it. -/
structure Hosts (session : Session MemoryStore ScriptedHistory) (peer : AccountId)
    (log : List Message) : Prop where
  own : session.history.me = session.me
  meFits : session.me.toNat < 1 <<< 46
  peerFits : peer.toNat < 1 <<< 46
  serves : session.history.Serves (.between session.me peer) log

/-- Behind zero, a run has as many numbers as a word can count. -/
theorem toNat_count {low high : UInt64} (lowPos : 0 < low) (nonempty : low ≤ high) :
    (high - low + 1).toNat = high.toNat - low.toNat + 1 := by
  have bound := high.toNat_lt
  have difference := UInt64.toNat_sub_of_le _ _ nonempty
  rw [UInt64.lt_iff_toNat_lt, UInt64.toNat_zero] at lowPos
  rw [UInt64.le_iff_toNat_le] at nonempty
  rw [UInt64.toNat_add, difference, UInt64.toNat_one]
  omega

/-- The request for a run is one for a window. -/
theorem window_of_run (peer : AccountId) {low high : UInt64} (lowPos : 0 < low)
    (nonempty : low ≤ high) :
    HistoryRequest.window peer low (high - low + 1) = ⟨peer, low, high⟩ := by
  have bound := high.toNat_lt
  have difference := UInt64.toNat_sub_of_le _ _ nonempty
  have countPos : 0 < high - low + 1 := by
    rw [UInt64.lt_iff_toNat_lt, toNat_count lowPos nonempty]
    exact Nat.succ_pos _
  have whole : high - low + 1 - 1 = high - low := UInt64.add_sub_cancel ..
  rw [UInt64.le_iff_toNat_le] at nonempty
  unfold HistoryRequest.window
  rw [Cursor.max_one_of_pos countPos, whole]
  congr 1
  rw [← UInt64.toNat_inj, Word.toNat_addSat, difference]
  simp only [UInt64.size]
  omega

/-- A piece whose messages the channel lacks is asked for once, and its messages are merged. -/
theorem fetchPiece_of_misses {piece : UInt64 × UInt64} (hosts : session.Hosts peer log)
    (lowPos : 0 < piece.1) (nonempty : piece.1 ≤ piece.2)
    (misses : session.Misses (.between session.me peer)
      (Backfill.inPieces log [Timeline.ends piece])) (added : Nat) :
    ∃ after, fetchPiece (.between session.me peer) added piece.1 piece.2 session =
        .ok (added + (Backfill.inPieces log [Timeline.ends piece]).length) after ∧
      Gains (.between session.me peer) (Backfill.inPieces log [Timeline.ends piece])
        session after ∧
      after.history = session.history.asked ⟨peer, piece.1, piece.2⟩ := by
  obtain ⟨own, meFits, peerFits, serves⟩ := hosts
  obtain ⟨low, high⟩ := piece
  have countPos : 0 < high - low + 1 := by
    rw [UInt64.lt_iff_toNat_lt, toNat_count lowPos nonempty]
    exact Nat.succ_pos _
  have messages_eq : Backfill.inPieces log [Timeline.ends (low, high)] =
      Backfill.window log low.toNat (high - low + 1).toNat := by
    rw [toNat_count lowPos nonempty]
    exact List.append_nil _
  have writable : ∃ frame,
      (Message.historyEnd peer session.history.me 0).bind Message.encode = .ok frame := by
    obtain ⟨ending, frame, composed, encoded⟩ := Message.exists_historyEnd peerFits meFits
    exact ⟨frame, by rw [own, composed]; exact encoded⟩
  have asks : session.pieceRequest (.between session.me peer) (low, high) = ⟨peer, low, high⟩ := by
    unfold pieceRequest
    rw [Channel.other_between]
  rw [← own] at serves
  rw [messages_eq] at misses ⊢
  rcases serves.fetchMessages_cases session.config.sync lowPos countPos with
    ⟨messages, fetched, page_eq⟩ | ⟨⟨cause, unwritable⟩, -⟩
  · rw [window_of_run peer lowPos nonempty] at fetched
    rw [fetchPiece_eq, asks, fetched]
    dsimp only
    unfold mergePage
    rw [page_eq]
    have lacking : Misses { session with
        history := session.history.asked ⟨peer, low, high⟩ } (.between session.me peer)
        (Backfill.window log low.toNat (high - low + 1).toNat) :=
      ⟨misses.settled, misses.ascending, misses.increasing, misses.numbered, misses.belongs,
        misses.unlisted, misses.unstored⟩
    obtain ⟨highest, after, merged, gains, kept⟩ := mergeAll_of_misses lacking 0 none
    refine ⟨after, ?_, ⟨gains.me_eq, gains.config_eq, gains.timeline_eq, gains.longer,
      gains.shelf_eq⟩, kept⟩
    rw [Nat.zero_add] at merged
    exact bind_of_ok merged _
  · obtain ⟨frame, written⟩ := writable
    cases written.symm.trans unwritable

/-- Pieces whose messages the channel lacks are asked for one after the other, and all their
messages are merged. -/
theorem fetchPieces_of_misses {pieces : List (UInt64 × UInt64)} (hosts : session.Hosts peer log)
    (lowPos : ∀ piece ∈ pieces, 0 < piece.1) (nonempty : ∀ piece ∈ pieces, piece.1 ≤ piece.2)
    (misses : session.Misses (.between session.me peer)
      (Backfill.inPieces log (pieces.map Timeline.ends))) (added : Nat) :
    ∃ after, (pieces.foldlM (fun added piece =>
        fetchPiece (.between session.me peer) added piece.1 piece.2) added :
          SessionM MemoryStore ScriptedHistory Nat) session =
        .ok (added + (Backfill.inPieces log (pieces.map Timeline.ends)).length) after ∧
      Gains (.between session.me peer) (Backfill.inPieces log (pieces.map Timeline.ends))
        session after ∧
      after.history.requests = session.history.requests ++
        pieces.map fun piece => ⟨peer, piece.1, piece.2⟩ := by
  induction pieces generalizing session added with
  | nil => exact ⟨session, rfl, .refl session, (List.append_nil _).symm⟩
  | cons piece rest ih =>
      obtain ⟨firstPos, restPos⟩ := List.forall_mem_cons.mp lowPos
      obtain ⟨first, others⟩ := List.forall_mem_cons.mp nonempty
      have split : Backfill.inPieces log ((piece :: rest).map Timeline.ends) =
          Backfill.inPieces log [Timeline.ends piece] ++
            Backfill.inPieces log (rest.map Timeline.ends) := by
        unfold Backfill.inPieces
        rw [← List.flatMap_append]
        rfl
      rw [split] at misses ⊢
      obtain ⟨middle, fetched, gains, asked⟩ :=
        fetchPiece_of_misses hosts firstPos first misses.of_append added
      have hostsRest : middle.Hosts peer log := by
        obtain ⟨own, meFits, peerFits, serves⟩ := hosts
        refine ⟨?_, gains.me_eq ▸ meFits, peerFits, ?_⟩
        · rw [asked, gains.me_eq]
          exact own
        · rw [asked, gains.me_eq]
          exact serves.asked _
      have missesRest := misses.rest gains
      rw [← gains.me_eq] at missesRest
      obtain ⟨after, done, gainsRest, askedRest⟩ := ih hostsRest restPos others missesRest _
      rw [gains.me_eq] at done gainsRest
      refine ⟨after, ?_, gains.trans gainsRest, ?_⟩
      · rw [List.foldlM_cons, bind_of_ok fetched, done, List.length_append, Nat.add_assoc]
      · rw [askedRest, asked, List.map_cons]
        exact List.append_assoc ..

end Fetching

/-! ## The window -/

theorem snd_mergeCached (timeline : Timeline) (cached : List Message) :
    (mergeCached timeline cached).2 = timeline.insertAll cached := by
  induction cached generalizing timeline with
  | nil => rfl
  | cons message rest ih => exact ih _

/-- Merging cached messages counts the entries that it adds. -/
theorem fst_mergeCached (timeline : Timeline) (cached : List Message) :
    (mergeCached timeline cached).1 + timeline.entries.length =
      (mergeCached timeline cached).2.entries.length := by
  induction cached generalizing timeline with
  | nil => exact Nat.zero_add _
  | cons message rest ih =>
      have placed := (Timeline.entries_insert_perm timeline message).length_eq
      have others := ih (timeline.insert message).2
      have counts : mergeCached timeline (message :: rest) =
          (if (timeline.insert message).1.isNew
            then (mergeCached (timeline.insert message).2 rest).1 + 1
            else (mergeCached (timeline.insert message).2 rest).1,
            (mergeCached (timeline.insert message).2 rest).2) := rfl
      rw [counts, ← others, placed]
      dsimp only
      split
      · rw [List.length_cons]
        omega
      · rfl

section Window

variable {timeline : Timeline} {store : MemoryStore} {channel : Channel} {low high : UInt64}
  {log : List Message} {pieces : List (Nat × Nat)} {n : Nat}

/-- The numbers from `low` to `high` lie below a settled timeline. -/
structure WindowBelow (timeline : Timeline) (low high : UInt64) : Prop where
  settled : timeline.pending = []
  ascending : timeline.Ascending
  lowPos : 0 < low
  beyond : ∀ seq ∈ timeline.seqs, high < seq
  bounded : high < Word.top

/-- A number from `low` to `high` that the store does not have in a channel. -/
def Missing (store : MemoryStore) (channel : Channel) (low high : UInt64) (n : Nat) : Prop :=
  low.toNat ≤ n ∧ n ≤ high.toNat ∧ Message.numbered? (store.shelf channel) n = none

/-- A store answers a request for a run with what is on the shelf under its numbers. -/
theorem numbered?_range (store : MemoryStore) (channel : Channel)
    (within : low.toNat ≤ n ∧ n ≤ high.toNat) :
    Message.numbered? (store.range channel low high) n =
      Message.numbered? (store.shelf channel) n := by
  refine Message.numbered?_filter fun message here => ?_
  rw [Bool.and_eq_true, decide_eq_true_eq, decide_eq_true_eq, UInt64.le_iff_toNat_le,
    UInt64.le_iff_toNat_le, here]
  exact within

theorem mem_range {message : Message} (member : message ∈ store.range channel low high) :
    low.toNat ≤ message.header.seq.toNat ∧ message.header.seq.toNat ≤ high.toNat := by
  have within := (List.mem_filter.mp member).2
  rwa [Bool.and_eq_true, decide_eq_true_eq, decide_eq_true_eq, UInt64.le_iff_toNat_le,
    UInt64.le_iff_toNat_le] at within

/-- In a window, what is stored and what a log has under the missing numbers is what is stored, or
else what the log has. -/
theorem numbered?_or_inPieces (covers : Covers (Missing store channel low high) pieces)
    (increasing : Message.Ascending log) (lower : low.toNat ≤ n) (upper : n ≤ high.toNat) :
    (Message.numbered? (store.shelf channel) n).or
        (Message.numbered? (Backfill.inPieces log pieces) n) =
      (Message.numbered? (store.shelf channel) n).or (Message.numbered? log n) := by
  cases stored : Message.numbered? (store.shelf channel) n with
  | some message => rfl
  | none =>
      rw [Option.none_or, Option.none_or]
      refine Option.ext fun message => ?_
      rw [Backfill.numbered?_inPieces covers increasing]
      exact and_iff_left ⟨lower, upper, stored⟩

namespace WindowBelow

theorem toNat_pos (window : WindowBelow timeline low high) : 0 < low.toNat :=
  UInt64.lt_iff_toNat_lt.mp window.lowPos

theorem ne_zero (window : WindowBelow timeline low high) {message : Message}
    (reached : low.toNat ≤ message.header.seq.toNat) : message.header.seq ≠ 0 := by
  intro unnumbered
  have positive := window.toNat_pos
  rw [unnumbered, UInt64.toNat_zero] at reached
  omega

theorem numbered?_eq_none (window : WindowBelow timeline low high) (within : n ≤ high.toNat) :
    Message.numbered? timeline.entries n = none := by
  rw [Timeline.numbered?_entries_eq_none_iff window.settled]
  intro seq member
  have := UInt64.lt_iff_toNat_lt.mp (window.beyond seq member)
  omega

/-- The stored messages of a window can be merged into the timeline that it lies below. -/
theorem insertAll_range (window : WindowBelow timeline low high) (store : MemoryStore)
    (channel : Channel) :
    (timeline.insertAll (store.range channel low high)).pending = [] ∧
      (timeline.insertAll (store.range channel low high)).Ascending ∧
      ∀ n, Message.numbered? (timeline.insertAll (store.range channel low high)).entries n =
        (Message.numbered? timeline.entries n).or
          (Message.numbered? (store.range channel low high) n) :=
  Timeline.insertAll_of_settled window.settled window.ascending
    fun _ member => window.ne_zero (mem_range member).1

/-- The gaps that the stored messages leave are the longest runs of numbers that are missing. -/
theorem maximalRuns_gaps (window : WindowBelow timeline low high) :
    MaximalRuns (Missing store channel low high)
      (((timeline.insertAll (store.range channel low high)).gaps low high).map
        Timeline.ends) := by
  obtain ⟨settled, -, found⟩ := window.insertAll_range store channel
  have below : ∀ seq ∈ (timeline.insertAll (store.range channel low high)).seqs, seq ≤ high →
      seq < Word.top := fun _ _ upper => UInt64.lt_of_le_of_lt upper window.bounded
  refine (Timeline.maximalRuns_gaps below).congr fun n => ?_
  refine and_congr_right fun lower => and_congr_right fun upper => ?_
  rw [← Timeline.numbered?_entries_eq_none_iff settled, found, window.numbered?_eq_none upper,
    Option.none_or, numbered?_range store channel ⟨lower, upper⟩]

/-- Once the stored messages and those that a log has under the missing numbers are merged, the
timeline has one message for every number of the window that either has, and its old entries. -/
theorem entries_insertAll (window : WindowBelow timeline low high)
    (covers : Covers (Missing store channel low high) pieces)
    (increasing : Message.Ascending log) :
    ((timeline.insertAll (store.range channel low high)).insertAll
        (Backfill.inPieces log pieces)).entries =
      Message.combined (store.shelf channel) log low.toNat (high.toNat + 1 - low.toNat) ++
        timeline.entries := by
  have numbered : ∀ message ∈ Backfill.inPieces log pieces, message.header.seq ≠ 0 :=
    fun _ member => window.ne_zero ((Backfill.mem_inPieces covers).mp member).2.1
  obtain ⟨settledStored, ascendingStored, foundStored⟩ := window.insertAll_range store channel
  obtain ⟨settled, ascending, found⟩ :=
    Timeline.insertAll_of_settled settledStored ascendingStored numbered
  simp only [foundStored] at found
  have before := window.ascending.entries window.settled
  have after := ascending.entries settled
  refine (after.eq_filterMap_append before List.pairwise_lt_range' ?_ ?_ ?_).trans
    (congrArg (· ++ timeline.entries) (List.filterMap_congr fun n among => ?_))
  · intro n among entry member
    have within := List.mem_range'_1.mp among
    by_contra reached
    have absent := window.numbered?_eq_none (n := entry.header.seq.toNat) (by omega)
    exact Message.numbered?_eq_none_iff.mp absent entry member rfl
  · intro entry member
    have listed := before.numbered?_eq_some_iff.mpr ⟨member, rfl⟩
    have kept := found entry.header.seq.toNat
    rw [listed, Option.some_or, Option.some_or] at kept
    exact (Message.of_numbered? kept).1
  · intro message member
    have search := after.numbered?_eq_some_iff.mpr ⟨member, rfl⟩
    rw [found, Option.or_eq_some_iff, Option.or_eq_some_iff] at search
    rcases search with (listed | ⟨-, stored⟩) | ⟨-, fetched⟩
    · exact .inr (Message.of_numbered? listed).1
    · have within := mem_range (Message.of_numbered? stored).1
      exact .inl (List.mem_range'_1.mpr ⟨within.1, by omega⟩)
    · have within := ((Backfill.mem_inPieces covers).mp (Message.of_numbered? fetched).1).2
      exact .inl (List.mem_range'_1.mpr ⟨within.1, by have := within.2.1; omega⟩)
  · obtain ⟨lower, upper⟩ := List.mem_range'_1.mp among
    rw [found, window.numbered?_eq_none (by omega), Option.none_or,
      numbered?_range store channel ⟨lower, by omega⟩,
      numbered?_or_inPieces covers increasing lower (by omega)]

/-- Pieces that cover what is missing start behind zero and are not empty. -/
theorem bounds_of_covers (window : WindowBelow timeline low high)
    {asked : List (UInt64 × UInt64)}
    (covers : Covers (Missing store channel low high) (asked.map Timeline.ends))
    {piece : UInt64 × UInt64} (member : piece ∈ asked) : 0 < piece.1 ∧ piece.1 ≤ piece.2 := by
  have listed : Timeline.ends piece ∈ asked.map Timeline.ends := List.mem_map_of_mem member
  have nonempty : piece.1.toNat ≤ piece.2.toNat := covers.nonempty _ listed
  have missing := (covers.mem_iff piece.1.toNat).mp ⟨_, listed, Nat.le_refl _, nonempty⟩
  exact ⟨UInt64.lt_iff_toNat_lt.mpr (Nat.lt_of_lt_of_le window.toNat_pos missing.1),
    UInt64.le_iff_toNat_le.mpr nonempty⟩

/-- Of the missing numbers, the channel lacks all messages once the stored ones are merged. -/
theorem misses {η : Type} {session : Session MemoryStore η}
    (window : WindowBelow (session.timeline channel) low high)
    (covers : Covers (Missing session.store channel low high) pieces)
    (increasing : Message.Ascending log)
    (belongs : ∀ message ∈ log, message.channel session.me = channel) :
    (session.setTimeline channel ((session.timeline channel).insertAll
      (session.store.range channel low high))).Misses channel (Backfill.inPieces log pieces) := by
  obtain ⟨settled, ascending, found⟩ := window.insertAll_range session.store channel
  have placed : (session.setTimeline channel ((session.timeline channel).insertAll
      (session.store.range channel low high))).timeline channel = _ :=
    timeline_setTimeline_self ..
  have among : ∀ message, message ∈ Backfill.inPieces log pieces ↔ _ := fun _ =>
    Backfill.mem_inPieces covers
  rw [← placed] at settled ascending
  refine ⟨settled, ascending, Backfill.ascending_inPieces covers increasing,
    fun message member => window.ne_zero ((among message).mp member).2.1,
    fun message member => belongs message ((among message).mp member).1, ?_,
    fun message member => ((among message).mp member).2.2.2⟩
  intro message member
  obtain ⟨-, lower, upper, unstored⟩ := (among message).mp member
  rw [placed, found, window.numbered?_eq_none upper, Option.none_or,
    numbered?_range _ _ ⟨lower, upper⟩, unstored]

end WindowBelow

end Window

theorem toNat_window {oldest : UInt64} (above : 2 ≤ oldest) (size : UInt64) :
    (max (Word.subSat oldest size) 1).toNat = max (oldest.toNat - size.toNat) 1 ∧
      (oldest - 1).toNat + 1 = oldest.toNat := by
  have least : 2 ≤ oldest.toNat := UInt64.le_iff_toNat_le.mp above
  have last := Word.toNat_pred_of_pos (a := oldest)
    (UInt64.lt_iff_toNat_lt.mpr (Nat.lt_of_lt_of_le Nat.two_pos least))
  refine ⟨?_, by omega⟩
  rw [UInt64.toNat_max, Word.toNat_subSat, UInt64.toNat_one]

/-- The window of older messages ends just below the lowest number of a timeline. -/
theorem windowBelow_of_oldest {timeline : Timeline} {oldest : UInt64}
    (settled : timeline.pending = []) (ascending : timeline.Ascending)
    (lowest : timeline.oldest? = some oldest) (above : 2 ≤ oldest) (size : UInt64) :
    WindowBelow timeline (max (Word.subSat oldest size) 1) (oldest - 1) := by
  obtain ⟨first, last⟩ := toNat_window above size
  have bound := oldest.toNat_lt
  refine ⟨settled, ascending, ?_, fun seq member => ?_, ?_⟩
  · rw [UInt64.lt_iff_toNat_lt, first, UInt64.toNat_zero]
    omega
  · have order := UInt64.le_iff_toNat_le.mp ((List.min?_eq_some_iff.mp lowest).2 seq member)
    rw [UInt64.lt_iff_toNat_lt]
    omega
  · rw [UInt64.lt_iff_toNat_lt, Word.toNat_top]
    simp only [UInt64.size]
    omega

/-- A timeline with a lowest number is one that the session has. -/
theorem bind_oldest?_of_timeline {σ η : Type} {session : Session σ η} {channel : Channel}
    {oldest : UInt64} (lowest : (session.timeline channel).oldest? = some oldest) :
    (session.timelines.find? channel).bind Timeline.oldest? = some oldest := by
  unfold Session.timeline at lowest
  cases present : session.timelines.find? channel with
  | none =>
      rw [present] at lowest
      cases lowest
  | some timeline =>
      rw [present] at lowest
      exact lowest

section Filled

variable {session : Session MemoryStore ScriptedHistory} {peer : AccountId} {log : List Message}

/-- A window is filled with the stored messages first, and then with those that history has under
the missing numbers. -/
theorem fill_window {low high : UInt64} (hosts : session.Hosts peer log)
    (window : WindowBelow (session.timeline (.between session.me peer)) low high) :
    let channel := Channel.between session.me peer
    let filled := mergeCached (session.timeline channel) (session.store.range channel low high)
    let found := Message.combined (session.store.shelf channel) log low.toNat
      (high.toNat + 1 - low.toNat)
    let gaps := filled.2.gaps low high
    ∃ after,
      ((gaps.flatMap fun gap => pieces session.config.sync.pageSize gap.1 gap.2).foldlM
        (fun added piece => fetchPiece channel added piece.1 piece.2) filled.1 :
          SessionM MemoryStore ScriptedHistory Nat) (session.setTimeline channel filled.2) =
        .ok found.length after ∧
      (after.timeline channel).entries = found ++ (session.timeline channel).entries ∧
      (∀ message ∈ found, message ∈ after.store.shelf channel) ∧
      MaximalRuns (Missing session.store channel low high) (gaps.map Timeline.ends) ∧
      after.history.requests = session.history.requests ++
        ((gaps.map Timeline.ends).flatMap (cut (max session.config.sync.pageSize.toNat 1))).map
          fun piece => ⟨peer, .ofNat piece.1, .ofNat piece.2⟩ := by
  intro channel filled found gaps
  let asked := gaps.flatMap fun gap => pieces session.config.sync.pageSize gap.1 gap.2
  have merged : filled.2 = (session.timeline channel).insertAll
      (session.store.range channel low high) := snd_mergeCached _ _
  have maximal : MaximalRuns (Missing session.store channel low high) (gaps.map Timeline.ends) := by
    change MaximalRuns _ ((filled.2.gaps low high).map Timeline.ends)
    rw [merged]
    exact window.maximalRuns_gaps
  obtain ⟨cutEq, covers⟩ := covers_pieces maximal session.config.sync.pageSize
  have increasing : Message.Ascending log := hosts.serves.ascending
  have belongs : ∀ message ∈ log, message.channel session.me = channel :=
    hosts.own ▸ hosts.serves.belongs
  have positive : ∀ piece ∈ asked, 0 < piece.1 := fun _ member =>
    (window.bounds_of_covers covers member).1
  have nonempty : ∀ piece ∈ asked, piece.1 ≤ piece.2 := fun _ member =>
    (window.bounds_of_covers covers member).2
  have misses := window.misses covers increasing belongs
  rw [← merged] at misses
  have kept : (session.setTimeline channel filled.2).Hosts peer log :=
    ⟨hosts.own, hosts.meFits, hosts.peerFits, hosts.serves⟩
  obtain ⟨after, fetched, gains, requests⟩ :=
    fetchPieces_of_misses kept positive nonempty misses filled.1
  have placed : (session.setTimeline channel filled.2).timeline channel = filled.2 :=
    timeline_setTimeline_self ..
  have timeline_eq := gains.timeline_eq
  have longer := gains.longer
  rw [show Channel.between (session.setTimeline channel filled.2).me peer = channel from rfl,
    placed] at timeline_eq longer
  have entries_eq := congrArg Timeline.entries timeline_eq
  rw [merged, window.entries_insertAll covers increasing] at entries_eq
  refine ⟨after, ?_, entries_eq, ?_, maximal, ?_⟩
  · have counted : filled.1 + (session.timeline channel).entries.length =
        filled.2.entries.length :=
      fst_mergeCached (session.timeline channel) (session.store.range channel low high)
    rw [entries_eq, List.length_append] at longer
    refine fetched.trans (congrArg (EStateM.Result.ok · after) ?_)
    change found.length + (session.timeline channel).entries.length = _ at longer
    omega
  · intro message member
    obtain ⟨n, among, search⟩ := List.mem_filterMap.mp member
    obtain ⟨lower, upper⟩ := List.mem_range'_1.mp among
    rw [← numbered?_or_inPieces covers increasing lower (by omega)] at search
    exact (Message.of_numbered? ((gains.shelf_eq n).trans search)).1
  · rw [requests, ← cutEq, List.map_map]
    refine congrArg (session.history.requests ++ ·) (List.map_congr_left fun piece _ => ?_)
    simp [Timeline.ends]

/-- Loading the messages below the oldest one of a settled timeline puts in front of it, for every
number of the window, the message that is stored, or else the one that history has.  The result
counts them, and all of them are stored then.  The requests are the longest runs of numbers that the
store lacks, cut into pages. -/
theorem loadOlder_fills_window
    (meFits : session.me.toNat < 1 <<< 46) (peerFits : peer.toNat < 1 <<< 46)
    (own : session.history.me = session.me)
    (serves : session.history.Serves (.between session.me peer) log)
    (settled : (session.timeline (.between session.me peer)).pending = [])
    (ascending : (session.timeline (.between session.me peer)).Ascending) {oldest : UInt64}
    (lowest : (session.timeline (.between session.me peer)).oldest? = some oldest)
    (above : 2 ≤ oldest) :
    let channel := Channel.between session.me peer
    let low := max (oldest.toNat - session.config.window.toNat) 1
    let stored := session.store.shelf channel
    let found := Message.combined stored log low (oldest.toNat - low)
    ∃ runs after,
      loadOlder channel session = .ok found.length after ∧
      (after.timeline channel).entries = found ++ (session.timeline channel).entries ∧
      (∀ message ∈ found, message ∈ after.store.shelf channel) ∧
      MaximalRuns (fun n => low ≤ n ∧ n < oldest.toNat ∧ Message.numbered? stored n = none) runs ∧
      after.history.requests = session.history.requests ++
        (runs.flatMap (cut (max session.config.sync.pageSize.toNat 1))).map fun piece =>
          ⟨peer, .ofNat piece.1, .ofNat piece.2⟩ := by
  intro channel low stored found
  have window := windowBelow_of_oldest settled ascending lowest above session.config.window
  obtain ⟨firstEq, lastEq⟩ := toNat_window above session.config.window
  have known := bind_oldest?_of_timeline lowest
  have notOne : ¬oldest ≤ 1 := by
    have least : 2 ≤ oldest.toNat := UInt64.le_iff_toNat_le.mp above
    rw [UInt64.le_iff_toNat_le, UInt64.toNat_one]
    omega
  obtain ⟨after, filled, entries, kept, maximal, requests⟩ :=
    fill_window ⟨own, meFits, peerFits, serves⟩ window
  rw [firstEq, lastEq] at filled entries kept
  refine ⟨_, after, (loadOlder_of_oldest known notOne).trans filled, entries, kept,
    maximal.congr fun n => ?_, requests⟩
  unfold Missing
  rw [firstEq]
  exact and_congr_right fun _ => and_congr_left fun _ => by omega

end Filled

/-! ## A store and a history with holes -/

/-- The texts 2, 4 and 6 of account 2 to account 1. -/
def evenLog : List Message :=
  [2, 4, 6].map fun seq => .bareText 2 1 seq (1000 + seq)

/-- A history of account 1 that has these texts. -/
def evenHistory : ScriptedHistory where
  me := 1
  logs := ⟨[(⟨1, 2⟩, evenLog.map fun message => (message.header.seq, message.spelling))]⟩

/-- A session with text 8 in its timeline and text 3 in its store, whose windows have six numbers
and whose pages have two. -/
def holed : Session MemoryStore ScriptedHistory :=
  (start 1 ⟨8, 6, { pageSize := 2 }⟩ ⟨⟨[(⟨1, 2⟩, [.bareText 2 1 3 1003])]⟩, .empty⟩
    evenHistory).setTimeline ⟨1, 2⟩ ⟨[.bareText 2 1 8 1008]⟩

theorem serves_evenHistory : evenHistory.Serves (.between 1 2) evenLog where
  prompt := rfl
  reliable := rfl
  spelled := rfl
  ascending := by decide
  wellFormed := by decide
  content := by decide
  belongs := by decide

/-- Of the window from 2 to 7 text 3 is stored, and history has 2, 4 and 6.  The number 2 takes one
request, and the numbers from 4 to 7 take two. -/
theorem window_of_holed :
    ∃ after, loadOlder (.between holed.me 2) holed = .ok 4 after ∧
      (after.timeline ⟨1, 2⟩).entries =
        ([2, 3, 4, 6, 8].map fun seq => .bareText 2 1 seq (1000 + seq)) ∧
      after.history.requests = [⟨2, 2, 2⟩, ⟨2, 4, 5⟩, ⟨2, 6, 7⟩] := by
  have serves : holed.history.Serves (.between holed.me 2) evenLog := serves_evenHistory
  have lowest : (holed.timeline (.between holed.me 2)).oldest? = some 8 := by decide
  obtain ⟨_, after, loaded, entries, -⟩ := loadOlder_fills_window (by decide) (by decide) rfl
    serves (by decide) (by decide) lowest (by decide)
  have requests : (leaves (loadOlder (.between holed.me 2)) holed).history.requests =
      [⟨2, 2, 2⟩, ⟨2, 4, 5⟩, ⟨2, 6, 7⟩] := by decide +kernel
  rw [leaves_of_ok loaded] at requests
  exact ⟨after, loaded, entries, requests⟩

end Session

end Messenger
