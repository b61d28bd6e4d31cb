import Mathlib.Data.List.Sort
import Messenger.Proofs.History.Contiguous
import Messenger.Proofs.Session.Arrival
import Messenger.Proofs.Session.Cycle

/-!
# Synchronizing with a log without holes

A fresh session that receives the newest message of a log without holes runs the
cycle of its channel to the end: it has every number that its store lacked, and has
asked for one window after the other.
-/

namespace Messenger

/-- What an arrival makes of a channel of which only the newest number is known. -/
theorem SyncState.arrive_of_newest (newest seq : UInt64) :
    SyncState.arrive ⟨unknownSeq, some newest, false⟩ seq =
      if newest.toNat + 1 < seq.toNat then ⟨newest + 1, some seq, false⟩
      else ⟨unknownSeq, some (if newest < seq then seq else newest), false⟩ := by
  have bound := seq.toNat_lt
  have following := Word.toNat_addSat newest 1
  simp only [UInt64.reduceToNat, UInt64.size] at following
  split
  · next gap =>
      have newer : newest < seq := UInt64.lt_iff_toNat_lt.mpr (by omega)
      have missing := Word.toNat_succ_of_lt newer
      have skips : SyncState.skips ⟨unknownSeq, some newest, false⟩ seq = true := by
        rw [SyncState.skips, decide_eq_true_iff, UInt64.lt_iff_toNat_lt]
        simp only [Option.getD_some]
        omega
      have below : newest + 1 < unknownSeq := by
        rw [UInt64.lt_iff_toNat_lt, missing, toNat_unknownSeq]
        omega
      simp [SyncState.arrive, skips, below, newer]
  · next noGap =>
      have skips : SyncState.skips ⟨unknownSeq, some newest, false⟩ seq = false := by
        rw [SyncState.skips, decide_eq_false_iff_not, UInt64.lt_iff_toNat_lt]
        simp only [Option.getD_some]
        omega
      simp [SyncState.arrive, skips, apply_ite some]

/-- The first arrival in a channel skips the numbers behind the tail that the channel is anchored
at, and a cycle for them is issued. -/
theorem Tracker.issue_of_first_arrival (size : UInt64) (channel : Channel) {tail : Option UInt64}
    {seq : UInt64} (beyond : (tail.getD 0).toNat + 2 ≤ seq.toNat) :
    ((((start size).anchor channel tail).arrive channel seq).2.issue channel).1 =
      some ⟨channel, tail.getD 0 + 1, seq, max size 1⟩ := by
  have limit := seq.toNat_lt
  have newer : tail.getD 0 < seq := UInt64.lt_iff_toNat_lt.mpr (by omega)
  have missing := Word.toNat_succ_of_lt newer
  have state : (((start size).anchor channel tail).arrive channel seq).2.state channel =
      { next := tail.getD 0 + 1, newest := some seq, synced := false } := by
    rw [state_arrive, if_pos rfl, state_anchor, if_pos rfl]
    exact (SyncState.arrive_of_newest (tail.getD 0) seq).trans (if_pos (by omega))
  rw [issue_eq_some_iff, state]
  refine ⟨rfl, ?_, ?_, ?_, rfl⟩
  · rw [ne_eq, ← UInt64.toNat_inj, missing, toNat_unknownSeq]
    omega
  · rw [ne_eq, ← UInt64.toNat_inj, missing, toNat_caughtUp]
    omega
  · change tail.getD 0 + 1 ≤ seq
    rw [UInt64.le_iff_toNat_le, missing]
    omega

namespace Session

/-! ## The first message of a channel -/

section First

variable {η : Type} [HistorySource η] {message : Message}

/-- In a session without conversations, a new message of a channel that is seen for the first
time is accounted for and reported, and the cycle of the channel runs. -/
theorem announce_of_first {session merged : Session MemoryStore η}
    (firstSeen : session.tracker.state? (message.channel session.me) = none)
    (fresh : merged.conversations = .empty) (index : Nat) :
    ∃ store conversations, announce session message (.at index) merged =
      (do
        let _ ← catchUp (message.channel session.me)
        return .content (message.channel session.me) (.at index) : SessionM MemoryStore η Routed)
        { merged with
          store
          conversations
          events := merged.events ++ [.message (message.channel session.me) message] } := by
  let counts : Bool := session.active ≠ some (message.channel session.me)
  have noted : note (message.peer session.me) message counts merged =
      .ok () { merged with
        conversations := merged.conversations.noteMessage (message.peer session.me) message
          counts } := by
    unfold note
    rw [fresh]
    rfl
  unfold announce
  rw [firstSeen]
  exact ⟨_, _, bind_of_ok noted _⟩

/-- A fresh session takes in a numbered content message and runs the cycle of its channel. -/
theorem receive_of_first (me : AccountId) (config : SessionConfig) (store : MemoryStore)
    (history : η) {frame : Octets} {seq : UInt64} (decoded : Message.decode frame = .ok message)
    (content : message.header.kind.isContent = true) (numbered : message.seq? = some seq) :
    let channel := message.channel me
    ∃ store' conversations, receive frame (start me config store history) =
      (do
        let _ ← catchUp channel
        return .content channel (.at 0) : SessionM MemoryStore η Routed)
        { start me config store' history with
          conversations
          timelines := Assoc.empty.insert channel ⟨[message]⟩
          tracker := (((Tracker.start config.sync.pageSize).anchor channel
            (store.latest channel)).arrive channel seq).2
          events := [.message channel message] } := by
  intro channel
  obtain ⟨outcome, saved, saving, -⟩ := store.save_of_numbered channel numbered
  let anchored : Session MemoryStore η :=
    { start me config store history with
      tracker := (Tracker.start config.sync.pageSize).anchor channel (store.latest channel) }
  have tracked : anchor channel (start me config store history) = .ok () anchored := rfl
  let merged : Session MemoryStore η :=
    { anchored.setTimeline channel ⟨[message]⟩ with
      store := saved
      tracker := (anchored.tracker.arrive channel seq).2 }
  have placed : merge channel message anchored = .ok (.at 0) merged :=
    merge_of_saved numbered rfl saving
  have firstSeen : (start me config store history).tracker.state? channel = none := rfl
  have fresh : merged.conversations = .empty := rfl
  obtain ⟨listed, conversations, announced⟩ := announce_of_first firstSeen fresh 0
  refine ⟨listed, conversations, ?_⟩
  rw [receive_eq_receiveContent decoded content]
  exact (receiveContent_eq _ message).trans
    ((bind_of_ok tracked _).trans ((bind_of_ok placed _).trans announced))

end First

variable {channel : Channel} {log : List Message}

/-! ## The pages of the cycle -/

/-- Between accounts that fit a header, a turn of the cycle over a store in memory never fails. -/
theorem Served.exists_turn {session : Session MemoryStore ScriptedHistory} {cursor : Cursor}
    (served : session.Served channel cursor.peer log) (meFits : session.me.toNat < 1 <<< 46)
    (peerFits : cursor.peer.toNat < 1 <<< 46) (active : cursor.done = false)
    (nextPos : 0 < cursor.next) (merged : Nat) :
    ∃ count middle, takePage channel (session.pageFor log cursor) (session.asking cursor) =
        .ok count middle ∧
      catchUpFrom channel cursor merged session =
        catchUpFrom channel (cursor.advance (session.pageFor log cursor)) (merged + count)
          middle := by
  have paged : ∃ count middle, takePage channel (session.pageFor log cursor)
      (session.asking cursor) = .ok count middle :=
    exists_takePage (session.asking cursor) (fun _ onPage => (served.of_mem_page nextPos onPage).1)
      fun _ onPage => (served.of_mem_page nextPos onPage).2
  obtain ⟨count, middle, took⟩ := paged
  -- A page fails only over a sentinel that cannot be written.
  obtain ⟨ending, frame, composed, encoded⟩ := Message.exists_historyEnd peerFits
    (served.account.symm ▸ meFits : session.history.me.toNat < 1 <<< 46)
  have writable : (Message.historyEnd cursor.peer session.history.me 0).bind Message.encode =
      .ok frame := Except.bind_eq_ok_iff.mpr ⟨ending, composed, encoded⟩
  have turn := (served.turn active nextPos merged).resolve_right
    fun ⟨⟨_, unwritable⟩, _⟩ => nomatch writable.symm.trans unwritable
  exact ⟨count, middle, took, turn.trans (bind_of_ok took _)⟩

/-- Over a log without holes, the cycle runs to its end, asks for its windows in order, and
reports that the channel is complete. -/
theorem exists_completed {session : Session MemoryStore ScriptedHistory} {cursor : Cursor}
    {last : Nat} (served : session.Served channel cursor.peer log)
    (contiguous : Backfill.Contiguous log last) (meFits : session.me.toNat < 1 <<< 46)
    (peerFits : cursor.peer.toNat < 1 <<< 46) (runs : cursor.Runs session.history.sentinel last)
    (merged : Nat) :
    ∃ total after, catchUpFrom channel cursor merged session = .ok (.completed total) after ∧
      after.events = session.events ++ [.syncCompleted channel] ∧
      (after.tracker.state channel).next = caughtUp ∧
      after.history.requests.map HistoryRequest.bounds =
        session.history.requests.map HistoryRequest.bounds ++
          Backfill.windows cursor.peer session.history.sentinel last cursor.next.toNat
            cursor.pageSize.toNat := by
  -- One turn, then the cycle from the next cursor: `Runs` is what every turn preserves.
  have lowPos : 1 ≤ cursor.next.toNat := UInt64.lt_iff_toNat_lt.mp runs.next_pos
  have sizePos : 0 < cursor.pageSize.toNat := UInt64.lt_iff_toNat_lt.mp cursor.pageSize_pos
  have complete_iff : (session.pageFor log cursor).complete = true ↔
      last < cursor.next.toNat ∨ session.history.sentinel = true ∧
        last < cursor.next.toNat + cursor.pageSize.toNat :=
    contiguous.complete_iff lowPos sizePos
  obtain ⟨count, middle, took, turn⟩ :=
    served.exists_turn meFits peerFits runs.active runs.next_pos merged
  obtain ⟨taken, history, events, finished⟩ := served.takesIn_page runs.next_pos took
  have asked : middle.history.requests.map HistoryRequest.bounds =
      session.history.requests.map HistoryRequest.bounds ++
        [(cursor.peer, cursor.next.toNat, cursor.next.toNat + cursor.pageSize.toNat - 1)] := by
    have near := runs.near
    have room := runs.room
    have limit := toNat_highestSeq
    rw [history]
    exact session.history.bounds_asked cursor.pageSize_pos (by
      simp only [UInt64.size]
      omega)
  rw [turn]
  cases complete : (session.pageFor log cursor).complete with
  | true =>
      have ended : (cursor.advance (session.pageFor log cursor)).done = true := by
        rw [Cursor.advance_of_complete complete]
      rw [catchUpFrom_of_done _ (Backfill.nextPage_of_done ended)]
      rw [complete, if_pos rfl] at events
      refine ⟨_, middle, rfl, events, finished complete, ?_⟩
      rw [asked, Backfill.windows_of_complete sizePos runs.within (complete_iff.mp complete)]
  | false =>
      rw [complete, iff_false_left Bool.false_ne_true, not_or, not_and, Nat.not_lt] at complete_iff
      obtain ⟨within, more⟩ := complete_iff
      obtain ⟨onward, moved⟩ := runs.advance complete within fun sends =>
        Nat.not_lt.mp (more sends)
      have sentinel : middle.history.sentinel = session.history.sentinel := by
        rw [history]
        rfl
      obtain ⟨total, after, completed, reported, caught, requested⟩ :=
        exists_completed (served.taken taken history _) contiguous (taken.me_eq.symm ▸ meFits)
          (by rwa [Cursor.peer_advance]) (sentinel ▸ onward) (merged + count)
      rw [complete, if_neg Bool.false_ne_true, List.append_nil] at events
      rw [events] at reported
      refine ⟨total, after, completed, reported, caught, ?_⟩
      rw [requested, asked, sentinel, moved, Cursor.pageSize_advance, Cursor.peer_advance,
        Backfill.windows_of_incomplete sizePos within, List.append_assoc]
      rfl
termination_by cursor.distance
decreasing_by exact Cursor.distance_advance_lt (Cursor.request?_of_active runs.active) _

/-! ## The whole synchronization -/

/-- After a cycle over a log without holes, an ascending timeline has exactly the numbers from the
first one that the cycle asked for to the last one. -/
theorem TakesIn.seqs_eq_range {before after : Session MemoryStore ScriptedHistory}
    {cursor : Cursor} {last : Nat} (taken : TakesIn channel (cursor.Fetches log) before after)
    (contiguous : Backfill.Contiguous log last) (active : cursor.done = false)
    (nextPos : 0 < cursor.next) (ascending : (before.timeline channel).Ascending)
    (within : ∀ seq ∈ (before.timeline channel).seqs,
      cursor.next.toNat ≤ seq.toNat ∧ seq.toNat ≤ last) :
    (after.timeline channel).seqs.map UInt64.toNat =
      List.range' cursor.next.toNat (last + 1 - cursor.next.toNat) := by
  have lowPos : 1 ≤ cursor.next.toNat := UInt64.lt_iff_toNat_lt.mp nextPos
  have sizePos : 0 < cursor.pageSize.toNat := UInt64.lt_iff_toNat_lt.mp cursor.pageSize_pos
  have ordered : ((after.timeline channel).seqs.map UInt64.toNat).Pairwise (· < ·) :=
    List.pairwise_map.mpr ((taken.ascending ascending).imp UInt64.lt_iff_toNat_lt.mp)
  refine ordered.eq_of_mem_iff (List.pairwise_lt_range' ..) fun number => ?_
  rw [List.mem_map, List.mem_range'_1]
  constructor
  · rintro ⟨seq, member, rfl⟩
    rcases (taken.seqs seq).mp member with known | ⟨message, ⟨logged, -, reached⟩, rfl⟩
    · have := within seq known
      omega
    · have := contiguous.exists_mem_iff.mp ⟨message, logged, rfl⟩
      have := reached.1
      omega
  · intro asked
    obtain ⟨message, logged, rfl⟩ := contiguous.exists_mem_iff.mpr
      (by omega : 1 ≤ number ∧ number ≤ last)
    have reached := (contiguous.reaches_iff lowPos sizePos logged).mpr asked.1
    exact ⟨_, (taken.seqs _).mpr (.inr ⟨message, ⟨logged, active, reached⟩, rfl⟩), rfl⟩

/-- A cycle that is issued over a log without holes runs to its end, and leaves an ascending
timeline with exactly the numbers from its first one to the last one. -/
theorem exists_caughtUp {session : Session MemoryStore ScriptedHistory} {peer : AccountId}
    {plan : SyncPlan} {last : Nat} (served : session.Served channel peer log)
    (contiguous : Backfill.Contiguous log last) (meFits : session.me.toNat < 1 <<< 46)
    (peerFits : peer.toNat < 1 <<< 46) (issued : (session.tracker.issue channel).1 = some plan)
    (lowPos : 0 < plan.low) (sizePos : 0 < plan.pageSize) (low : plan.low.toNat ≤ last)
    (room : last + plan.pageSize.toNat ≤ highestSeq.toNat)
    (ascending : (session.timeline channel).Ascending)
    (within : ∀ seq ∈ (session.timeline channel).seqs,
      plan.low.toNat ≤ seq.toNat ∧ seq.toNat ≤ last) :
    ∃ total after, catchUp channel session = .ok (.completed total) after ∧
      (after.timeline channel).seqs.map UInt64.toNat =
        List.range' plan.low.toNat (last + 1 - plan.low.toNat) ∧
      (after.tracker.state channel).next = caughtUp ∧
      after.events = session.events ++ [.syncCompleted channel] ∧
      after.history.requests.map HistoryRequest.bounds =
        session.history.requests.map HistoryRequest.bounds ++
          Backfill.windows peer session.history.sentinel last plan.low.toNat
            plan.pageSize.toNat := by
  have next : (plan.cursor peer).next = plan.low := Cursor.max_one_of_pos lowPos
  have size : (plan.cursor peer).pageSize = plan.pageSize := Cursor.max_one_of_pos sizePos
  have runs : (plan.cursor peer).Runs session.history.sentinel last := by
    refine ⟨rfl, next ▸ lowPos, fun _ => next ▸ low, ?_, size ▸ room⟩
    rw [next]
    omega
  obtain ⟨total, after, completed, events, caught, requests⟩ :=
    exists_completed (served.issuing plan) contiguous meFits peerFits runs 0
  have taken := takesIn_of_catchUpFrom (served.issuing plan) runs.next_pos completed
  have numbers := taken.seqs_eq_range contiguous rfl runs.next_pos ascending
    (next.symm ▸ within)
  rw [next] at numbers
  rw [next, size] at requests
  have run := (served.catchUp_eq issued).trans completed
  exact ⟨total, after, run, numbers, caught, events, requests⟩

/-- A fresh session that receives the newest message of a log without holes, beyond the number
that follows the stored tail, has all numbers behind the tail in the end, and has asked for them
in consecutive windows: as many as they fill, and one more unless the end sentinel spares it. -/
theorem synchronized_with_contiguous_log {me peer : AccountId} {config : SessionConfig}
    {store : MemoryStore} {history : ScriptedHistory} {log : List Message} {message : Message}
    {frame : Octets} (meFits : me.toNat < 1 <<< 46) (peerFits : peer.toNat < 1 <<< 46)
    (account : history.me = me) (serves : history.Serves (.between me peer) log)
    (contiguous : Backfill.Contiguous log message.header.seq.toNat)
    (behind : ((store.latest (.between me peer)).getD 0).toNat + 2 ≤ message.header.seq.toNat)
    (pageSize : 0 < config.sync.pageSize)
    (room : message.header.seq.toNat + config.sync.pageSize.toNat ≤ highestSeq.toNat)
    (decoded : Message.decode frame = .ok message)
    (content : message.header.kind.isContent = true)
    (belongs : message.channel me = .between me peer) :
    let channel := Channel.between me peer
    let tail := ((store.latest channel).getD 0).toNat
    let last := message.header.seq.toNat
    let size := config.sync.pageSize.toNat
    let count := (last - tail + size - 1) / size + if history.sentinel then 0 else 1
    ∃ after, receive frame (start me config store history) = .ok (.content channel (.at 0)) after ∧
      (after.timeline channel).seqs.map UInt64.toNat = List.range' (tail + 1) (last - tail) ∧
      (∀ seq ∈ (after.timeline channel).seqs, after.store.Holds channel seq) ∧
      (after.tracker.state channel).next = caughtUp ∧
      after.events = [.message channel message, .syncCompleted channel] ∧
      after.history.requests.map HistoryRequest.bounds =
        history.requests.map HistoryRequest.bounds ++
          (List.range count).map fun i => (peer, tail + 1 + i * size, tail + (i + 1) * size) := by
  intro channel tail last size count
  have numbered : message.seq? = some message.header.seq := by
    refine Message.seq?_eq_some_iff.mpr ⟨rfl, fun zero => ?_⟩
    rw [zero, UInt64.toNat_zero] at behind
    omega
  obtain ⟨store', conversations, received⟩ :=
    receive_of_first me config store history decoded content numbered
  rw [belongs] at received
  have issued := Tracker.issue_of_first_arrival config.sync.pageSize channel behind
  have beyond : (store.latest channel).getD 0 < message.header.seq :=
    UInt64.lt_iff_toNat_lt.mpr (Nat.lt_of_succ_lt behind)
  have low : ((store.latest channel).getD 0 + 1).toNat = tail + 1 := Word.toNat_succ_of_lt beyond
  rw [Cursor.max_one_of_pos pageSize] at issued
  let noticed : Session MemoryStore ScriptedHistory :=
    { start me config store' history with
      conversations
      timelines := Assoc.empty.insert channel ⟨[message]⟩
      tracker := (((Tracker.start config.sync.pageSize).anchor channel
        (store.latest channel)).arrive channel message.header.seq).2
      events := [.message channel message] }
  have placed : noticed.timeline channel = ⟨[message]⟩ :=
    timeline_setTimeline (start me config store' history) channel channel _ |>.trans (if_pos rfl)
  have seqs : (noticed.timeline channel).seqs = [message.header.seq] := by
    rw [placed]
    exact List.filterMap_cons_some numbered
  have served : noticed.Served channel peer log := by
    refine ⟨account, rfl, serves, ?_⟩
    rw [placed, Timeline.pending_eq_nil_iff]
    simp [numbered]
  have ascending : (noticed.timeline channel).Ascending := by
    unfold Timeline.Ascending
    rw [seqs]
    exact List.pairwise_singleton ..
  have within : ∀ seq ∈ (noticed.timeline channel).seqs,
      ((store.latest channel).getD 0 + 1).toNat ≤ seq.toNat ∧ seq.toNat ≤ last := by
    rw [seqs, low]
    exact List.forall_mem_singleton.mpr ⟨Nat.le_of_succ_le behind, Nat.le_refl _⟩
  have lowPos : 0 < (store.latest channel).getD 0 + 1 := by
    rw [UInt64.lt_iff_toNat_lt, low]
    exact tail.succ_pos
  have lowLast : ((store.latest channel).getD 0 + 1).toNat ≤ last :=
    low ▸ Nat.le_of_succ_le behind
  obtain ⟨total, after, caughtUp, numbers, next, events, requests⟩ :=
    exists_caughtUp served contiguous meFits peerFits issued lowPos pageSize lowLast room
      ascending within
  rw [low, Nat.add_sub_add_right] at numbers
  have whole : receive frame (start me config store history) =
      .ok (.content channel (.at 0)) after := received.trans (bind_of_ok caughtUp _)
  refine ⟨after, whole, ?_, ?_, next, events, ?_⟩
  · exact numbers
  · have reached : Reachable (fun _ => False) after := by
      rw [← leaves_of_ok whole]
      exact .receive (.start me config store history) frame
    exact (reached.backed fun _ impossible => impossible.elim).held channel
  · rw [requests, low, Backfill.windows_succ]
    rfl

/-! ## A log of four texts -/

/-- The texts 1 to 4 of account 2 to account 1. -/
def fullLog : List Message :=
  [1, 2, 3, 4].map fun seq => .bareText 2 1 seq (1000 + seq)

/-- A history of account 1 that has these texts. -/
def fullHistory : ScriptedHistory where
  me := 1
  logs := ⟨[(⟨1, 2⟩, fullLog.map fun message => (message.header.seq, message.spelling))]⟩

/-- A store that has the first of these texts. -/
def oldStore : MemoryStore :=
  ⟨⟨[(⟨1, 2⟩, [.bareText 2 1 1 1001])]⟩, .empty⟩

theorem serves_fullHistory : fullHistory.Serves (.between 1 2) fullLog where
  prompt := rfl
  reliable := rfl
  spelled := rfl
  ascending := by decide
  wellFormed := by decide
  content := by decide
  belongs := by decide

/-- In windows of two, the three missing texts take two pages, and the third page is empty. -/
theorem synchronized_behind_first :
    fullHistory.Serves (.between 1 2) fullLog ∧ Backfill.Contiguous fullLog 4 ∧
      oldStore.latest (.between 1 2) = some 1 ∧
      ∃ after, receive (Message.bareText 2 1 4 1004).spelling
          (start 1 ⟨8, 8, { pageSize := 2 }⟩ oldStore fullHistory) =
            .ok (.content (.between 1 2) (.at 0)) after ∧
        (after.timeline (.between 1 2)).seqs.map UInt64.toNat = [2, 3, 4] ∧
        after.events =
          [.message (.between 1 2) (.bareText 2 1 4 1004), .syncCompleted (.between 1 2)] ∧
        after.history.requests.map HistoryRequest.bounds =
          [(2, 2, 3), (2, 4, 5), (2, 6, 7)] := by
  let newest : Message := .bareText 2 1 4 1004
  let config : SessionConfig := ⟨8, 8, { pageSize := 2 }⟩
  have decoded : Message.decode newest.spelling = .ok newest := by decide +kernel
  have contiguous : Backfill.Contiguous fullLog newest.header.seq.toNat := by decide
  have behind : ((oldStore.latest (.between 1 2)).getD 0).toNat + 2 ≤ newest.header.seq.toNat := by
    decide
  have pageSize : 0 < config.sync.pageSize := by decide
  obtain ⟨after, received, numbers, -, -, events, requests⟩ :=
    synchronized_with_contiguous_log (by decide) (by decide) rfl serves_fullHistory contiguous
      behind pageSize (by decide) decoded rfl rfl
  refine ⟨serves_fullHistory, contiguous, rfl, after, received, numbers, events, ?_⟩
  exact requests.trans (by decide)

end Session

end Messenger
