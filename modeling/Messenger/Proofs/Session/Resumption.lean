import Messenger.Proofs.Session.Arrival
import Messenger.Proofs.Session.Progress

/-!
# Cycles that are taken up again

Where a cycle of a channel has broken off, the next one takes up after a reconnection.
The first cycle that does not fail leaves what a single one would have left.
-/

namespace Messenger

namespace Session

variable {channel : Channel} {peer : AccountId} {log : List Message} {first last : UInt64}

section Filed

variable {earlier session : Session MemoryStore ScheduledHistory} {reached : Nat}

/-! ## Cycle after cycle -/

/-- The cycle of a channel is used up, whether there is something to fetch or not. -/
theorem HasFiled.issuing (has : HasFiled channel log first last earlier session reached) :
    HasFiled channel log first last earlier (session.issuing channel) reached := by
  have state : (session.issuing channel).tracker.state channel =
      { session.tracker.state channel with synced := true } := by
    unfold Session.issuing
    rw [Tracker.state_issue, if_pos rfl, SyncState.anchor, has.newest]
  refine { has with newest := ?_, next := ?_ }
  · rw [state]
    exact has.newest
  · rw [state]
    exact has.next

/-- A cycle takes up where the log was filed up to. -/
theorem HasFiled.of_catchUp (has : HasFiled channel log first last earlier session reached)
    (lacks : earlier.Lacks channel peer log first last)
    (fresh : (session.tracker.state channel).synced = false) (inLog : reached ≤ last.toNat) :
    ∃ after further, HasFiled channel log first last earlier after further ∧
      Ends channel last session after further (catchUp channel session) := by
  have needed : (session.tracker.state channel).next.toNat = reached :=
    has.next.resolve_right fun all => by omega
  have reachedPos := has.reached_pos lacks
  have limit := lacks.last_le
  rw [toNat_highestSeq] at limit
  have newest := SyncState.newestOrZero_of_known has.newest
  have issued : (session.tracker.issue channel).1 =
      some ⟨channel, (session.tracker.state channel).next, last, session.tracker.pageSize⟩ := by
    refine Tracker.issue_eq_some_iff.mpr ⟨fresh, ?_, ?_, ?_, newest ▸ rfl⟩
    · rw [ne_eq, ← UInt64.toNat_inj, toNat_unknownSeq]
      omega
    · rw [ne_eq, ← UInt64.toNat_inj, toNat_caughtUp]
      omega
    · rw [newest, UInt64.le_iff_toNat_le]
      omega
  have peerEq : channel.other session.me = peer := by
    rw [has.me_eq, ← lacks.parties, Channel.other_between]
  have low : max (session.tracker.state channel).next 1 = (session.tracker.state channel).next :=
    Cursor.max_one_of_pos (by
      rw [UInt64.lt_iff_toNat_lt, UInt64.toNat_zero]
      omega)
  rw [catchUp_of_plan issued, peerEq]
  obtain ⟨pages, turns⟩ := exists_turns channel
    (SyncPlan.cursor ⟨channel, (session.tracker.state channel).next, last,
      session.tracker.pageSize⟩ peer) 0 (session.issuing channel)
  obtain ⟨after, further, filed, ends⟩ := HasFiled.of_turns turns lacks
    has.issuing (.inl ⟨rfl, (congrArg UInt64.toNat low).trans needed, inLog⟩)
  exact ⟨after, further, filed, ends.of_turn rfl rfl id⟩

/-- Once the whole log was filed, there is nothing to fetch. -/
theorem HasFiled.catchUp_of_all
    (has : HasFiled channel log first last earlier session (last.toNat + 1)) :
    catchUp channel session = .ok .skipped (session.issuing channel) := by
  refine catchUp_of_none (Option.eq_none_iff_forall_ne_some.mpr fun plan issued => ?_)
  obtain ⟨-, -, needs, within, -⟩ := Tracker.issue_eq_some_iff.mp issued
  rw [SyncState.newestOrZero_of_known has.newest, UInt64.le_iff_toNat_le] at within
  rcases has.next with next | ⟨next, -⟩
  · omega
  · exact needs next

/-- A session that has tried to catch up with a channel, and was reconnected since. -/
def reconnected (channel : Channel) (session : Session MemoryStore ScheduledHistory) :
    Session MemoryStore ScheduledHistory :=
  leaves disconnect (leaves (catchUp channel) session)

/-- A reconnection lets the channel have another cycle. -/
theorem HasFiled.of_disconnect (has : HasFiled channel log first last earlier session reached) :
    HasFiled channel log first last earlier (leaves disconnect session) reached ∧
      ((leaves disconnect session).tracker.state channel).synced = false := by
  have state : (leaves disconnect session).tracker.state channel =
      { session.tracker.state channel with synced := false } :=
    Tracker.state_rearm ..
  refine ⟨{ has with newest := ?_, next := ?_ }, ?_⟩
  · rw [state]
    exact has.newest
  · rw [state]
    exact has.next
  · rw [state]

/-- However often a cycle was tried, the log was filed up to some number. -/
theorem Lacks.exists_hasFiled (lacks : session.Lacks channel peer log first last)
    (attempts : Nat) :
    ∃ reached, HasFiled channel log first last session ((reconnected channel)^[attempts] session)
        reached ∧
      (((reconnected channel)^[attempts] session).tracker.state channel).synced = false := by
  induction attempts with
  | zero => exact ⟨_, lacks.hasFiled, by rw [Function.iterate_zero, id, lacks.gap]⟩
  | succ attempts ih =>
      obtain ⟨reached, has, fresh⟩ := ih
      rw [Function.iterate_succ_apply']
      generalize (reconnected channel)^[attempts] session = current at has fresh ⊢
      unfold reconnected
      rcases Nat.lt_or_eq_of_le has.within with inLog | rfl
      · obtain ⟨after, further, filed, ends⟩ :=
          has.of_catchUp lacks fresh (Nat.le_of_lt_succ inLog)
        rw [ends.leaves_eq]
        exact ⟨further, filed.of_disconnect⟩
      · rw [leaves_of_ok has.catchUp_of_all]
        exact ⟨_, has.issuing.of_disconnect⟩

end Filed

/-! ## Nothing is lost -/

/-- A number is in the timeline of a channel, and in the store unless it was unsaved before.  What
was unsaved in an ascending timeline still is. -/
structure Retains (channel : Channel) (earlier session : Session MemoryStore ScheduledHistory)
    (seq : UInt64) : Prop where
  listed : seq ∈ (session.timeline channel).seqs
  stored : ¬Unsaved channel (earlier.timeline channel, earlier.store) seq →
    session.store.Holds channel seq
  missed : (earlier.timeline channel).Ascending →
    Unsaved channel (earlier.timeline channel, earlier.store) seq →
      ¬session.store.Holds channel seq

/-- The numbers that a channel no longer needs are retained. -/
structure LosesNothing (channel : Channel) (first last : UInt64)
    (earlier session : Session MemoryStore ScheduledHistory) : Prop where
  next : (session.tracker.state channel).next = caughtUp ∨
    first ≤ (session.tracker.state channel).next
  kept : ∀ seq, first ≤ seq →
    seq < (session.tracker.state channel).next ∨
      (session.tracker.state channel).next = caughtUp ∧ seq ≤ last →
    Retains channel earlier session seq

variable {session : Session MemoryStore ScheduledHistory}

/-- What the channel no longer needs is below the number up to which the log was filed. -/
theorem HasFiled.lt_reached {earlier : Session MemoryStore ScheduledHistory} {reached : Nat}
    (has : HasFiled channel log first last earlier session reached)
    (lacks : earlier.Lacks channel peer log first last) {seq : UInt64}
    (unneeded : seq < (session.tracker.state channel).next ∨
      (session.tracker.state channel).next = caughtUp ∧ seq ≤ last) : seq.toNat < reached := by
  rcases unneeded with below | ⟨done, within⟩
  · have less := UInt64.lt_iff_toNat_lt.mp below
    rcases has.next with next | ⟨next, -⟩
    · rwa [← next]
    · rw [next, toNat_caughtUp] at less
      exact (Nat.not_lt_zero _ less).elim
  · rw [UInt64.le_iff_toNat_le] at within
    rcases has.next with next | ⟨-, rfl⟩
    · have reachedPos := has.reached_pos lacks
      rw [done, toNat_caughtUp] at next
      omega
    · exact Nat.lt_succ_of_le within

/-- What was filed is retained. -/
theorem HasFiled.retains {earlier : Session MemoryStore ScheduledHistory} {reached : Nat}
    (has : HasFiled channel log first last earlier session reached)
    (lacks : earlier.Lacks channel peer log first last) {seq : UInt64} (above : first ≤ seq)
    (below : seq.toNat < reached) : Retains channel earlier session seq := by
  have firstPos := UInt64.lt_iff_toNat_lt.mp lacks.first_pos
  have numbered : ∀ message ∈ Backfill.window log first.toNat (reached - first.toNat),
      message.header.seq ≠ 0 := fun message member => (lacks.of_mem_window firstPos member).1
  have timeline : session.timeline channel = _ := congrArg Prod.fst has.filed
  have range := has.within
  rw [UInt64.le_iff_toNat_le] at above
  rw [UInt64.toNat_zero] at firstPos
  obtain ⟨message, logged, number⟩ := lacks.contiguous.exists_mem_iff.mpr
    (⟨by omega, by omega⟩ : 1 ≤ seq.toNat ∧ seq.toNat ≤ last.toNat)
  have windowed := Backfill.mem_window.mpr ⟨logged, (by omega : first.toNat ≤ _),
    (by omega : _ < first.toNat + (reached - first.toNat))⟩
  have present : seq ∈ (session.timeline channel).seqs := by
    rw [timeline, mem_seqs_fileAll lacks.settled numbered]
    exact .inr ⟨message, windowed, UInt64.toNat_inj.mp number⟩
  refine ⟨present, fun saved => ?_, fun ascending unsaved => ?_⟩
  · by_contra missing
    apply saved
    apply unsaved_of_fileAll lacks.settled numbered
    rw [← has.filed]
    exact ⟨present, missing⟩
  · have still := unsaved.fileAll lacks.settled ascending numbered
    rw [← has.filed] at still
    exact still.2

theorem HasFiled.losesNothing {earlier : Session MemoryStore ScheduledHistory} {reached : Nat}
    (has : HasFiled channel log first last earlier session reached)
    (lacks : earlier.Lacks channel peer log first last) :
    LosesNothing channel first last earlier session where
  next := by
    rcases has.next with next | ⟨next, -⟩
    · exact .inr (UInt64.le_iff_toNat_le.mpr (next ▸ has.above))
    · exact .inl next
  kept _ above unneeded := has.retains lacks above (has.lt_reached lacks unneeded)

/-- Troubles of the history do not matter to what a channel lacks. -/
theorem Lacks.untroubled (lacks : session.Lacks channel peer log first last) :
    (session.withHistory session.history.untroubled).Lacks channel peer log first last :=
  { lacks with logs := lacks.logs.of_same ⟨rfl, rfl, rfl⟩ }

/-- A backfill that is interrupted is taken up again without loss.  However often its cycle was
tried over a log without holes and whatever troubles the history has, before the next cycle and
after it the numbers that the channel no longer needs are in its timeline, and in the store unless
they were unsaved at first, as no number is if the owner only submits messages without one.  The
cycle fails in the face of troubles, with one report and no other event, or it leaves the timeline
and the store as a single cycle over a history without troubles does, which runs to its end and
leaves nothing out.  Only in the face of troubles, and where the retry policy leaves no room for the
random part of a pause, the program may end in the middle of the cycle, without an event. -/
theorem resumed_without_loss (lacks : session.Lacks channel peer log first last)
    (attempts : Nat) :
    let before := (reconnected channel)^[attempts] session
    let calm := session.withHistory session.history.untroubled
    let single := leaves (catchUp channel) calm
    (∃ total, catchUp channel calm = .ok (.completed total) single) ∧
    (∀ seq, first ≤ seq → seq ≤ last → Retains channel session single seq) ∧
    LosesNothing channel first last session before ∧
    LosesNothing channel first last session (leaves (catchUp channel) before) ∧
    (Reachable (fun message => message.seq? = none) session →
      ∀ seq, ¬Unsaved channel (session.timeline channel, session.store) seq) ∧
    ((∃ merged reason after, catchUp channel before = .ok (.failed merged reason) after ∧
        ¬before.history.Untroubled ∧
        after.events = before.events ++ [.syncFailed channel reason]) ∨
      (∃ outcome after, catchUp channel before = .ok outcome after ∧
        (∀ merged reason, outcome ≠ .failed merged reason) ∧
        after.timeline channel = single.timeline channel ∧ after.store = single.store) ∨
      ∃ after, catchUp channel before = .error (.aborted .pauseOverflow) after ∧
        ¬before.history.Untroubled ∧ ¬session.config.sync.retry.HasRoom ∧
        after.events = before.events) := by
  intro before calm single
  have fresh : (calm.tracker.state channel).synced = false := by
    change (session.tracker.state channel).synced = false
    rw [lacks.gap]
  have backed : Reachable (fun message => message.seq? = none) session →
      ∀ seq, ¬Unsaved channel (session.timeline channel, session.store) seq :=
    fun reachable seq unsaved =>
      unsaved.2 ((reachable.backed fun _ => id).held channel seq unsaved.1)
  obtain ⟨total, completed, filedWhole⟩ : ∃ total,
      catchUp channel calm = .ok (.completed total) single ∧
        HasFiled channel log first last calm single (last.toNat + 1) := by
    obtain ⟨whole, _, filed, ends⟩ := lacks.untroubled.hasFiled.of_catchUp lacks.untroubled fresh
      (UInt64.le_iff_toNat_le.mp lacks.first_le)
    obtain rfl : single = whole := ends.leaves_eq
    exact ends.of_untroubled (ScheduledHistory.untroubled_untroubled _) filed
  refine ⟨⟨total, completed⟩, fun seq above within => ?_, ?_⟩
  · have kept := filedWhole.retains lacks.untroubled above
      (Nat.lt_succ_of_le (UInt64.le_iff_toNat_le.mp within))
    exact ⟨kept.listed, kept.stored, kept.missed⟩
  -- A session that has filed the whole log has what the single cycle leaves.
  have same : ∀ {after : Session MemoryStore ScheduledHistory},
      HasFiled channel log first last session after (last.toNat + 1) →
        after.timeline channel = single.timeline channel ∧ after.store = single.store := by
    intro after has
    exact Prod.mk.inj (has.filed.trans filedWhole.filed.symm)
  obtain ⟨reached, has, issuable⟩ := lacks.exists_hasFiled attempts
  refine ⟨has.losesNothing lacks, ?_⟩
  rcases Nat.lt_or_eq_of_le has.within with inLog | rfl
  · obtain ⟨after, further, filed, ends⟩ :=
      has.of_catchUp lacks issuable (Nat.le_of_lt_succ inLog)
    have left : leaves (catchUp channel) before = after := ends.leaves_eq
    refine ⟨left ▸ filed.losesNothing lacks, backed, ?_⟩
    generalize catchUp channel before = result at ends
    cases ends with
    | completed total all => exact .inr (.inl ⟨_, _, rfl, nofun, same (all ▸ filed)⟩)
    | failed merged reason told troubled => exact .inl ⟨merged, reason, _, rfl, troubled, told⟩
    | halted silent troubled cramped =>
        exact .inr (.inr ⟨_, rfl, troubled, has.config_eq ▸ cramped, silent⟩)
  · have left : leaves (catchUp channel) before = before.issuing channel :=
      leaves_of_ok has.catchUp_of_all
    refine ⟨left ▸ has.issuing.losesNothing lacks, backed, ?_⟩
    exact .inr (.inl ⟨_, _, has.catchUp_of_all, nofun, same has.issuing⟩)

/-! ## A cycle that fails once, and a text that was never saved -/

/-- Five texts of a channel; the one in the middle is of account 1. -/
def fiveTexts : List Message :=
  [.bareText 2 1 1 1001, .bareText 2 1 2 1002, .bareText 1 2 3 500, .bareText 2 1 4 1004,
    .bareText 2 1 5 1005]

/-- A history that has the five texts. -/
def fiveTextHistory (requests : List HistoryRequest) (schedule : List (Option (Nat × Nat))) :
    ScheduledHistory where
  history :=
    { me := 1
      logs := ⟨[(⟨1, 2⟩, fiveTexts.map fun message => (message.header.seq, message.spelling))]⟩
      requests }
  schedule

/-- Two numbers are fetched at a time, and each page is tried once. -/
def inPairs : SyncConfig where
  pageSize := 2
  retry := { maxAttempts := 1 }

/-- A session that knows nothing, over that history. -/
def overFiveTexts (schedule : List (Option (Nat × Nat))) : Session MemoryStore ScheduledHistory :=
  start 1 ⟨8, 8, inPairs⟩ MemoryStore.empty (fiveTextHistory [] schedule)

/-- The session once the first and the last text arrived and the connection was lost. -/
def missingMiddle (session : Session MemoryStore ScheduledHistory) :
    Session MemoryStore ScheduledHistory :=
  let first := leaves (receive (Message.bareText 2 1 1 1001).spelling) session
  leaves disconnect (leaves (receive (Message.bareText 2 1 5 1005).spelling) first)

theorem logs_fiveTextHistory (schedule : List (Option (Nat × Nat))) :
    (fiveTextHistory [] schedule).history.Logs ⟨1, 2⟩ fiveTexts where
  plain := rfl
  spelled := rfl
  wellFormed := by decide
  messages := by decide
  belongs := (by decide : ∀ message ∈ fiveTexts, message.channel 1 = ⟨1, 2⟩)

theorem lacks_middle {session : Session MemoryStore ScheduledHistory}
    {schedule : List (Option (Nat × Nat))} (me : session.me = 1)
    (history : session.history = fiveTextHistory [] schedule)
    (settled : (session.timeline ⟨1, 2⟩).pending = [])
    (gap : session.tracker.state ⟨1, 2⟩ = { next := 2, newest := some 5, synced := false }) :
    session.Lacks ⟨1, 2⟩ 2 fiveTexts 2 5 where
  account := by
    rw [history, me]
    rfl
  parties := by
    rw [me]
    rfl
  logs := history ▸ logs_fiveTextHistory schedule
  contiguous := by decide
  settled := settled
  first_pos := by decide
  first_le := by decide
  gap := gap

/-- A session whose history fails at its second page. -/
def brokenOff : Session MemoryStore ScheduledHistory :=
  missingMiddle (overFiveTexts [none, some (0, 1)])

/-- The first page of the log behind the first text. -/
def firstPair : Page :=
  ⟨[.bareText 2 1 2 1002, .bareText 1 2 3 500], false⟩

/-- What that page leaves. -/
def halfway : Session MemoryStore ScheduledHistory :=
  leaves (takePage ⟨1, 2⟩ firstPair) { brokenOff.issuing ⟨1, 2⟩ with
    history := fiveTextHistory [.window 2 2 2] [some (0, 1)] }

/-- The cycle breaks off at its second page, and says so in some words. -/
theorem exists_brokenOff :
    ∃ reason, catchUp ⟨1, 2⟩ brokenOff = .ok (.failed 2 reason)
      { halfway with
        history := fiveTextHistory [.window 2 2 2, .window 2 4 2] []
        events := halfway.events ++ [.syncFailed ⟨1, 2⟩ reason] } := by
  have issued : (brokenOff.tracker.issue ⟨1, 2⟩).1 = some ⟨⟨1, 2⟩, 2, 5, 2⟩ := by decide +kernel
  have peer : Channel.other ⟨1, 2⟩ brokenOff.me = 2 := by decide +kernel
  have fetched : Backfill.nextPage (brokenOff.issuing ⟨1, 2⟩).config.sync
      (brokenOff.issuing ⟨1, 2⟩).history (SyncPlan.cursor ⟨⟨1, 2⟩, 2, 5, 2⟩ 2) =
      (.ok (some (firstPair, Cursor.start 2 4 2)),
        fiveTextHistory [.window 2 2 2] [some (0, 1)]) := by decide +kernel
  have took : takePage ⟨1, 2⟩ firstPair { brokenOff.issuing ⟨1, 2⟩ with
      history := fiveTextHistory [.window 2 2 2] [some (0, 1)] } = .ok 2 halfway :=
    eq_ok_of_answer? (by decide +kernel)
  have source : halfway.history = fiveTextHistory [.window 2 2 2] [some (0, 1)] := by
    decide +kernel
  have config : halfway.config.sync = inPairs := by decide +kernel
  -- What the failure is in words does not matter.
  obtain ⟨cause, failed⟩ : ∃ cause, Backfill.nextPage inPairs
      (fiveTextHistory [.window 2 2 2] [some (0, 1)]) (Cursor.start 2 4 2) =
      (.error (.failed cause), fiveTextHistory [.window 2 2 2, .window 2 4 2] []) := ⟨_, rfl⟩
  rw [← config, ← source] at failed
  refine ⟨cause.message, ?_⟩
  rw [catchUp_of_plan issued, peer, catchUpFrom_of_page 0 fetched, bind_of_ok took,
    catchUpFrom_of_failed _ failed]

/-- What a single cycle without troubles leaves. -/
theorem single_brokenOff :
    let single := leaves (catchUp ⟨1, 2⟩) (brokenOff.withHistory brokenOff.history.untroubled)
    (single.timeline ⟨1, 2⟩).seqs = [1, 2, 3, 4, 5] ∧
      single.store.shelf ⟨1, 2⟩ = fiveTexts := by
  constructor <;> decide +kernel

/-- The first cycle fails at its second page, and the second one has what a single cycle has. -/
theorem whole_after_failure :
    brokenOff.Lacks ⟨1, 2⟩ 2 fiveTexts 2 5 ∧
      (∃ reason after, catchUp ⟨1, 2⟩ brokenOff = .ok (.failed 2 reason) after) ∧
      ∃ outcome after, catchUp ⟨1, 2⟩ (reconnected ⟨1, 2⟩ brokenOff) = .ok outcome after ∧
        (after.timeline ⟨1, 2⟩).seqs = [1, 2, 3, 4, 5] ∧
        after.store.shelf ⟨1, 2⟩ = fiveTexts := by
  have source : brokenOff.history = fiveTextHistory [] [none, some (0, 1)] := by decide +kernel
  have lacks : brokenOff.Lacks ⟨1, 2⟩ 2 fiveTexts 2 5 :=
    lacks_middle (by decide +kernel) source (by decide +kernel) (by decide +kernel)
  obtain ⟨reason, failed⟩ := exists_brokenOff
  have history : (reconnected ⟨1, 2⟩ brokenOff).history =
      fiveTextHistory [.window 2 2 2, .window 2 4 2] [] := by
    unfold reconnected
    rw [leaves_of_ok failed]
    rfl
  have calm : (reconnected ⟨1, 2⟩ brokenOff).history.Untroubled := by
    rw [history]
    exact ⟨rfl, rfl, rfl⟩
  obtain ⟨-, -, -, -, -, ends⟩ := resumed_without_loss lacks 1
  refine ⟨lacks, ⟨reason, _, failed⟩, ?_⟩
  rcases ends with ⟨-, -, -, -, troubled, -⟩ | ⟨outcome, after, answered, -, timeline, store⟩ |
    ⟨-, -, troubled, -⟩
  · exact (troubled calm).elim
  · refine ⟨outcome, after, answered, ?_⟩
    rw [timeline, store]
    exact single_brokenOff
  · exact (troubled calm).elim

/-- A text of the owner that had a number when it was submitted is in the timeline but was never
saved, and the cycle that completes does not save it. -/
theorem unsaved_behind_completed_cycle :
    ∃ session after : Session MemoryStore ScheduledHistory,
      Reachable (fun _ => True) session ∧ session.Lacks ⟨1, 2⟩ 2 fiveTexts 2 5 ∧
      session.history.Untroubled ∧ 5 ∈ (session.timeline ⟨1, 2⟩).seqs ∧
      5 + session.config.sync.pageSize ≤ highestSeq ∧
      catchUp ⟨1, 2⟩ session = .ok (.completed 2) after ∧
      (after.tracker.state ⟨1, 2⟩).next = caughtUp ∧ ¬after.store.Holds ⟨1, 2⟩ 3 := by
  let link : Link := { connection := some ⟨"", 1, .tcp⟩ }
  let sent : Session MemoryStore ScheduledHistory :=
    (leaves flush (link, leaves (submit (.bareText 1 2 3 500)) (overFiveTexts []))).2
  have reachable : Reachable (fun _ => True) (missingMiddle sent) :=
    .disconnect (.receive (.receive (.flush (.submit (.start ..) trivial) link) _) _)
  have history : (missingMiddle sent).history = fiveTextHistory [] [] := by decide +kernel
  have lacks : (missingMiddle sent).Lacks ⟨1, 2⟩ 2 fiveTexts 2 5 :=
    lacks_middle (by decide +kernel) history (by decide +kernel) (by decide +kernel)
  have completed : catchUp ⟨1, 2⟩ (missingMiddle sent) =
      .ok (.completed 2) (leaves (catchUp ⟨1, 2⟩) (missingMiddle sent)) :=
    eq_ok_of_answer? (by decide +kernel)
  have arrived : ((missingMiddle sent).timeline ⟨1, 2⟩).seqs = [1, 3, 5] := by decide +kernel
  have pageSize : (missingMiddle sent).config.sync.pageSize = 2 := by decide +kernel
  have next : ((leaves (catchUp ⟨1, 2⟩) (missingMiddle sent)).tracker.state ⟨1, 2⟩).next =
      caughtUp := by decide +kernel
  have shelf : ((leaves (catchUp ⟨1, 2⟩) (missingMiddle sent)).store.shelf ⟨1, 2⟩).map
      (fun message => message.header.seq) = [1, 2, 4, 5] := by decide +kernel
  refine ⟨_, _, reachable, lacks, ?_, ?_, ?_, completed, next, ?_⟩
  · rw [history]
    exact ⟨rfl, rfl, rfl⟩
  · rw [arrived]
    decide
  · rw [pageSize]
    decide
  · rintro ⟨message, onShelf, number⟩
    have listed : (3 : UInt64) ∈ [1, 2, 4, 5] := shelf ▸ List.mem_map.mpr ⟨message, onShelf, number⟩
    revert listed
    decide

end Session

end Messenger
