import Messenger.Proofs.History.Scheduled
import Messenger.Proofs.Session.Filing

/-!
# How far a cycle files a log

A cycle over a log without holes files one window after the other.  Wherever it breaks
off, it has filed the log up to the number that the channel needs next.
-/

namespace Messenger

namespace Session

variable {channel : Channel} {peer : AccountId} {log : List Message} {first last : UInt64}

/-- A channel lacks messages from one number up to the newest one, all of which the history has. -/
structure Lacks (session : Session MemoryStore ScheduledHistory) (channel : Channel)
    (peer : AccountId) (log : List Message) (first last : UInt64) : Prop where
  account : session.history.history.me = session.me
  parties : Channel.between session.me peer = channel
  logs : session.history.history.Logs channel log
  contiguous : Backfill.Contiguous log last.toNat
  settled : (session.timeline channel).pending = []
  first_pos : 0 < first
  first_le : first ≤ last
  gap : session.tracker.state channel = { next := first, newest := some last, synced := false }

/-- The log was filed from a number on up to one that is reached, which is what the channel needs
next. -/
structure HasFiled (channel : Channel) (log : List Message) (first last : UInt64)
    (earlier session : Session MemoryStore ScheduledHistory) (reached : Nat) : Prop where
  me_eq : session.me = earlier.me
  config_eq : session.config = earlier.config
  follows : earlier.history.Follows session.history
  above : first.toNat ≤ reached
  within : reached ≤ last.toNat + 1
  filed : (session.timeline channel, session.store) =
    fileAll channel (earlier.timeline channel, earlier.store)
      (Backfill.window log first.toNat (reached - first.toNat))
  newest : (session.tracker.state channel).newest = some last
  next : (session.tracker.state channel).next.toNat = reached ∨
    (session.tracker.state channel).next = caughtUp ∧ reached = last.toNat + 1

section Filed

variable {earlier session : Session MemoryStore ScheduledHistory} {reached : Nat}

theorem Lacks.hasFiled (lacks : session.Lacks channel peer log first last) :
    HasFiled channel log first last session session first.toNat where
  me_eq := rfl
  config_eq := rfl
  follows := .refl _
  above := Nat.le_refl _
  within := Nat.le_succ_of_le (UInt64.le_iff_toNat_le.mp lacks.first_le)
  filed := by
    have empty : Backfill.window log first.toNat (first.toNat - first.toNat) = [] := by
      refine List.filter_eq_nil_iff.mpr fun message _ => ?_
      simp
    rw [empty]
    rfl
  newest := by rw [lacks.gap]
  next := .inl (by rw [lacks.gap])

theorem Lacks.last_le (lacks : earlier.Lacks channel peer log first last) :
    last.toNat ≤ highestSeq.toNat := by
  have firstPos := UInt64.lt_iff_toNat_lt.mp lacks.first_pos
  have firstLe := UInt64.le_iff_toNat_le.mp lacks.first_le
  rw [UInt64.toNat_zero] at firstPos
  obtain ⟨message, logged, number⟩ := lacks.contiguous.exists_mem_iff.mpr
    (⟨by omega, Nat.le_refl _⟩ : 1 ≤ last.toNat ∧ last.toNat ≤ last.toNat)
  rw [← number, toNat_highestSeq]
  exact Nat.le_of_lt_succ (lacks.logs.wellFormed message logged).seq_lt

/-- What a window of the log holds can be filed in the channel. -/
theorem Lacks.of_mem_window (lacks : earlier.Lacks channel peer log first last) {low size : Nat}
    (lowPos : 0 < low) {message : Message} (member : message ∈ Backfill.window log low size) :
    message.header.seq ≠ 0 ∧ message.header.seq ≤ last ∧
      message.channel earlier.me = channel := by
  have logged := (Backfill.mem_window.mp member).1
  have inLog := lacks.contiguous.exists_mem_iff.mp ⟨message, logged, rfl⟩
  refine ⟨Backfill.seq_ne_zero_of_mem_window lowPos member, UInt64.le_iff_toNat_le.mpr inLog.2, ?_⟩
  rw [← lacks.account]
  exact lacks.logs.belongs message logged

namespace HasFiled

theorem reached_pos (has : HasFiled channel log first last earlier session reached)
    (lacks : earlier.Lacks channel peer log first last) : 0 < reached :=
  Nat.lt_of_lt_of_le (UInt64.lt_iff_toNat_lt.mp lacks.first_pos) has.above

theorem logs (has : HasFiled channel log first last earlier session reached)
    (lacks : earlier.Lacks channel peer log first last) :
    session.history.history.Logs (.between session.history.history.me peer) log := by
  rw [has.follows.sameLogs.me_eq, lacks.account, lacks.parties]
  exact lacks.logs.of_same has.follows.sameLogs

/-- Asking the history files nothing. -/
theorem ask (has : HasFiled channel log first last earlier session reached)
    {history : ScheduledHistory} (follows : session.history.Follows history) :
    HasFiled channel log first last earlier { session with history } reached :=
  { has with follows := has.follows.trans follows }

/-! ## The pages of a cycle -/

/-- Merging a window that begins in the log files its messages, and the tracker learns nothing. -/
theorem exists_merged (has : HasFiled channel log first last earlier session reached)
    (lacks : earlier.Lacks channel peer log first last) (inLog : reached ≤ last.toNat) {size : Nat}
    (sizePos : 0 < size) :
    ∃ count top middle,
      mergeAll channel 0 none (Backfill.window log reached size) session =
        .ok (count, some top) middle ∧
      top.toNat + 1 = min (reached + size) (last.toNat + 1) ∧
      middle.tracker = session.tracker ∧
      (middle.timeline channel, middle.store) =
        fileAll channel (earlier.timeline channel, earlier.store)
          (Backfill.window log first.toNat
            (min (reached + size) (last.toNat + 1) - first.toNat)) := by
  have lowPos := has.reached_pos lacks
  have window : ∀ message ∈ Backfill.window log reached size, message.header.seq ≠ 0 ∧
      message.header.seq ≤ last ∧ message.channel earlier.me = channel :=
    fun message member => lacks.of_mem_window lowPos member
  obtain ⟨top, highest, topEq⟩ := exists_highest_window lacks.contiguous lowPos inLog sizePos
  obtain ⟨count, middle, merged, tracker, filed⟩ := exists_mergeAll_fileAll session has.newest
    (fun message member => (window message member).1)
    (fun message member => (window message member).2.1)
    (fun message member => has.me_eq ▸ (window message member).2.2) 0 none
  rw [highest] at merged
  refine ⟨count, top, middle, merged, topEq, tracker, ?_⟩
  rw [filed, has.filed, ← lacks.contiguous.window_step has.above has.within]
  exact (List.foldl_append ..).symm

/-- Once the log is at hand up to a number, the channel needs the next one. -/
theorem state_advance (has : HasFiled channel log first last earlier session reached)
    (lacks : earlier.Lacks channel peer log first last) {top : UInt64}
    (above : reached ≤ top.toNat) (within : top.toNat ≤ last.toNat) :
    (session.tracker.advance channel top).state channel =
        { session.tracker.state channel with next := Word.addSat top 1 } ∧
      (Word.addSat top 1).toNat = top.toNat + 1 := by
  have needed : (session.tracker.state channel).next.toNat = reached :=
    has.next.resolve_right fun all => by omega
  have reachedPos := has.reached_pos lacks
  have limit := lacks.last_le
  have following := Word.toNat_addSat top 1
  rw [toNat_highestSeq] at limit
  simp only [UInt64.size, UInt64.reduceToNat] at following
  have needs : (session.tracker.state channel).next ≠ caughtUp := by
    rw [ne_eq, ← UInt64.toNat_inj, toNat_caughtUp]
    omega
  refine ⟨?_, by omega⟩
  rw [Tracker.state_advance, Tracker.state?_of_newest has.newest, if_pos ⟨rfl, rfl⟩]
  exact SyncState.advance_of_needed has.newest (UInt64.le_iff_toNat_le.mpr within) needs
    (UInt64.le_iff_toNat_le.mpr (by omega))

/-- The page of a window that begins in the log is filed. -/
theorem take_window (has : HasFiled channel log first last earlier session reached)
    (lacks : earlier.Lacks channel peer log first last) (inLog : reached ≤ last.toNat) {size : Nat}
    (sizePos : 0 < size) :
    (Backfill.page false log reached size).complete = false ∧
      ∃ count after,
        takePage channel (Backfill.page false log reached size) session = .ok count after ∧
        HasFiled channel log first last earlier after (min (reached + size) (last.toNat + 1)) ∧
        after.history = session.history ∧ after.events = session.events := by
  have incomplete : (Backfill.page false log reached size).complete = false := by
    rw [← Bool.not_eq_true, lacks.contiguous.complete_iff (has.reached_pos lacks) sizePos, not_or]
    exact ⟨Nat.not_lt.mpr inLog, nofun⟩
  obtain ⟨count, top, middle, merged, topEq, tracker, filed⟩ :=
    has.exists_merged lacks inLog sizePos
  have merges := Merges.of_mergeAll merged
  have took : takePage channel (Backfill.page false log reached size) session = _ :=
    takePage_of_merged merged
  rw [incomplete] at took
  obtain ⟨state, next⟩ := has.state_advance lacks (by omega : reached ≤ top.toNat) (by omega)
  rw [← tracker] at state
  have above := has.above
  refine ⟨incomplete, count, _, took, ⟨merges.me_eq.trans has.me_eq,
    merges.config_eq.trans has.config_eq, merges.history_eq ▸ has.follows, by omega, by omega,
    filed, ?_, .inl ?_⟩, merges.history_eq, merges.events_eq⟩
  · exact (congrArg SyncState.newest state).trans (tracker ▸ has.newest)
  · exact (congrArg (UInt64.toNat ∘ SyncState.next) state).trans (next.trans topEq)

/-- Behind the log the page is empty, and it ends the need of the channel. -/
theorem take_empty (has : HasFiled channel log first last earlier session (last.toNat + 1))
    (lacks : earlier.Lacks channel peer log first last) {low size : Nat} (beyond : last.toNat < low)
    (sizePos : 0 < size) :
    (Backfill.page false log low size).complete = true ∧
      ∃ count after, takePage channel (Backfill.page false log low size) session =
          .ok count after ∧
        HasFiled channel log first last earlier after (last.toNat + 1) := by
  have empty : Backfill.window log low size = [] := by
    by_contra nonempty
    have inLog := (lacks.contiguous.window_ne_nil_iff (by omega) sizePos).mp nonempty
    omega
  have complete : (Backfill.page false log low size).complete = true :=
    (lacks.contiguous.complete_iff (by omega) sizePos).mpr (.inl beyond)
  have merged : mergeAll channel 0 none (Backfill.page false log low size).messages session =
      .ok (0, none) session := by
    unfold Backfill.page
    rw [empty]
    rfl
  have took := takePage_of_merged merged
  rw [complete] at took
  have tracked : (session.tracker.finish channel).state channel =
      { session.tracker.state channel with next := caughtUp } := by
    rw [Tracker.state_finish, if_pos rfl]
  refine ⟨complete, 0, _, took, { has with newest := ?_, next := ?_ }⟩
  · exact (congrArg SyncState.newest tracked).trans has.newest
  · exact .inr ⟨congrArg SyncState.next tracked, rfl⟩

end HasFiled

/-! ## Cycles -/

/-- How a cycle ends: the whole log is filed, or it fails in the face of troubles and says so once,
or one of the pauses between them is too long and the program ends in silence. -/
inductive Ends (channel : Channel) (last : UInt64) (before after : Session MemoryStore
    ScheduledHistory) (reached : Nat) :
    EStateM.Result SessionError (Session MemoryStore ScheduledHistory) SyncOutcome → Prop where
  | completed (total : Nat) (all : reached = last.toNat + 1) :
      Ends channel last before after reached (.ok (.completed total) after)
  | failed (merged : Nat) (reason : String)
      (told : after.events = before.events ++ [.syncFailed channel reason])
      (troubled : ¬before.history.Untroubled) :
      Ends channel last before after reached (.ok (.failed merged reason) after)
  | halted (silent : after.events = before.events) (troubled : ¬before.history.Untroubled)
      (cramped : ¬before.config.sync.retry.HasRoom) :
      Ends channel last before after reached (.error (.aborted .pauseOverflow) after)

/-- Without troubles the whole log is filed. -/
theorem Ends.of_untroubled {earlier before after : Session MemoryStore ScheduledHistory}
    {result : EStateM.Result SessionError (Session MemoryStore ScheduledHistory) SyncOutcome}
    (ends : Ends channel last before after reached result) (calm : before.history.Untroubled)
    (has : HasFiled channel log first last earlier after reached) :
    ∃ total, result = .ok (.completed total) after ∧
      HasFiled channel log first last earlier after (last.toNat + 1) := by
  cases ends with
  | completed total all => exact ⟨total, rfl, all ▸ has⟩
  | failed _ _ _ troubled => exact (troubled calm).elim
  | halted _ troubled => exact (troubled calm).elim

theorem Ends.leaves_eq {before after : Session MemoryStore ScheduledHistory}
    (ends : Ends channel last before after reached (catchUp channel before)) :
    leaves (catchUp channel) before = after := by
  generalize result : catchUp channel before = ended at ends
  cases ends with
  | completed => exact leaves_of_ok result
  | failed => exact leaves_of_ok result
  | halted => exact leaves_of_error result

/-- A turn that tells the owner nothing, and brings no troubles, leaves open how the cycle ends. -/
theorem Ends.of_turn {before middle after : Session MemoryStore ScheduledHistory}
    {result : EStateM.Result SessionError (Session MemoryStore ScheduledHistory) SyncOutcome}
    (ends : Ends channel last middle after reached result) (events : middle.events = before.events)
    (config : middle.config = before.config)
    (calms : before.history.Untroubled → middle.history.Untroubled) :
    Ends channel last before after reached result := by
  cases ends with
  | completed total all => exact .completed total all
  | failed merged reason told troubled =>
      exact .failed merged reason (events ▸ told) (mt calms troubled)
  | halted silent troubled cramped =>
      exact .halted (silent.trans events) (mt calms troubled) (config ▸ cramped)

/-- A cursor stands where the log was filed up to, or behind the whole log. -/
def Stands (cursor : Cursor) (last : UInt64) (reached : Nat) : Prop :=
  cursor.done = false ∧ cursor.next.toNat = reached ∧ reached ≤ last.toNat ∨
    reached = last.toNat + 1 ∧ last.toNat < cursor.next.toNat

theorem Stands.next_pos {cursor : Cursor} (stands : Stands cursor last reached)
    (reachedPos : 0 < reached) : 0 < cursor.next := by
  rw [UInt64.lt_iff_toNat_lt, UInt64.toNat_zero]
  rcases stands with ⟨-, next, -⟩ | ⟨-, beyond⟩ <;> omega

theorem Stands.of_done {cursor : Cursor} (stands : Stands cursor last reached)
    (done : cursor.done = true) : reached = last.toNat + 1 := by
  rcases stands with ⟨active, -⟩ | ⟨all, -⟩
  · cases done.symm.trans active
  · exact all

/-- The page of a cursor that runs is filed, and the cursor stands where the log was filed up to
then. -/
theorem HasFiled.turn (has : HasFiled channel log first last earlier session reached)
    (lacks : earlier.Lacks channel peer log first last) {cursor : Cursor}
    (active : cursor.done = false) (stands : Stands cursor last reached) :
    let page := Backfill.page false log cursor.next.toNat cursor.pageSize.toNat
    ∃ count after further, takePage channel page session = .ok count after ∧
      HasFiled channel log first last earlier after further ∧
      Stands (cursor.advance page) last further ∧
      (page.complete = false →
        after.history = session.history ∧ after.events = session.events) := by
  intro page
  have sizePos : 0 < cursor.pageSize.toNat := UInt64.lt_iff_toNat_lt.mp cursor.pageSize_pos
  rcases stands with ⟨-, rfl, inLog⟩ | ⟨rfl, beyond⟩
  · obtain ⟨incomplete, count, after, took, filed, quiet⟩ :=
      has.take_window lacks inLog sizePos
    refine ⟨count, after, _, took, filed, ?_, fun _ => quiet⟩
    have next : (cursor.advance page).next.toNat = _ :=
      Cursor.toNat_next_advance cursor incomplete
    have limit := lacks.last_le
    have top := toNat_highestSeq
    simp only [UInt64.size] at next
    rcases Nat.lt_or_ge last.toNat (cursor.next.toNat + cursor.pageSize.toNat) with behind | inside
    · exact .inr ⟨by omega, by omega⟩
    · have runs : (cursor.advance page).done = false := by
        rw [← Bool.not_eq_true, Cursor.done_advance active incomplete]
        omega
      exact .inl ⟨runs, by omega, by omega⟩
  · obtain ⟨complete, count, after, took, filed⟩ := has.take_empty lacks beyond sizePos
    refine ⟨count, after, _, took, filed, .inr ⟨rfl, ?_⟩, fun incomplete => ?_⟩
    · rw [Cursor.advance_of_complete complete]
      exact beyond
    · cases complete.symm.trans incomplete

section Fetching

variable {cursor moved : Cursor} {history : ScheduledHistory}

/-- A page that is fetched is the one of the window of the cursor. -/
theorem HasFiled.of_fetched (has : HasFiled channel log first last earlier session reached)
    (lacks : earlier.Lacks channel cursor.peer log first last)
    (stands : Stands cursor last reached) {page : Page}
    (fetched : Backfill.nextPage session.config.sync session.history cursor =
      (.ok (some (page, moved)), history)) :
    cursor.done = false ∧ session.history.Follows history ∧
      page = Backfill.page false log cursor.next.toNat cursor.pageSize.toNat ∧
      moved = cursor.advance page := by
  obtain ⟨active, movedEq⟩ := Backfill.moved_of_nextPage fetched
  obtain ⟨answer, after, given, follows, found | ⟨⟨cause, failed⟩, -⟩⟩ :=
    ScheduledHistory.nextPage_cases session.config.sync active (has.logs lacks)
      (stands.next_pos (has.reached_pos lacks))
  · subst found
    cases given.symm.trans fetched
    exact ⟨active, follows, rfl, movedEq⟩
  · subst failed
    cases given.symm.trans fetched

/-- A page is only missed if the history has troubles. -/
theorem HasFiled.of_failed (has : HasFiled channel log first last earlier session reached)
    (lacks : earlier.Lacks channel cursor.peer log first last)
    (stands : Stands cursor last reached) {cause : FetchError}
    (fetched : Backfill.nextPage session.config.sync session.history cursor =
      (.error cause, history)) :
    session.history.Follows history ∧ ¬session.history.Untroubled := by
  cases active : cursor.done with
  | true => cases (Backfill.nextPage_of_done active).symm.trans fetched
  | false =>
      obtain ⟨answer, after, given, follows, found | ⟨-, troubled⟩⟩ :=
        ScheduledHistory.nextPage_cases session.config.sync active (has.logs lacks)
          (stands.next_pos (has.reached_pos lacks))
      · subst found
        cases given.symm.trans fetched
      · cases given.symm.trans fetched
        exact ⟨follows, troubled⟩

/-- The turns of a cycle file the log up to where they end. -/
theorem HasFiled.of_turns {merged : Nat} {pages : List Page}
    {result : EStateM.Result SessionError (Session MemoryStore ScheduledHistory) SyncOutcome}
    (turns : Turns channel cursor merged session pages result)
    (lacks : earlier.Lacks channel cursor.peer log first last)
    (has : HasFiled channel log first last earlier session reached)
    (stands : Stands cursor last reached) :
    ∃ after further, HasFiled channel log first last earlier after further ∧
      Ends channel last session after further result := by
  induction turns generalizing reached with
  | @ended cursor merged session history fetched =>
      cases active : cursor.done with
      | false => exact (Backfill.nextPage_ne_none active fetched).elim
      | true =>
          cases (Backfill.nextPage_of_done active).symm.trans fetched
          exact ⟨_, _, has, .completed merged (stands.of_done active)⟩
  | @failed cursor merged session history cause fetched =>
      obtain ⟨follows, troubled⟩ := has.of_failed lacks stands fetched
      refine ⟨_, reached, ?_, .failed merged cause.message rfl troubled⟩
      exact { has.ask follows with }
  | @halted cursor merged session history fetched =>
      obtain ⟨follows, troubled⟩ := has.of_failed lacks stands fetched
      exact ⟨_, _, has.ask follows, .halted rfl troubled fun room =>
        Backfill.nextPage_ne_overflow room fetched⟩
  | @refused cursor moved merged session left history page cause fetched refused =>
      obtain ⟨active, follows, rfl, -⟩ := has.of_fetched lacks stands fetched
      obtain ⟨_, _, _, took, -⟩ := (has.ask follows).turn lacks active stands
      cases took.symm.trans refused
  | @turned cursor moved merged count session middle history page pages result fetched took rest
      ih =>
      obtain ⟨active, follows, rfl, rfl⟩ := has.of_fetched lacks stands fetched
      obtain ⟨_, _, further, takes, filed, onward, quiet⟩ :=
        (has.ask follows).turn lacks active stands
      cases takes.symm.trans took
      cases complete :
          (Backfill.page false log cursor.next.toNat cursor.pageSize.toNat).complete with
      | true =>
          have done : (cursor.advance (Backfill.page false log cursor.next.toNat
              cursor.pageSize.toNat)).done = true := by
            rw [Cursor.advance_of_complete complete]
          obtain ⟨-, rfl⟩ := rest.of_done done
          exact ⟨_, _, filed, .completed _ (onward.of_done done)⟩
      | false =>
          obtain ⟨history, events⟩ := quiet complete
          have config : middle.config = session.config := filed.config_eq.trans has.config_eq.symm
          obtain ⟨after, reached, filed, ends⟩ := ih (by rwa [Cursor.peer_advance]) filed onward
          refine ⟨after, reached, filed, ends.of_turn events config fun calm => ?_⟩
          rw [history]
          exact follows.untroubled calm

end Fetching

end Filed

end Session

end Messenger
