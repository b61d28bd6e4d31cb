import Messenger.Proofs.Session.Completion
import Messenger.Proofs.Session.Reachable
import Messenger.Proofs.Session.Turns

/-!
# Cycles that leave a channel caught up

A cycle has two ends at which it counts as completed: a complete page, and a cursor
that has passed the highest number.  Only at the first is the tracker told, so a
completed cycle leaves its channel caught up exactly if one of its pages was complete.
-/

namespace Messenger

/-- The phase of a channel is read off its state, whether it is tracked or not. -/
theorem Tracker.phase_eq (tracker : Tracker) (channel : Channel) :
    tracker.phase channel = (tracker.state channel).phase := by
  unfold phase Tracker.state
  cases tracker.state? channel <;> rfl

namespace Session

variable {σ η : Type} {channel : Channel} {before after : Session σ η}

/-- A channel has been caught up with, and the owner was told so once. -/
structure CaughtUp (channel : Channel) (before after : Session σ η) : Prop where
  next_eq : (after.tracker.state channel).next = caughtUp
  phase_eq : after.tracker.phase channel = .caughtUp
  told : after.events = before.events ++ [.syncCompleted channel]

/-- A channel still needs something, and the owner was told nothing. -/
structure StillNeeds (channel : Channel) (before after : Session σ η) : Prop where
  next_ne : (after.tracker.state channel).next ≠ caughtUp
  synced : (after.tracker.state channel).synced = true
  untold : after.events = before.events

namespace StillNeeds

theorem phase_eq (needs : StillNeeds channel before after) :
    after.tracker.phase channel = .syncing := by
  rw [Tracker.phase_eq]
  unfold SyncState.phase
  rw [if_neg needs.next_ne, needs.synced, if_pos rfl]

theorem not_caughtUp (needs : StillNeeds channel before after) :
    ¬CaughtUp channel before after :=
  fun caught => needs.next_ne caught.next_eq

end StillNeeds

section Pages

variable [MessageStore σ]

/-- A page that is complete leaves its channel caught up. -/
theorem caughtUp_of_takePage {page : Page} {count : Nat} (complete : page.complete = true)
    (took : takePage channel page before = .ok count after) : CaughtUp channel before after := by
  obtain ⟨⟨merged, last⟩, middle, mergedAll, -⟩ := of_bind_eq_ok took
  cases (takePage_of_merged mergedAll).symm.trans took
  have next : ((closePage channel page.complete last middle).tracker.state channel).next =
      caughtUp := by
    unfold closePage
    rw [complete, if_pos rfl, Tracker.state_finish, if_pos rfl]
  refine ⟨next, ?_, ?_⟩
  · rw [Tracker.phase_eq, SyncState.phase, if_pos next]
  · rw [← (Merges.of_mergeAll mergedAll).events_eq]
    unfold closePage
    rw [complete, if_pos rfl]

/-- A page that is not complete does not end the need of its channel. -/
theorem stillNeeds_of_takePage {page : Page} {count : Nat} (incomplete : page.complete = false)
    (needs : (before.tracker.state channel).next ≠ caughtUp)
    (synced : (before.tracker.state channel).synced = true)
    (took : takePage channel page before = .ok count after) : StillNeeds channel before after := by
  obtain ⟨⟨merged, last⟩, middle, mergedAll, -⟩ := of_bind_eq_ok took
  have merges := Merges.of_mergeAll mergedAll
  cases (takePage_of_merged mergedAll).symm.trans took
  rw [← merges.synced_eq] at synced
  replace needs := merges.needs needs
  rw [incomplete]
  cases last with
  | none => exact ⟨needs, synced, merges.events_eq⟩
  | some last =>
      refine ⟨?_, ?_, merges.events_eq⟩
      · change ((middle.tracker.advance channel last).state channel).next ≠ caughtUp
        rw [Tracker.state_advance]
        split
        · exact SyncState.next_advance_ne_caughtUp needs last
        · exact needs
      · change ((middle.tracker.advance channel last).state channel).synced = true
        rw [Tracker.state_advance]
        split <;> exact synced

end Pages

variable [MessageStore σ] [HistorySource η]

/-- Completed turns either take in a complete page at last, or run the cursor past the highest
number. -/
theorem Turns.of_completed {cursor : Cursor} {merged total : Nat} {session after : Session σ η}
    {pages : List Page}
    (turns : Turns channel cursor merged session pages (.ok (.completed total) after))
    (needs : (session.tracker.state channel).next ≠ caughtUp)
    (synced : (session.tracker.state channel).synced = true) :
    (∃ page ∈ pages, page.complete = true) ∧ CaughtUp channel session after ∨
      (∀ page ∈ pages, page.complete = false) ∧ StillNeeds channel session after ∧
        (cursor.done = true ∨ highestSeq.toNat <
          cursor.next.toNat + pages.length * cursor.pageSize.toNat) := by
  generalize answered : EStateM.Result.ok (SyncOutcome.completed total) after = result at turns
  induction turns with
  | @ended cursor merged session history fetched =>
      cases answered
      refine .inr ⟨nofun, ⟨needs, synced, rfl⟩, .inl ?_⟩
      by_contra active
      exact Backfill.nextPage_ne_none (Bool.eq_false_iff.mpr active) fetched
  | failed merged fetched => cases answered
  | halted merged fetched => cases answered
  | refused merged fetched refused => cases answered
  | @turned cursor moved merged count session middle history page pages result fetched took rest ih =>
      obtain ⟨active, rfl⟩ := Backfill.moved_of_nextPage fetched
      cases complete : page.complete with
      | true =>
          -- The cursor is done, so the cycle ends behind this page.
          have done : (cursor.advance page).done = true := by
            rw [Cursor.advance_of_complete complete]
          obtain ⟨-, same⟩ := rest.of_done done
          cases same.symm.trans answered.symm
          have caught := caughtUp_of_takePage complete took
          exact .inl ⟨⟨page, List.mem_cons_self, complete⟩,
            ⟨caught.next_eq, caught.phase_eq, caught.told⟩⟩
      | false =>
          have kept : StillNeeds channel { session with history } _ :=
            stillNeeds_of_takePage complete needs synced took
          rcases ih kept.next_ne kept.synced answered with ⟨⟨last, member, ends⟩, caught⟩ |
            ⟨incomplete, needy, passed⟩
          · have told := caught.told.trans (congrArg (· ++ _) kept.untold)
            exact .inl ⟨⟨last, List.mem_cons_of_mem page member, ends⟩,
              ⟨caught.next_eq, caught.phase_eq, told⟩⟩
          · refine .inr ⟨List.forall_mem_cons.mpr ⟨complete, incomplete⟩,
              ⟨needy.next_ne, needy.synced, needy.untold.trans kept.untold⟩, .inr ?_⟩
            rw [Cursor.done_advance active complete, Cursor.pageSize_advance,
              Cursor.toNat_next_advance cursor complete] at passed
            rw [List.length_cons, Nat.succ_mul]
            have limit := toNat_highestSeq
            simp only [UInt64.size] at passed
            omega

/-- A completed cycle leaves its channel caught up, with one report of it, exactly if one of its
pages was complete.  Otherwise its windows have passed the highest number, the channel still needs
something, and nothing was reported. -/
theorem caughtUp_iff_complete_page {session after : Session σ η} {merged : Nat}
    (completed : catchUp channel session = .ok (.completed merged) after) :
    ∃ plan, (session.tracker.issue channel).1 = some plan ∧
      let cursor := plan.cursor (channel.other session.me)
      let pages := Backfill.pagesFrom session.config.sync session.history cursor
      (CaughtUp channel session after ↔ ∃ page ∈ pages, page.complete = true) ∧
        ((∀ page ∈ pages, page.complete = false) →
          highestSeq.toNat < plan.low.toNat + pages.length * (max plan.pageSize 1).toNat ∧
            StillNeeds channel session after ∧ after.tracker.phase channel = .syncing) := by
  cases issued : (session.tracker.issue channel).1 with
  | none =>
      rw [catchUp_of_none issued] at completed
      cases completed
  | some plan =>
      refine ⟨plan, rfl, ?_⟩
      intro cursor pages
      obtain ⟨-, -, notCaughtUp, -, planEq⟩ := Tracker.issue_eq_some_iff.mp issued
      have low : max plan.low 1 = plan.low := Cursor.max_one_of_pos
        (UInt64.pos_iff_ne_zero.mpr (Tracker.low_ne_zero_of_issue issued))
      have needs : ((session.issuing channel).tracker.state channel).next ≠ caughtUp := by
        change ((session.tracker.issue channel).2.state channel).next ≠ caughtUp
        rw [Tracker.state_issue, if_pos rfl]
        rwa [SyncState.next_anchor]
      obtain ⟨taken, turns⟩ := exists_turns channel cursor 0 (session.issuing channel)
      rw [catchUp_of_plan issued] at completed
      rw [show catchUpFrom channel cursor 0 _ = _ from completed] at turns
      obtain rfl : taken = pages := (turns.eq_of_ended (.inl ⟨_, rfl⟩)).1
      rcases turns.of_completed needs (session.tracker.synced_issue channel) with
        ⟨complete, caught⟩ | ⟨incomplete, needy, passed⟩
      · refine ⟨iff_of_true ⟨caught.next_eq, caught.phase_eq, caught.told⟩ complete, ?_⟩
        obtain ⟨page, member, ends⟩ := complete
        intro incomplete
        cases ends.symm.trans (incomplete page member)
      · have kept : StillNeeds channel session after :=
          ⟨needy.next_ne, needy.synced, needy.untold⟩
        refine ⟨iff_of_false kept.not_caughtUp ?_, fun _ => ⟨?_, kept, kept.phase_eq⟩⟩
        · rintro ⟨page, member, ends⟩
          cases ends.symm.trans (incomplete page member)
        · rw [← low]
          exact passed.resolve_left nofun

/-! ## A log with a hole, in small windows and in one that has all numbers -/

/-- In windows of four, the second page is empty, and the channel is caught up. -/
theorem caughtUp_behind_empty_window :
    catchUp ⟨1, 2⟩ (missingFive 4) =
        .ok (.completed 1) (leaves (catchUp ⟨1, 2⟩) (missingFive 4)) ∧
      CaughtUp ⟨1, 2⟩ (missingFive 4) (leaves (catchUp ⟨1, 2⟩) (missingFive 4)) := by
  obtain ⟨plan, issues, caught, -⟩ := caughtUp_iff_complete_page catchUp_missingFive
  cases issue_missingFive.symm.trans issues
  have complete : (Backfill.pagesFrom (missingFive 4).config.sync (missingFive 4).history
      (SyncPlan.cursor ⟨⟨1, 2⟩, 2, 7, 4⟩ (Channel.other ⟨1, 2⟩ (missingFive 4).me))).any
        Page.complete = true := by decide +kernel
  exact ⟨catchUp_missingFive, caught.mpr (List.any_eq_true.mp complete)⟩

/-- In a window that reaches the highest number, the only page is not empty.  The cycle is
completed, but the channel still needs the number behind it. -/
theorem not_caughtUp_past_highest :
    ∃ session after : Session MemoryStore ScriptedHistory, ∃ channel merged,
      Reachable (fun _ => False) session ∧
      catchUp channel session = .ok (.completed merged) after ∧
      (after.tracker.state channel).next = 6 ∧ ¬CaughtUp channel session after := by
  have reachable : Reachable (fun _ => False) (missingFive highestSeq) :=
    .disconnect (.receive (.receive (.start ..) _) _)
  have completed : catchUp ⟨1, 2⟩ (missingFive highestSeq) =
      .ok (.completed 1) (leaves (catchUp ⟨1, 2⟩) (missingFive highestSeq)) :=
    eq_ok_of_answer? (by decide +kernel)
  have next : ((leaves (catchUp ⟨1, 2⟩) (missingFive highestSeq)).tracker.state ⟨1, 2⟩).next =
      6 := by decide +kernel
  refine ⟨_, _, _, _, reachable, completed, next, fun caught => ?_⟩
  cases next.symm.trans caught.next_eq

end Session

end Messenger
