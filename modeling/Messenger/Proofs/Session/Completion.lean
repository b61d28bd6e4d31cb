import Messenger.Proofs.Session.Cycle
import Messenger.Session.Inbound

/-!
# What a completed cycle has fetched

A cycle ends at the first empty page.  A logged message that its plan covers is in
the timeline afterwards exactly if it was there before, or no window before its own
is empty.
-/

namespace Messenger

/-- Messages of a served log with the same number are the same. -/
theorem ScriptedHistory.Serves.eq_of_seq_eq {history : ScriptedHistory} {channel : Channel}
    {log : List Message} (serves : history.Serves channel log) {a b : Message} (aLogged : a ∈ log)
    (bLogged : b ∈ log) (same : a.header.seq = b.header.seq) : a = b :=
  Message.Ascending.eq_of_seq_eq serves.ascending aLogged bLogged same

namespace Session

variable {σ : Type} [MessageStore σ] {channel : Channel} {peer : AccountId} {log : List Message}

/-- A completed cycle has brought in a logged message exactly if it was at hand before, or the
windows of the plan before its own are not empty; it is then the message of the log unless its
number was at hand. -/
theorem completed_iff_reached {session after : Session σ ScriptedHistory} {plan : SyncPlan}
    {merged : Nat} (served : session.Served channel peer log)
    (issued : (session.tracker.issue channel).1 = some plan)
    (completed : catchUp channel session = .ok (.completed merged) after)
    {message : Message} (logged : message ∈ log) :
    let seq := message.header.seq
    let reached := Backfill.Reaches log plan.low.toNat (max plan.pageSize 1).toNat seq.toNat
    (seq ∈ (after.timeline channel).seqs ↔ seq ∈ (session.timeline channel).seqs ∨ reached) ∧
      (seq ∉ (session.timeline channel).seqs → reached →
        message ∈ (after.timeline channel).entries) := by
  intro seq reached
  have low := Tracker.low_ne_zero_of_issue issued
  have sameLow : max plan.low 1 = plan.low :=
    Cursor.max_one_of_pos (UInt64.pos_iff_ne_zero.mpr low)
  have run : TakesIn channel ((plan.cursor peer).Fetches log) session after := by
    have nextPos : 0 < (plan.cursor peer).next := by
      change 0 < max plan.low 1
      rw [sameLow]
      exact UInt64.pos_iff_ne_zero.mpr low
    rw [served.catchUp_eq issued] at completed
    have through := takesIn_of_catchUpFrom (served.issuing plan) nextPos completed
    exact through.of_before rfl rfl rfl
  have fetches : ∀ {other : Message}, (plan.cursor peer).Fetches log other ↔ other ∈ log ∧
      Backfill.Reaches log plan.low.toNat (max plan.pageSize 1).toNat
        other.header.seq.toNat := by
    intro other
    change other ∈ log ∧ false = false ∧ Backfill.Reaches log (max plan.low 1).toNat
      (max plan.pageSize 1).toNat other.header.seq.toNat ↔ _
    rw [sameLow, and_iff_right rfl]
  have brought : seq ∈ (after.timeline channel).seqs ↔
      seq ∈ (session.timeline channel).seqs ∨ reached := by
    rw [run.seqs]
    apply or_congr_right
    constructor
    · rintro ⟨other, fetched, same⟩
      obtain ⟨otherLogged, reaches⟩ := fetches.mp fetched
      rwa [served.serves.eq_of_seq_eq otherLogged logged same] at reaches
    · intro reaches
      exact ⟨message, fetches.mpr ⟨logged, reaches⟩, rfl⟩
  refine ⟨brought, fun missing reaches => ?_⟩
  obtain ⟨entry, listed, numbered⟩ := Timeline.mem_seqs.mp (brought.mpr (.inr reaches))
  rcases run.entries entry listed with known | fetched
  · exact (missing (Timeline.mem_seqs.mpr ⟨entry, known, numbered⟩)).elim
  · have same := (Message.seq?_eq_some_iff.mp numbered).1
    exact served.serves.eq_of_seq_eq (fetches.mp fetched).1 logged same ▸ listed

/-! ## A log with a hole -/

/-- A history of account 1 that has one text of account 2, under the number 5. -/
def sparseHistory : ScriptedHistory where
  me := 1
  logs := ⟨[(⟨1, 2⟩, [(5, (Message.bareText 2 1 5 1005).spelling)])]⟩

/-- A session that has the numbers 1 and 7 of the channel, and may run its cycle again. -/
def missingFive (size : UInt64) : Session MemoryStore ScriptedHistory :=
  let fresh := start 1 ⟨8, 8, { pageSize := size }⟩ MemoryStore.empty sparseHistory
  let first := leaves (receive (Message.bareText 2 1 1 1001).spelling) fresh
  leaves disconnect (leaves (receive (Message.bareText 2 1 7 1007).spelling) first)

theorem serves_sparseHistory : sparseHistory.Serves ⟨1, 2⟩ [.bareText 2 1 5 1005] where
  prompt := rfl
  reliable := rfl
  spelled := rfl
  ascending := List.pairwise_singleton ..
  wellFormed := List.forall_mem_singleton.mpr (by decide)
  content := List.forall_mem_singleton.mpr rfl
  belongs := List.forall_mem_singleton.mpr rfl

theorem served_of_sparse {session : Session MemoryStore ScriptedHistory} (me : session.me = 1)
    (history : session.history = sparseHistory)
    (settled : (session.timeline ⟨1, 2⟩).pending = []) :
    session.Served ⟨1, 2⟩ 2 [.bareText 2 1 5 1005] := by
  refine ⟨?_, ?_, ?_, settled⟩
  · rw [history, me]
    rfl
  · rw [me]
    rfl
  · rw [history]
    exact serves_sparseHistory

theorem issue_missingFive :
    ((missingFive 4).tracker.issue ⟨1, 2⟩).1 = some ⟨⟨1, 2⟩, 2, 7, 4⟩ := by
  decide +kernel

theorem catchUp_missingFive :
    catchUp ⟨1, 2⟩ (missingFive 4) =
      .ok (.completed 1) (leaves (catchUp ⟨1, 2⟩) (missingFive 4)) :=
  eq_ok_of_answer? (by decide +kernel)

/-- In windows of four, the first one has the missing number. -/
theorem fetched_in_first_window :
    (missingFive 4).Served ⟨1, 2⟩ 2 [.bareText 2 1 5 1005] ∧
      ((missingFive 4).tracker.issue ⟨1, 2⟩).1 = some ⟨⟨1, 2⟩, 2, 7, 4⟩ ∧
      catchUp ⟨1, 2⟩ (missingFive 4) =
        .ok (.completed 1) (leaves (catchUp ⟨1, 2⟩) (missingFive 4)) ∧
      5 ∈ ((leaves (catchUp ⟨1, 2⟩) (missingFive 4)).timeline ⟨1, 2⟩).seqs := by
  have served : (missingFive 4).Served ⟨1, 2⟩ 2 [.bareText 2 1 5 1005] :=
    served_of_sparse (by decide +kernel) (by decide +kernel) (by decide +kernel)
  have reaches : Backfill.Reaches [.bareText 2 1 5 1005] 2 4 5 :=
    (Backfill.reaches_of_first (by decide)).mpr (by decide)
  exact ⟨served, issue_missingFive, catchUp_missingFive, (completed_iff_reached served
    issue_missingFive catchUp_missingFive List.mem_cons_self).1.mpr (.inr reaches)⟩

/-- In windows of two, the first one is empty, and the missing number behind it is not
fetched. -/
theorem unfetched_behind_empty_window :
    ∃ session after : Session MemoryStore ScriptedHistory, ∃ channel peer log plan merged message,
      session.Served channel peer log ∧ (session.tracker.issue channel).1 = some plan ∧
      catchUp channel session = .ok (.completed merged) after ∧ message ∈ log ∧
      plan.low ≤ message.header.seq ∧ message.header.seq ≤ plan.high ∧
      message.header.seq ∉ (after.timeline channel).seqs := by
  have issued : ((missingFive 2).tracker.issue ⟨1, 2⟩).1 = some ⟨⟨1, 2⟩, 2, 7, 2⟩ := by
    decide +kernel
  have completed : catchUp ⟨1, 2⟩ (missingFive 2) =
      .ok (.completed 0) (leaves (catchUp ⟨1, 2⟩) (missingFive 2)) :=
    eq_ok_of_answer? (by decide +kernel)
  have numbers : ((leaves (catchUp ⟨1, 2⟩) (missingFive 2)).timeline ⟨1, 2⟩).seqs = [1, 7] := by
    decide +kernel
  have missing : (5 : UInt64) ∉
      ((leaves (catchUp ⟨1, 2⟩) (missingFive 2)).timeline ⟨1, 2⟩).seqs := by
    rw [numbers]
    decide
  have served : (missingFive 2).Served ⟨1, 2⟩ 2 [.bareText 2 1 5 1005] :=
    served_of_sparse (by decide +kernel) (by decide +kernel) (by decide +kernel)
  exact ⟨missingFive 2, _, ⟨1, 2⟩, 2, _, _, 0, _, served, issued, completed, List.mem_cons_self,
    by decide, by decide, missing⟩

end Session

end Messenger
