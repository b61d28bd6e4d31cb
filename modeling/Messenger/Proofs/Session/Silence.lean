import Messenger.Proofs.Session.Cycle

/-!
# A source that has nothing

Over a source of history that answers every request with an empty page, the cycle of a channel ends
at its first page, and neither the timelines nor the store change.
-/

namespace Messenger

/-- A source without history: every request is answered with no frames. -/
inductive Silence where
  | silence
deriving DecidableEq, Repr

instance : HistorySource Silence where
  answer _ _ := (.atOnce (.ok []), .silence)

namespace Session

variable {σ : Type} [MessageStore σ]

theorem nextPage_silence (config : SyncConfig) (cursor : Cursor) :
    Backfill.nextPage config Silence.silence cursor = (.ok none, .silence) ∨
      ∃ moved, Backfill.nextPage config Silence.silence cursor =
        (.ok (some (.ofMessages [], moved)), .silence) := by
  cases active : cursor.done with
  | true => exact .inl (Backfill.nextPage_of_done active)
  | false =>
      have answered : Backfill.fetchMessages config Silence.silence
          (.window cursor.peer cursor.next cursor.pageSize) = (.ok [], .silence) :=
        Backfill.fetchMessages_of_yields (Answer.yields_atOnce rfl)
      exact .inr ⟨_, Backfill.nextPage_of_fetched active answered⟩

/-- Of an empty page nothing is merged. -/
theorem takePage_empty (channel : Channel) (session : Session σ Silence) :
    Answers (takePage channel (.ofMessages [])) session fun left =>
      left.timelines = session.timelines ∧ left.store = session.store :=
  ⟨_, _, rfl, rfl, rfl⟩

theorem catchUpFrom_silence (channel : Channel) (cursor : Cursor) (merged : Nat)
    (session : Session σ Silence) :
    Answers (catchUpFrom channel cursor merged) session fun left =>
      left.timelines = session.timelines ∧ left.store = session.store := by
  rcases nextPage_silence session.config.sync cursor with done | ⟨moved, empty⟩
  · exact ⟨_, _, catchUpFrom_of_done merged done, rfl, rfl⟩
  · unfold Answers
    rw [catchUpFrom_of_page merged empty]
    refine Answers.bind (takePage_empty channel _) fun count middle ⟨timelines, store⟩ => ?_
    rw [← timelines, ← store]
    exact catchUpFrom_silence channel moved (merged + count) middle
termination_by cursor.distance
decreasing_by exact Backfill.distance_lt_of_nextPage empty

theorem catchUp_silence (channel : Channel) (session : Session σ Silence) :
    Answers (catchUp channel) session fun left =>
      left.timelines = session.timelines ∧ left.store = session.store := by
  apply Answers.get
  cases session.tracker.issue channel with
  | mk plan tracker =>
      apply Answers.set
      cases plan with
      | none => exact ⟨_, _, rfl, rfl, rfl⟩
      | some plan => exact catchUpFrom_silence channel _ 0 _

end Session

end Messenger
