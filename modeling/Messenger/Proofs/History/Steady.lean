import Messenger.History.Backfill
import Messenger.History.Scripted

/-!
# Steady sources of history

The answer of a steady source depends only on the request, not on what the source was asked
before.  Whatever is fetched from one is fetched from every other one that gives the same
answers.
-/

namespace Messenger

variable {η : Type} [HistorySource η]

/-- A source that was asked requests, one after the other. -/
def HistorySource.afterAll (source : η) (asked : List HistoryRequest) : η :=
  asked.foldl (fun source request => (answer source request).2) source

/-- A source answers every request as told, whatever it was asked before. -/
def Steady (answers : HistoryRequest → Answer) (source : η) : Prop :=
  ∀ asked request,
    (HistorySource.answer (HistorySource.afterAll source asked) request).1 = answers request

namespace Steady

variable {answers : HistoryRequest → Answer} {source other : η}

/-- A steady source gives its answer, and stays steady. -/
theorem exists_answer (steady : Steady answers source) (request : HistoryRequest) :
    ∃ after, HistorySource.answer source request = (answers request, after) ∧
      Steady answers after :=
  ⟨_, Prod.ext (steady [] request) rfl, fun asked => steady (request :: asked)⟩

/-- Steady sources with the same answers are asked until the same attempt. -/
theorem retry {α : Type} (steady : Steady answers source) (otherSteady : Steady answers other)
    (config : SyncConfig) (request : HistoryRequest)
    (accept : List Octets → Except HistoryError α) (left : Nat) (last : String) :
    ∃ result after otherAfter,
      Backfill.retry config request accept left last source = (result, after) ∧
      Backfill.retry config request accept left last other = (result, otherAfter) ∧
      Steady answers after ∧ Steady answers otherAfter := by
  induction left generalizing last source other with
  | zero => exact ⟨_, _, _, rfl, rfl, steady, otherSteady⟩
  | succ left ih =>
      obtain ⟨after, answered, kept⟩ := steady.exists_answer request
      obtain ⟨otherAfter, otherAnswered, otherKept⟩ := otherSteady.exists_answer request
      unfold Backfill.retry
      rw [answered, otherAnswered]
      dsimp only
      cases ((answers request).within config.fetchTimeout).bind accept with
      | ok value => exact ⟨_, _, _, rfl, rfl, kept, otherKept⟩
      | error cause =>
          dsimp only
          split
          · exact ⟨_, _, _, rfl, rfl, kept, otherKept⟩
          · exact ih kept otherKept cause.message

/-- Steady sources with the same answers give the same page. -/
theorem nextPage (steady : Steady answers source) (otherSteady : Steady answers other)
    (config : SyncConfig) (cursor : Cursor) :
    ∃ result after otherAfter,
      Backfill.nextPage config source cursor = (result, after) ∧
      Backfill.nextPage config other cursor = (result, otherAfter) ∧
      Steady answers after ∧ Steady answers otherAfter := by
  unfold Backfill.nextPage
  cases cursor.request? with
  | none => exact ⟨_, _, _, rfl, rfl, steady, otherSteady⟩
  | some request =>
      obtain ⟨result, after, otherAfter, fetched, otherFetched, kept, otherKept⟩ :=
        steady.retry otherSteady config request Backfill.decodeAll config.retry.attempts ""
      unfold Backfill.fetchMessages
      dsimp only
      rw [fetched, otherFetched]
      cases result <;> exact ⟨_, _, _, rfl, rfl, kept, otherKept⟩

end Steady

/-- A scripted history that neither stalls nor fails is steady. -/
theorem ScriptedHistory.steady {history : ScriptedHistory} (prompt : history.stalls = 0)
    (reliable : history.failures = 0) :
    Steady (fun request => Answer.atOnce (history.lookUp request)) history := by
  have answered : ∀ requests request, HistorySource.answer { history with requests } request =
      (Answer.atOnce (history.lookUp request),
        { history with requests := requests ++ [request] }) := by
    intro requests request
    change ScriptedHistory.answer _ _ = _
    unfold ScriptedHistory.answer
    simp only [prompt, reliable, Nat.lt_irrefl, if_false]
    rfl
  have further : ∀ asked requests, ∃ all,
      HistorySource.afterAll { history with requests } asked =
        { history with requests := all } := by
    intro asked
    induction asked with
    | nil => exact fun requests => ⟨requests, rfl⟩
    | cons request rest ih =>
        intro requests
        unfold HistorySource.afterAll at ih ⊢
        rw [List.foldl_cons, answered]
        exact ih _
  intro asked request
  obtain ⟨all, same⟩ := further asked history.requests
  rw [show HistorySource.afterAll history asked = _ from same, answered]

end Messenger
