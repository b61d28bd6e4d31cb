import Messenger.Proofs.History.Contiguous

/-!
# Histories that fail now and then

A scripted history can be told anew before each request how often it is to stall and to
fail.  Whatever it is told, each request for a window of its log is either answered with
the messages of the window or not at all, and the log stays what it is.
-/

namespace Messenger

/-- A scripted history with a schedule of troubles. -/
structure ScheduledHistory where
  history : ScriptedHistory
  /-- How many requests are to stall and to fail from each of the next requests on, where that is
  set anew. -/
  schedule : List (Option (Nat × Nat)) := []
deriving DecidableEq, Repr, Inhabited

namespace ScheduledHistory

/-- The history as the next request finds it. -/
def current (scheduled : ScheduledHistory) : ScriptedHistory :=
  match scheduled.schedule with
  | some (stalls, failures) :: _ => { scheduled.history with stalls, failures }
  | _ => scheduled.history

/-- Answer a request by the script as it is set for this request. -/
def answer (scheduled : ScheduledHistory) (request : HistoryRequest) :
    Answer × ScheduledHistory :=
  let (answer, history) := scheduled.current.answer request
  (answer, { history, schedule := scheduled.schedule.tail })

instance : HistorySource ScheduledHistory where
  answer := answer

/-- The history without any troubles. -/
def untroubled (scheduled : ScheduledHistory) : ScheduledHistory where
  history := { scheduled.history with stalls := 0, failures := 0 }

/-- No request will stall or fail. -/
structure Untroubled (scheduled : ScheduledHistory) : Prop where
  prompt : scheduled.history.stalls = 0
  reliable : scheduled.history.failures = 0
  unscheduled : scheduled.schedule = []

theorem untroubled_untroubled (scheduled : ScheduledHistory) :
    scheduled.untroubled.Untroubled :=
  ⟨rfl, rfl, rfl⟩

end ScheduledHistory

/-! ## Logs of messages -/

/-- A history has the messages of a channel with their numbers, and sends no end sentinel. -/
structure ScriptedHistory.Logs (history : ScriptedHistory) (channel : Channel)
    (log : List Message) : Prop where
  plain : history.sentinel = false
  spelled : history.log channel = log.map fun message => (message.header.seq, message.spelling)
  wellFormed : ∀ message ∈ log, message.WellFormed
  /-- Reports on remaining history are no messages of the log. -/
  messages : ∀ message ∈ log, message.header.kind ≠ .sync
  belongs : ∀ message ∈ log, message.channel history.me = channel

namespace ScriptedHistory

variable {history : ScriptedHistory} {channel : Channel} {log : List Message}

/-- What is found in the log for a window. -/
theorem Logs.lookUp_window {peer : AccountId} {low size : UInt64}
    (logs : history.Logs (.between history.me peer) log) (lowPos : 0 < low) (sizePos : 0 < size) :
    history.lookUp (.window peer low size) =
      .ok ((Backfill.window log low.toNat size.toNat).map Message.spelling) := by
  have found := frames_window peer logs.spelled lowPos sizePos
  unfold lookUp
  simp only [logs.plain, Bool.false_and, Bool.false_eq_true, if_false]
  exact congrArg Except.ok found

/-- Two histories of one account have the same logs, and agree on the end sentinel. -/
structure SameLogs (history other : ScriptedHistory) : Prop where
  me_eq : other.me = history.me
  sentinel_eq : other.sentinel = history.sentinel
  logs_eq : other.logs = history.logs

theorem SameLogs.trans {middle other : ScriptedHistory} (first : history.SameLogs middle)
    (second : middle.SameLogs other) : history.SameLogs other :=
  ⟨second.me_eq.trans first.me_eq, second.sentinel_eq.trans first.sentinel_eq,
    second.logs_eq.trans first.logs_eq⟩

theorem Logs.of_same {other : ScriptedHistory} (logs : history.Logs channel log)
    (same : history.SameLogs other) : other.Logs channel log where
  plain := same.sentinel_eq.trans logs.plain
  spelled := by
    unfold ScriptedHistory.log
    rw [same.logs_eq]
    exact logs.spelled
  wellFormed := logs.wellFormed
  messages := logs.messages
  belongs := same.me_eq ▸ logs.belongs

theorem SameLogs.lookUp_eq {other : ScriptedHistory} (same : history.SameLogs other)
    (request : HistoryRequest) : other.lookUp request = history.lookUp request := by
  unfold lookUp ScriptedHistory.log
  rw [same.me_eq, same.sentinel_eq, same.logs_eq]

/-- A request is answered from the log, or it stalls or fails. -/
theorem answer_cases (history : ScriptedHistory) (request : HistoryRequest) :
    ∃ answer after, history.answer request = (answer, after) ∧ history.SameLogs after ∧
      (answer = .atOnce (history.lookUp request) ∧ after.stalls = history.stalls ∧
          after.failures = history.failures ∨
        (∃ cause, answer.frames = .error cause) ∧
          ¬(history.stalls = 0 ∧ history.failures = 0)) := by
  unfold answer
  dsimp only
  split
  · exact ⟨_, _, rfl, ⟨rfl, rfl, rfl⟩, .inr ⟨⟨_, rfl⟩, fun calm => by omega⟩⟩
  · split
    · exact ⟨_, _, rfl, ⟨rfl, rfl, rfl⟩, .inr ⟨⟨_, rfl⟩, fun calm => by omega⟩⟩
    · exact ⟨_, _, rfl, ⟨rfl, rfl, rfl⟩, .inl ⟨rfl, rfl, rfl⟩⟩

end ScriptedHistory

theorem Answer.within_of_error {answer : Answer} {cause : HistoryError}
    (failed : answer.frames = .error cause) (limit : Duration) :
    ∃ cause, answer.within limit = .error cause := by
  unfold within
  split
  · exact ⟨cause, failed⟩
  · exact ⟨_, rfl⟩

namespace ScheduledHistory

variable {scheduled after : ScheduledHistory} {log : List Message}

theorem sameLogs_current (scheduled : ScheduledHistory) :
    scheduled.history.SameLogs scheduled.current := by
  unfold current
  split <;> exact ⟨rfl, rfl, rfl⟩

/-- What one request does to a history, whether it is answered or not. -/
structure Follows (scheduled after : ScheduledHistory) : Prop where
  sameLogs : scheduled.history.SameLogs after.history
  untroubled : scheduled.Untroubled → after.Untroubled

theorem Follows.refl (scheduled : ScheduledHistory) : scheduled.Follows scheduled :=
  ⟨⟨rfl, rfl, rfl⟩, id⟩

theorem Follows.trans {middle : ScheduledHistory} (first : scheduled.Follows middle)
    (second : middle.Follows after) : scheduled.Follows after :=
  ⟨first.sameLogs.trans second.sameLogs, fun calm => second.untroubled (first.untroubled calm)⟩

/-- A request is answered from the log, or it stalls or fails. -/
theorem answer_cases (scheduled : ScheduledHistory) (request : HistoryRequest) :
    ∃ answer after, HistorySource.answer scheduled request = (answer, after) ∧
      scheduled.Follows after ∧
      (answer = .atOnce (scheduled.history.lookUp request) ∨
        (∃ cause, answer.frames = .error cause) ∧ ¬scheduled.Untroubled) := by
  have same := scheduled.sameLogs_current
  have untroubled : scheduled.Untroubled → scheduled.current = scheduled.history := by
    intro calm
    unfold current
    rw [calm.unscheduled]
  obtain ⟨answer, history, answered, kept, cases⟩ := scheduled.current.answer_cases request
  refine ⟨answer, ⟨history, scheduled.schedule.tail⟩, ?_, ⟨same.trans kept, fun calm => ?_⟩, ?_⟩
  · change ScheduledHistory.answer scheduled request = _
    unfold ScheduledHistory.answer
    rw [answered]
  · rw [untroubled calm] at cases
    rcases cases with ⟨-, stalls, failures⟩ | ⟨-, troubled⟩
    · exact ⟨stalls.trans calm.prompt, failures.trans calm.reliable,
        congrArg List.tail calm.unscheduled⟩
    · exact (troubled ⟨calm.prompt, calm.reliable⟩).elim
  · rw [same.lookUp_eq] at cases
    rcases cases with ⟨found, -⟩ | ⟨failed, troubled⟩
    · exact .inl found
    · refine .inr ⟨failed, fun calm => troubled ?_⟩
      rw [untroubled calm]
      exact ⟨calm.prompt, calm.reliable⟩

section Window

variable {peer : AccountId} {low size : UInt64}

/-- A window is fetched by one of the attempts, or all of them fail. -/
theorem retry_cases (config : SyncConfig)
    (logs : scheduled.history.Logs (.between scheduled.history.me peer) log) (lowPos : 0 < low)
    (sizePos : 0 < size) (left : Nat) (last : String) :
    ∃ answer after,
      Backfill.retry config (.window peer low size) Backfill.decodeAll left last scheduled =
        (answer, after) ∧ scheduled.Follows after ∧
      (answer = .ok (Backfill.window log low.toNat size.toNat) ∨
        (∃ cause, answer = .error cause) ∧ (0 < left → ¬scheduled.Untroubled)) := by
  induction left generalizing scheduled last with
  | zero =>
      exact ⟨_, _, rfl, .refl scheduled, .inr ⟨⟨_, rfl⟩, fun none => (Nat.lt_irrefl 0 none).elim⟩⟩
  | succ left ih =>
      obtain ⟨answer, after, answered, follows, cases⟩ :=
        scheduled.answer_cases (.window peer low size)
      rw [Backfill.retry, answered]
      dsimp only
      rcases cases with found | ⟨⟨cause, failed⟩, troubled⟩
      · have decoded : Backfill.decodeAll ((Backfill.window log low.toNat size.toNat).map
            Message.spelling) = .ok _ :=
          Backfill.decodeAll_spelling fun message member =>
            logs.wellFormed message (Backfill.mem_window.mp member).1
        rw [found, Answer.within_atOnce, logs.lookUp_window lowPos sizePos, Except.bind, decoded]
        exact ⟨_, _, rfl, follows, .inl rfl⟩
      · obtain ⟨late, unanswered⟩ := Answer.within_of_error failed config.fetchTimeout
        have logsAfter : after.history.Logs (.between after.history.me peer) log := by
          rw [follows.sameLogs.me_eq]
          exact logs.of_same follows.sameLogs
        rw [unanswered, Except.bind]
        dsimp only
        split
        · exact ⟨_, after, rfl, follows, .inr ⟨⟨_, rfl⟩, fun _ => troubled⟩⟩
        · obtain ⟨answer, later, retried, further, outcome⟩ := ih logsAfter late.message
          exact ⟨answer, later, retried, follows.trans further,
            outcome.imp_right fun fails => ⟨fails.1, fun _ => troubled⟩⟩

/-- The page of the window of a cursor is fetched, or every attempt at it fails. -/
theorem nextPage_cases (config : SyncConfig) {cursor : Cursor} (active : cursor.done = false)
    (logs : scheduled.history.Logs (.between scheduled.history.me cursor.peer) log)
    (nextPos : 0 < cursor.next) :
    let page := Backfill.page false log cursor.next.toNat cursor.pageSize.toNat
    ∃ answer after, Backfill.nextPage config scheduled cursor = (answer, after) ∧
      scheduled.Follows after ∧
      (answer = .ok (some (page, cursor.advance page)) ∨
        (∃ cause, answer = .error cause) ∧ ¬scheduled.Untroubled) := by
  intro page
  obtain ⟨answer, after, fetched, follows, cases⟩ :=
    retry_cases config logs nextPos cursor.pageSize_pos config.retry.attempts ""
  rcases cases with rfl | ⟨⟨cause, rfl⟩, troubled⟩
  · have same : Page.ofMessages (Backfill.window log cursor.next.toNat cursor.pageSize.toNat) =
        page := by
      rw [Page.ofMessages_of_ne_sync fun message member =>
        logs.messages message (Backfill.mem_window.mp member).1]
      simp [page, Backfill.page]
    have paged := Backfill.nextPage_of_fetched active fetched
    rw [same] at paged
    exact ⟨_, after, paged, follows, .inl rfl⟩
  · exact ⟨_, after, Backfill.nextPage_of_failed active fetched, follows,
      .inr ⟨⟨cause, rfl⟩, troubled config.retry.attempts_pos⟩⟩

end Window

end ScheduledHistory

end Messenger
