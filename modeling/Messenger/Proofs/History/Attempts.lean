import Mathlib.Order.Basic
import Messenger.Proofs.Frame.Exactness
import Messenger.Proofs.History.Steady

/-!
# Attempts at a request

An answer yields messages only if it is in time and every frame of it spells one.  An answer
that is late, is refused or has one frame that spells none costs an attempt, and nothing of it
is kept.  The same request is made until an attempt is accepted, until a pause is longer than
any duration, or until no attempt is left.
-/

namespace Messenger

/-! ## What one answer yields -/

/-- The first of some frames that spells no message, after frames that do. -/
inductive Spoiled : List Octets → FrameError → Prop
  | first {frame : Octets} {rest : List Octets} {cause : FrameError}
      (unreadable : Message.decode frame = .error cause) : Spoiled (frame :: rest) cause
  | later {frame : Octets} {rest : List Octets} {message : Message} {cause : FrameError}
      (readable : Message.decode frame = .ok message) (spoiled : Spoiled rest cause) :
      Spoiled (frame :: rest) cause

namespace Backfill

theorem decodeAll_cons_of_ok {frame : Octets} {message : Message}
    (readable : Message.decode frame = .ok message) (rest : List Octets) :
    decodeAll (frame :: rest) = (decodeAll rest).map (message :: ·) := by
  unfold decodeAll
  rw [List.mapM_cons, readable]
  exact bind_pure_comp (message :: ·) (decodeAll rest)

theorem decodeAll_cons_of_error {frame : Octets} {cause : FrameError}
    (unreadable : Message.decode frame = .error cause) (rest : List Octets) :
    decodeAll (frame :: rest) = .error (.frame cause) := by
  unfold decodeAll
  rw [List.mapM_cons, unreadable]
  rfl

theorem decodeAll_eq_ok_iff {frames : List Octets} {messages : List Message} :
    decodeAll frames = .ok messages ↔ frames.map Message.decode = messages.map .ok := by
  induction frames generalizing messages with
  | nil => cases messages <;> simp [decodeAll, pure, Except.pure]
  | cons frame rest ih =>
      cases decoded : Message.decode frame with
      | error cause =>
          rw [decodeAll_cons_of_error decoded]
          cases messages <;> simp [decoded]
      | ok message =>
          rw [decodeAll_cons_of_ok decoded]
          cases messages with
          | nil => cases decodeAll rest <;> simp [Except.map]
          | cons other messages =>
              rw [List.map_cons, List.map_cons, decoded, List.cons.injEq, ← ih]
              cases decodeAll rest <;> simp [Except.map]

theorem decodeAll_eq_error_iff {frames : List Octets} {cause : HistoryError} :
    decodeAll frames = .error cause ↔
      ∃ unreadable, Spoiled frames unreadable ∧ cause = .frame unreadable := by
  induction frames with
  | nil =>
      refine iff_of_false nofun ?_
      rintro ⟨unreadable, spoiled, -⟩
      cases spoiled
  | cons frame rest ih =>
      cases decoded : Message.decode frame with
      | error unreadable =>
          rw [decodeAll_cons_of_error decoded]
          constructor
          · rintro ⟨⟩
            exact ⟨unreadable, .first decoded, rfl⟩
          · rintro ⟨_, first | ⟨readable, -⟩, rfl⟩
            · rw [decoded] at first
              cases first
              rfl
            · rw [decoded] at readable
              cases readable
      | ok message =>
          have rest_iff : (decodeAll rest).map (message :: ·) = .error cause ↔
              decodeAll rest = .error cause := by
            cases decodeAll rest <;> simp [Except.map]
          rw [decodeAll_cons_of_ok decoded, rest_iff, ih]
          constructor
          · rintro ⟨unreadable, spoiled, same⟩
            exact ⟨unreadable, .later decoded spoiled, same⟩
          · rintro ⟨unreadable, first | ⟨-, spoiled⟩, same⟩
            · rw [decoded] at first
              cases first
            · exact ⟨unreadable, spoiled, same⟩

end Backfill

namespace Answer

variable {answer : Answer} {limit : Duration}

/-- An answer is in time, and its frames spell messages, each one and in their order. -/
structure Yields (answer : Answer) (limit : Duration) (messages : List Message) : Prop where
  inTime : answer.delay.ticks ≤ limit.ticks
  spelled : ∃ frames, answer.frames = .ok frames ∧
    frames.map Message.decode = messages.map .ok

/-- Why an answer yields no messages. -/
inductive FailsWith (answer : Answer) (limit : Duration) : HistoryError → Prop
  | late (after : limit.ticks < answer.delay.ticks) : FailsWith answer limit (.timeout limit)
  | refused {cause : HistoryError} (inTime : answer.delay.ticks ≤ limit.ticks)
      (refused : answer.frames = .error cause) : FailsWith answer limit cause
  | unreadable {frames : List Octets} {cause : FrameError}
      (inTime : answer.delay.ticks ≤ limit.ticks) (answered : answer.frames = .ok frames)
      (spoiled : Spoiled frames cause) : FailsWith answer limit (.frame cause)

theorem within_of_inTime (inTime : answer.delay.ticks ≤ limit.ticks) :
    answer.within limit = answer.frames :=
  if_pos inTime

theorem within_of_late (late : limit.ticks < answer.delay.ticks) :
    answer.within limit = .error (.timeout limit) :=
  if_neg (Nat.not_le_of_gt late)

theorem ticks_atOnce_le (frames : Except HistoryError (List Octets)) (limit : Duration) :
    (atOnce frames).delay.ticks ≤ limit.ticks := by
  have none : (atOnce frames).delay.ticks = 0 := by
    simp [atOnce, Duration.ticks, Duration.millis]
  exact none ▸ Nat.zero_le limit.ticks

/-- An answer that takes no time is in time. -/
theorem within_atOnce (frames : Except HistoryError (List Octets)) (limit : Duration) :
    (atOnce frames).within limit = frames :=
  within_of_inTime (ticks_atOnce_le frames limit)

theorem yields_atOnce {frames : List Octets} {messages : List Message}
    (spelled : frames.map Message.decode = messages.map .ok) :
    (atOnce (.ok frames)).Yields limit messages :=
  ⟨ticks_atOnce_le (.ok frames) limit, frames, rfl, spelled⟩

theorem decoded_eq_ok_iff {messages : List Message} :
    (answer.within limit).bind Backfill.decodeAll = .ok messages ↔
      answer.Yields limit messages := by
  constructor
  · intro decoded
    by_cases inTime : answer.delay.ticks ≤ limit.ticks
    · rw [within_of_inTime inTime] at decoded
      obtain ⟨frames, answered, read⟩ := Except.bind_eq_ok_iff.mp decoded
      exact ⟨inTime, frames, answered, Backfill.decodeAll_eq_ok_iff.mp read⟩
    · rw [within_of_late (Nat.lt_of_not_le inTime)] at decoded
      cases decoded
  · rintro ⟨inTime, frames, answered, spelled⟩
    rw [within_of_inTime inTime, answered]
    exact Backfill.decodeAll_eq_ok_iff.mpr spelled

theorem decoded_eq_error_iff {cause : HistoryError} :
    (answer.within limit).bind Backfill.decodeAll = .error cause ↔
      answer.FailsWith limit cause := by
  constructor
  · intro failed
    by_cases inTime : answer.delay.ticks ≤ limit.ticks
    · rw [within_of_inTime inTime] at failed
      cases answered : answer.frames with
      | error refusal =>
          rw [answered] at failed
          cases failed
          exact .refused inTime answered
      | ok frames =>
          rw [answered] at failed
          obtain ⟨unreadable, spoiled, rfl⟩ := Backfill.decodeAll_eq_error_iff.mp failed
          exact .unreadable inTime answered spoiled
    · have late := Nat.lt_of_not_le inTime
      rw [within_of_late late] at failed
      cases failed
      exact .late late
  · intro fails
    cases fails with
    | late after => rw [within_of_late after]; rfl
    | refused inTime refused => rw [within_of_inTime inTime, refused]; rfl
    | unreadable inTime answered spoiled =>
        rw [within_of_inTime inTime, answered]
        exact Backfill.decodeAll_eq_error_iff.mpr ⟨_, spoiled, rfl⟩

theorem exists_failsWith_iff :
    (∃ cause, answer.FailsWith limit cause) ↔ ∀ messages, ¬answer.Yields limit messages := by
  simp only [← decoded_eq_ok_iff, ← decoded_eq_error_iff]
  cases (answer.within limit).bind Backfill.decodeAll <;> simp

end Answer

/-! ## Which attempt ends a request -/

/-- Some number below a bound is the first with a property, or none has it. -/
theorem exists_first_or_none (P : Nat → Prop) (bound : Nat) :
    (∃ first < bound, P first ∧ ∀ index < first, ¬P index) ∨ ∀ index < bound, ¬P index := by
  induction bound with
  | zero => exact .inr nofun
  | succ bound ih =>
      rcases ih with ⟨first, below, holds, earlier⟩ | none
      · exact .inl ⟨first, Nat.lt_succ_of_lt below, holds, earlier⟩
      · by_cases holds : P bound
        · exact .inl ⟨bound, bound.lt_succ_self, holds, none⟩
        · refine .inr fun index among => ?_
          rcases Nat.lt_succ_iff_lt_or_eq.mp among with below | rfl
          · exact none index below
          · exact holds

variable {η : Type} [HistorySource η]

/-- The answer to a request that was made some times before. -/
def HistorySource.nthAnswer (source : η) (request : HistoryRequest) (before : Nat) : Answer :=
  (answer (afterAll source (List.replicate before request)) request).1

theorem HistorySource.afterAll_replicate_succ (source : η) (request : HistoryRequest)
    (before : Nat) :
    afterAll source (List.replicate (before + 1) request) =
      (answer (afterAll source (List.replicate before request)) request).2 := by
  unfold afterAll
  rw [List.replicate_succ', List.foldl_append]
  rfl

namespace Backfill

section Retry

variable {α : Type} {config : SyncConfig} {request : HistoryRequest}
  {accept : List Octets → Except HistoryError α}

/-- What becomes of an attempt at a request, some attempts before it. -/
def attempt (config : SyncConfig) (request : HistoryRequest)
    (accept : List Octets → Except HistoryError α) (source : η) (before : Nat) :
    Except HistoryError α :=
  ((HistorySource.nthAnswer source request before).within config.fetchTimeout).bind accept

/-- Of so many attempts one fails, and the pause behind it is not too long. -/
structure GoesOn (config : SyncConfig) (request : HistoryRequest)
    (accept : List Octets → Except HistoryError α) (source : η) (left index : Nat) : Prop where
  failed : ∃ cause, attempt config request accept source index = .error cause
  pauses : config.retry.overflows (left - (index + 1))
    (HistorySource.nthAnswer source request index).draw = false

section OneAttempt

variable {before left : Nat} {last : String} {source : η}

theorem retry_of_ok {value : α}
    (accepted : attempt config request accept source before = .ok value) :
    retry config request accept (left + 1) last
        (HistorySource.afterAll source (List.replicate before request)) =
      (.ok value, HistorySource.afterAll source (List.replicate (before + 1) request)) := by
  unfold attempt HistorySource.nthAnswer at accepted
  rw [retry, HistorySource.afterAll_replicate_succ]
  dsimp only
  rw [accepted]

theorem retry_of_error {cause : HistoryError}
    (failed : attempt config request accept source before = .error cause) :
    retry config request accept (left + 1) last
        (HistorySource.afterAll source (List.replicate before request)) =
      let after := HistorySource.afterAll source (List.replicate (before + 1) request)
      if config.retry.overflows left (HistorySource.nthAnswer source request before).draw then
        (.error .pauseOverflow, after)
      else retry config request accept left cause.message after := by
  unfold attempt HistorySource.nthAnswer at failed
  rw [retry, HistorySource.afterAll_replicate_succ]
  dsimp only
  rw [failed]
  rfl

end OneAttempt

section Outcomes

variable {before left : Nat} {last : String} {source : η}

/-- Behind attempts that go on, the ones that are left are made. -/
theorem retry_of_goesOn (rest : Nat) (split : left = before + rest)
    (earlier : ∀ index < before, GoesOn config request accept source left index) :
    ∃ later, retry config request accept left last source =
      retry config request accept rest later
        (HistorySource.afterAll source (List.replicate before request)) := by
  induction before generalizing rest with
  | zero =>
      rw [Nat.zero_add] at split
      exact ⟨last, by rw [split]; rfl⟩
  | succ before ih =>
      obtain ⟨⟨cause, failed⟩, pauses⟩ := earlier before before.lt_succ_self
      obtain ⟨later, run⟩ := ih (rest + 1) (split.trans (Nat.add_right_comm before 1 rest))
        fun index below => earlier index (Nat.lt_succ_of_lt below)
      have remaining : left - (before + 1) = rest := by omega
      rw [remaining] at pauses
      rw [run, retry_of_error failed]
      exact ⟨cause.message, if_neg (Bool.not_eq_true _ ▸ pauses)⟩

/-- The first attempt that is accepted ends a request. -/
theorem retry_of_accepted {value : α} (inBudget : before < left)
    (earlier : ∀ index < before, GoesOn config request accept source left index)
    (accepted : attempt config request accept source before = .ok value) :
    retry config request accept left last source =
      (.ok value, HistorySource.afterAll source (List.replicate (before + 1) request)) := by
  obtain ⟨rest, split⟩ := Nat.exists_eq_add_of_lt inBudget
  obtain ⟨later, run⟩ := retry_of_goesOn (rest + 1) split earlier
  rw [run, retry_of_ok accepted]

/-- So does the first one that fails and has a pause behind it that is too long. -/
theorem retry_of_halted {cause : HistoryError} (inBudget : before < left)
    (earlier : ∀ index < before, GoesOn config request accept source left index)
    (failed : attempt config request accept source before = .error cause)
    (halts : config.retry.overflows (left - (before + 1))
      (HistorySource.nthAnswer source request before).draw = true) :
    retry config request accept left last source =
      (.error .pauseOverflow,
        HistorySource.afterAll source (List.replicate (before + 1) request)) := by
  obtain ⟨rest, split⟩ := Nat.exists_eq_add_of_lt inBudget
  obtain ⟨later, run⟩ := retry_of_goesOn (rest + 1) split earlier
  have remaining : left - (before + 1) = rest := by omega
  rw [remaining] at halts
  rw [run, retry_of_error failed]
  exact if_pos halts

/-- A request that goes on to its last attempt tells why this one failed. -/
theorem retry_of_failed {cause : HistoryError}
    (earlier : ∀ index < left, GoesOn config request accept source (left + 1) index)
    (failed : attempt config request accept source left = .error cause) :
    retry config request accept (left + 1) last source =
      (.error (.failed (.exhausted config.retry.attempts cause.message)),
        HistorySource.afterAll source (List.replicate (left + 1) request)) := by
  obtain ⟨later, run⟩ := retry_of_goesOn 1 rfl earlier
  rw [run, retry_of_error failed]
  rfl

end Outcomes

/-- What a request comes to that may be made so many times. -/
inductive Ends (config : SyncConfig) (request : HistoryRequest)
    (accept : List Octets → Except HistoryError α) (source : η) (left : Nat) :
    Except FetchError α × η → Prop
  | accepted {before : Nat} {value : α} (inBudget : before < left)
      (earlier : ∀ index < before, GoesOn config request accept source left index)
      (accepted : attempt config request accept source before = .ok value) :
      Ends config request accept source left
        (.ok value, HistorySource.afterAll source (List.replicate (before + 1) request))
  | halted {before : Nat} {cause : HistoryError} (inBudget : before < left)
      (earlier : ∀ index < before, GoesOn config request accept source left index)
      (failed : attempt config request accept source before = .error cause)
      (halts : config.retry.overflows (left - (before + 1))
        (HistorySource.nthAnswer source request before).draw = true) :
      Ends config request accept source left
        (.error .pauseOverflow,
          HistorySource.afterAll source (List.replicate (before + 1) request))
  | spent {before : Nat} {cause : HistoryError} (last : left = before + 1)
      (earlier : ∀ index < before, GoesOn config request accept source left index)
      (failed : attempt config request accept source before = .error cause) :
      Ends config request accept source left
        (.error (.failed (.exhausted config.retry.attempts cause.message)),
          HistorySource.afterAll source (List.replicate left request))

theorem retry_eq_iff {left : Nat} (positive : 0 < left) {last : String} {source : η}
    {result : Except FetchError α × η} :
    retry config request accept left last source = result ↔
      Ends config request accept source left result := by
  constructor
  · rintro rfl
    rcases exists_first_or_none (fun index => ¬GoesOn config request accept source left index)
      left with ⟨before, inBudget, stops, noneStops⟩ | all
    · have earlier := fun index below => not_not.mp (noneStops index below)
      cases outcome : attempt config request accept source before with
      | ok value =>
          rw [retry_of_accepted inBudget earlier outcome]
          exact .accepted inBudget earlier outcome
      | error cause =>
          have halts := eq_true_of_ne_false fun pauses =>
            stops ⟨⟨cause, outcome⟩, pauses⟩
          rw [retry_of_halted inBudget earlier outcome halts]
          exact .halted inBudget earlier outcome halts
    · obtain ⟨before, rfl⟩ := Nat.exists_eq_add_one.mpr positive
      have goesOn := fun index below => not_not.mp (all index below)
      obtain ⟨cause, failed⟩ := (goesOn before before.lt_succ_self).failed
      have earlier := fun index below => goesOn index (Nat.lt_succ_of_lt below)
      rw [retry_of_failed earlier failed]
      exact .spent rfl earlier failed
  · rintro (⟨inBudget, earlier, accepted⟩ | ⟨inBudget, earlier, failed, halts⟩ |
      ⟨rfl, earlier, failed⟩)
    · exact retry_of_accepted inBudget earlier accepted
    · exact retry_of_halted inBudget earlier failed halts
    · exact retry_of_failed earlier failed

/-- Whatever becomes of a request, nothing else is asked, at least once if it may be asked at all,
and no more often than allowed. -/
theorem exists_asked_of_retry (config : SyncConfig) (request : HistoryRequest)
    (accept : List Octets → Except HistoryError α) (left : Nat) (last : String) (source : η) :
    ∃ count ≤ left, (0 < left → 0 < count) ∧
      (retry config request accept left last source).2 =
        HistorySource.afterAll source (List.replicate count request) := by
  rcases Nat.eq_zero_or_pos left with rfl | positive
  · exact ⟨0, Nat.le_refl 0, id, rfl⟩
  · cases ended : retry config request accept left last source with
    | mk result after =>
        cases (retry_eq_iff positive).mp ended with
        | accepted inBudget => exact ⟨_, inBudget, fun _ => Nat.succ_pos _, rfl⟩
        | halted inBudget => exact ⟨_, inBudget, fun _ => Nat.succ_pos _, rfl⟩
        | spent => exact ⟨left, Nat.le_refl left, id, rfl⟩

end Retry

end Backfill

end Messenger
