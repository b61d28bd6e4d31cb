import Messenger.Proofs.History.Attempts
import Messenger.Proofs.History.Delays

/-!
# The budget of a page

A page is fetched by the first attempt that yields messages, or the whole budget of attempts is
spent on it.  Only a pause that no duration holds ends the attempts before.  A cursor moves past
a page that was fetched, and stays otherwise.
-/

namespace Messenger

variable {η : Type} [HistorySource η]

namespace Backfill

/-! ## What fetching comes to -/

/-- The answer behind so many others is the first that yields messages, and the budget allows the
attempt. -/
structure FirstYield (config : SyncConfig) (answers : Nat → Answer) (before : Nat)
    (messages : List Message) : Prop where
  inBudget : before < config.retry.attempts
  yields : (answers before).Yields config.fetchTimeout messages
  first : ∀ index < before, ∀ others, ¬(answers index).Yields config.fetchTimeout others

/-- No answer within the budget yields messages, and a cause tells why the last one does not. -/
structure Spent (config : SyncConfig) (answers : Nat → Answer) (cause : HistoryError) : Prop where
  noYield : ∀ index < config.retry.attempts, ∀ messages,
    ¬(answers index).Yields config.fetchTimeout messages
  last : (answers (config.retry.attempts - 1)).FailsWith config.fetchTimeout cause

/-- If the budget allows an attempt behind an answer, a duration holds the pause in between. -/
def Fits (config : SyncConfig) (answers : Nat → Answer) (index : Nat) : Prop :=
  index + 1 < config.retry.attempts →
    config.retry.delay? (UInt32.ofNat (index + 1)) (answers index).draw ≠ none

/-- No answer up to some index yields messages, and the pause behind this one is the first that no
duration holds. -/
structure Halts (config : SyncConfig) (answers : Nat → Answer) (index : Nat) : Prop where
  noYield : ∀ earlier ≤ index, ∀ messages,
    ¬(answers earlier).Yields config.fetchTimeout messages
  fits : ∀ earlier < index, Fits config answers earlier
  halts : ¬Fits config answers index

/-- Unless some pause is too long, all pauses up to a first yield fit. -/
theorem fits_of_not_halts {config : SyncConfig} {answers : Nat → Answer}
    (goesOn : ∀ index, ¬Halts config answers index) (index : Nat)
    (noYield : ∀ earlier ≤ index, ∀ messages,
      ¬(answers earlier).Yields config.fetchTimeout messages) :
    Fits config answers index := by
  induction index using Nat.strongRecOn with
  | ind index ih =>
      by_contra halts
      refine goesOn index ⟨noYield, fun earlier below => ih earlier below ?_, halts⟩
      exact fun first among => noYield first (Nat.le_trans among (Nat.le_of_lt below))

section Fetching

variable {config : SyncConfig} {source after : η} {request : HistoryRequest}

theorem overflows_eq_false_iff {index : Nat} (inBudget : index < config.retry.attempts) :
    config.retry.overflows (config.retry.attempts - (index + 1))
        (HistorySource.nthAnswer source request index).draw = false ↔
      Fits config (HistorySource.nthAnswer source request) index := by
  have number : config.retry.attempts - (config.retry.attempts - (index + 1)) = index + 1 := by
    omega
  unfold RetryPolicy.overflows Fits
  rw [number]
  simp only [Bool.and_eq_false_imp, decide_eq_true_eq, Nat.sub_pos_iff_lt,
    Option.isNone_eq_false_iff, Option.isSome_iff_ne_none]

theorem attempt_eq_ok_iff {index : Nat} {messages : List Message} :
    attempt config request decodeAll source index = .ok messages ↔
      (HistorySource.nthAnswer source request index).Yields config.fetchTimeout messages :=
  Answer.decoded_eq_ok_iff

theorem attempt_eq_error_iff {index : Nat} {cause : HistoryError} :
    attempt config request decodeAll source index = .error cause ↔
      (HistorySource.nthAnswer source request index).FailsWith config.fetchTimeout cause :=
  Answer.decoded_eq_error_iff

theorem exists_attempt_error_iff {index : Nat} :
    (∃ cause, attempt config request decodeAll source index = .error cause) ↔
      ∀ messages, ¬(HistorySource.nthAnswer source request index).Yields config.fetchTimeout
        messages := by
  simp only [attempt_eq_error_iff]
  exact Answer.exists_failsWith_iff

/-- A first failure behind others leaves no messages up to it. -/
theorem noYield_of_failed {before : Nat} {cause : HistoryError}
    (earlier : ∀ index < before, ∀ messages,
      ¬(HistorySource.nthAnswer source request index).Yields config.fetchTimeout messages)
    (failed : attempt config request decodeAll source before = .error cause) :
    ∀ index ≤ before, ∀ messages,
      ¬(HistorySource.nthAnswer source request index).Yields config.fetchTimeout messages := by
  intro index among
  rcases Nat.lt_or_eq_of_le among with below | rfl
  · exact earlier index below
  · exact exists_attempt_error_iff.mp ⟨cause, failed⟩

/-- Attempts within the budget go on exactly if none yields messages and the pauses fit. -/
theorem forall_goesOn_iff {before : Nat} (inBudget : before ≤ config.retry.attempts) :
    (∀ index < before,
        GoesOn config request decodeAll source config.retry.attempts index) ↔
      (∀ index < before, ∀ messages,
        ¬(HistorySource.nthAnswer source request index).Yields config.fetchTimeout messages) ∧
      ∀ index < before, Fits config (HistorySource.nthAnswer source request) index := by
  rw [← forall₂_and]
  refine forall₂_congr fun index below => ?_
  rw [← exists_attempt_error_iff, ← overflows_eq_false_iff (Nat.lt_of_lt_of_le below inBudget)]
  exact ⟨fun ⟨failed, pauses⟩ => ⟨failed, pauses⟩, fun ⟨failed, pauses⟩ => ⟨failed, pauses⟩⟩

theorem fetchMessages_eq_ok_iff {messages : List Message} :
    fetchMessages config source request = (.ok messages, after) ↔
      ∃ before, let answers := HistorySource.nthAnswer source request
        FirstYield config answers before messages ∧
        (∀ index < before, Fits config answers index) ∧
        after = HistorySource.afterAll source (List.replicate (before + 1) request) := by
  unfold fetchMessages
  rw [retry_eq_iff config.retry.attempts_pos]
  constructor
  · intro ends
    cases ends with
    | @accepted before _ inBudget earlier accepted =>
        obtain ⟨first, fits⟩ := (forall_goesOn_iff (Nat.le_of_lt inBudget)).mp earlier
        exact ⟨before, ⟨inBudget, attempt_eq_ok_iff.mp accepted, first⟩, fits, rfl⟩
  · rintro ⟨before, ⟨inBudget, yields, first⟩, fits, rfl⟩
    have earlier := (forall_goesOn_iff (Nat.le_of_lt inBudget)).mpr ⟨first, fits⟩
    exact .accepted inBudget earlier (attempt_eq_ok_iff.mpr yields)

/-- A first answer that yields messages ends a request. -/
theorem fetchMessages_of_yields {messages : List Message}
    (yields : (HistorySource.answer source request).1.Yields config.fetchTimeout messages) :
    fetchMessages config source request =
      (.ok messages, (HistorySource.answer source request).2) :=
  fetchMessages_eq_ok_iff.mpr ⟨0, ⟨config.retry.attempts_pos, yields, nofun⟩, nofun, rfl⟩

theorem fetchMessages_eq_error_iff {cause : FetchError} :
    fetchMessages config source request = (.error cause, after) ↔
      let answers := HistorySource.nthAnswer source request
      (∃ last, Spent config answers last ∧ (∀ index, Fits config answers index) ∧
        cause = .failed (.exhausted config.retry.attempts last.message) ∧
        after = HistorySource.afterAll source
          (List.replicate config.retry.attempts request)) ∨
      ∃ index, Halts config answers index ∧ cause = .pauseOverflow ∧
        after = HistorySource.afterAll source (List.replicate (index + 1) request) := by
  unfold fetchMessages
  rw [retry_eq_iff config.retry.attempts_pos]
  constructor
  · intro ends
    cases ends with
    | @halted before _ inBudget earlier failed halts =>
        obtain ⟨noYield, fits⟩ := (forall_goesOn_iff (Nat.le_of_lt inBudget)).mp earlier
        refine .inr ⟨before, ⟨noYield_of_failed noYield failed, fits, fun fit => ?_⟩, rfl, rfl⟩
        rw [(overflows_eq_false_iff inBudget).mpr fit] at halts
        cases halts
    | @spent before last split earlier failed =>
        have final : config.retry.attempts - 1 = before := by rw [split, Nat.add_sub_cancel]
        obtain ⟨noYield, fits⟩ := (forall_goesOn_iff (final ▸ Nat.sub_le ..)).mp earlier
        refine .inl ⟨last, ⟨fun index inBudget => ?_, ?_⟩, fun index another => ?_, rfl, rfl⟩
        · have among := Nat.le_of_lt_succ (Nat.lt_of_lt_of_eq inBudget split)
          exact noYield_of_failed noYield failed index among
        · rw [final]
          exact attempt_eq_error_iff.mp failed
        · exact fits index (by omega) another
  · rintro (⟨last, ⟨noYield, fails⟩, fits, rfl, rfl⟩ | ⟨before, ⟨noYield, fits, halts⟩, rfl, rfl⟩)
    · refine .spent (Nat.sub_add_cancel config.retry.attempts_pos).symm ?_
        (attempt_eq_error_iff.mpr fails)
      refine (forall_goesOn_iff (Nat.sub_le ..)).mpr
        ⟨fun index below => ?_, fun index _ => fits index⟩
      exact noYield index (Nat.lt_of_lt_pred below)
    · have inBudget : before < config.retry.attempts := by
        by_contra last
        exact halts fun another => (last (Nat.lt_of_succ_lt another)).elim
      obtain ⟨cause, failed⟩ := exists_attempt_error_iff.mpr (noYield before (Nat.le_refl before))
      have earlier := (forall_goesOn_iff (Nat.le_of_lt inBudget)).mpr
        ⟨fun index below => noYield index (Nat.le_of_lt below), fits⟩
      refine .halted inBudget earlier failed (eq_true_of_ne_false fun pauses => ?_)
      exact halts ((overflows_eq_false_iff inBudget).mp pauses)

/-- Unless a pause is too long, the first answer that yields messages ends a request. -/
theorem fetchMessages_of_firstYield {before : Nat} {messages : List Message}
    (goesOn : ∀ index, ¬Halts config (HistorySource.nthAnswer source request) index)
    (found : FirstYield config (HistorySource.nthAnswer source request) before messages) :
    fetchMessages config source request =
      (.ok messages, HistorySource.afterAll source (List.replicate (before + 1) request)) := by
  refine fetchMessages_eq_ok_iff.mpr ⟨before, found, fun index below => ?_, rfl⟩
  exact fits_of_not_halts goesOn index fun earlier among =>
    found.first earlier (Nat.lt_of_le_of_lt among below)

theorem fetchMessages_of_spent {cause : HistoryError}
    (goesOn : ∀ index, ¬Halts config (HistorySource.nthAnswer source request) index)
    (spent : Spent config (HistorySource.nthAnswer source request) cause) :
    fetchMessages config source request =
      (.error (.failed (.exhausted config.retry.attempts cause.message)),
        HistorySource.afterAll source (List.replicate config.retry.attempts request)) := by
  refine fetchMessages_eq_error_iff.mpr (.inl ⟨cause, spent, fun index another => ?_, rfl, rfl⟩)
  refine fits_of_not_halts goesOn index (fun earlier among => ?_) another
  exact spent.noYield earlier (Nat.lt_of_le_of_lt among (Nat.lt_of_succ_lt another))

end Fetching

end Backfill

/-! ## What becomes of a cursor -/

/-- A cursor that is not done asks for the window from its next number on. -/
theorem Cursor.request?_of_active {cursor : Cursor} (active : cursor.done = false) :
    cursor.request? = some (.window cursor.peer cursor.next cursor.pageSize) := by
  unfold Cursor.request?
  rw [active]
  rfl

namespace Backfill

section Paging

variable {config : SyncConfig} {source after : η} {cursor : Cursor}

theorem nextPage_of_done (finished : cursor.done = true) :
    nextPage config source cursor = (.ok none, source) := by
  unfold nextPage Cursor.request?
  rw [finished]
  rfl

/-- The messages that answer the request of a cursor make its page. -/
theorem nextPage_of_fetched {messages : List Message} (active : cursor.done = false)
    (fetched : fetchMessages config source
      (.window cursor.peer cursor.next cursor.pageSize) = (.ok messages, after)) :
    let page := Page.ofMessages messages
    nextPage config source cursor = (.ok (some (page, cursor.advance page)), after) := by
  unfold nextPage
  rw [Cursor.request?_of_active active]
  dsimp only
  rw [fetched]

theorem nextPage_of_failed {cause : FetchError} (active : cursor.done = false)
    (failed : fetchMessages config source
      (.window cursor.peer cursor.next cursor.pageSize) = (.error cause, after)) :
    nextPage config source cursor = (.error cause, after) := by
  unfold nextPage
  rw [Cursor.request?_of_active active]
  dsimp only
  rw [failed]

theorem nextPage_cases (config : SyncConfig) (source : η) (cursor : Cursor) :
    let fetched := fetchMessages config source
      (.window cursor.peer cursor.next cursor.pageSize)
    cursor.done = true ∧ nextPage config source cursor = (.ok none, source) ∨
      cursor.done = false ∧
        ((∃ messages after, let page := Page.ofMessages messages
            fetched = (.ok messages, after) ∧
            nextPage config source cursor = (.ok (some (page, cursor.advance page)), after)) ∨
          ∃ cause after, fetched = (.error cause, after) ∧
            nextPage config source cursor = (.error cause, after)) := by
  intro fetched
  cases active : cursor.done with
  | true => exact .inl ⟨rfl, nextPage_of_done active⟩
  | false =>
      refine .inr ⟨rfl, ?_⟩
      cases outcome : fetched with
      | mk result after =>
          cases result with
          | ok messages =>
              exact .inl ⟨messages, after, rfl, nextPage_of_fetched active outcome⟩
          | error cause => exact .inr ⟨cause, after, rfl, nextPage_of_failed active outcome⟩

theorem nextPage_eq_none_iff :
    nextPage config source cursor = (.ok none, after) ↔ cursor.done = true ∧ after = source := by
  constructor
  · intro paged
    rcases nextPage_cases config source cursor with
      ⟨done, same⟩ | ⟨-, ⟨_, _, -, same⟩ | ⟨_, _, -, same⟩⟩ <;> cases same.symm.trans paged
    exact ⟨done, rfl⟩
  · rintro ⟨done, rfl⟩
    exact nextPage_of_done done

theorem nextPage_eq_some_iff {page : Page} {moved : Cursor} :
    nextPage config source cursor = (.ok (some (page, moved)), after) ↔
      cursor.done = false ∧ ∃ messages,
        fetchMessages config source (.window cursor.peer cursor.next cursor.pageSize) =
          (.ok messages, after) ∧
        page = .ofMessages messages ∧ moved = cursor.advance page := by
  constructor
  · intro paged
    rcases nextPage_cases config source cursor with
      ⟨-, same⟩ | ⟨active, ⟨messages, _, fetched, same⟩ | ⟨_, _, -, same⟩⟩ <;>
      cases same.symm.trans paged
    exact ⟨active, messages, fetched, rfl, rfl⟩
  · rintro ⟨active, messages, fetched, rfl, rfl⟩
    exact nextPage_of_fetched active fetched

theorem nextPage_eq_error_iff {cause : FetchError} :
    nextPage config source cursor = (.error cause, after) ↔
      cursor.done = false ∧
        fetchMessages config source (.window cursor.peer cursor.next cursor.pageSize) =
          (.error cause, after) := by
  constructor
  · intro failed
    rcases nextPage_cases config source cursor with
      ⟨-, same⟩ | ⟨active, ⟨_, _, -, same⟩ | ⟨_, _, fetched, same⟩⟩ <;>
      cases same.symm.trans failed
    exact ⟨active, fetched⟩
  · rintro ⟨active, fetched⟩
    exact nextPage_of_failed active fetched

/-- A cursor whose page cannot be fetched stays at this page, and no page is given. -/
theorem allPages_eq_failed_iff {cause : FetchError} :
    allPages config source cursor = (([], some cause), cursor, after) ↔
      nextPage config source cursor = (.error cause, after) := by
  rw [allPages]
  split
  · next fetched => simp [fetched]
  · next fetched => simp [fetched]
  · next fetched => simp [fetched]

end Paging

end Backfill

/-! ## What is sent -/

/-- A source of history that remembers what it was asked. -/
structure Recorded (η : Type) where
  source : η
  /-- The requests, oldest first. -/
  requests : List HistoryRequest
deriving DecidableEq, Repr

instance {η : Type} [HistorySource η] : HistorySource (Recorded η) where
  answer recorded request :=
    let (answer, source) := HistorySource.answer recorded.source request
    (answer, { source, requests := recorded.requests ++ [request] })

namespace Recorded

/-- A source and its record after some requests. -/
def afterAll (recorded : Recorded η) (asked : List HistoryRequest) : Recorded η where
  source := HistorySource.afterAll recorded.source asked
  requests := recorded.requests ++ asked

theorem historyAfterAll_eq (recorded : Recorded η) (asked : List HistoryRequest) :
    HistorySource.afterAll recorded asked = recorded.afterAll asked := by
  induction asked generalizing recorded with
  | nil => exact congrArg (Recorded.mk recorded.source) (List.append_nil _).symm
  | cons request rest ih =>
      refine (ih (HistorySource.answer recorded request).2).trans ?_
      exact congrArg (Recorded.mk _) (List.append_assoc recorded.requests [request] rest)

/-- Recording changes no answer. -/
theorem nthAnswer_eq (recorded : Recorded η) (request : HistoryRequest) :
    HistorySource.nthAnswer recorded request =
      HistorySource.nthAnswer recorded.source request := by
  funext before
  unfold HistorySource.nthAnswer
  rw [historyAfterAll_eq]
  rfl

/-- The record tells how often a request was made. -/
theorem afterAll_replicate_inj {recorded : Recorded η} {request : HistoryRequest} {m n : Nat}
    (same : recorded.afterAll (List.replicate m request) =
      recorded.afterAll (List.replicate n request)) : m = n := by
  have lengths := congrArg (fun after => after.requests.length) same
  simpa [afterAll] using lengths

end Recorded

namespace Backfill

theorem exists_firstYield_or_spent (config : SyncConfig) (answers : Nat → Answer) :
    (∃ before messages, FirstYield config answers before messages) ∨
      ∃ cause, Spent config answers cause := by
  rcases exists_first_or_none
      (fun index => ∃ messages, (answers index).Yields config.fetchTimeout messages)
      config.retry.attempts with ⟨before, inBudget, ⟨messages, yields⟩, first⟩ | none
  · exact .inl ⟨before, messages, inBudget, yields,
      fun index below => not_exists.mp (first index below)⟩
  · have noYield := fun index inBudget => not_exists.mp (none index inBudget)
    have inBudget := Nat.sub_one_lt_of_lt config.retry.attempts_pos
    obtain ⟨cause, fails⟩ := Answer.exists_failsWith_iff.mpr (noYield _ inBudget)
    exact .inr ⟨cause, noYield, fails⟩

/-- Either some of the first `max maxAttempts 1` answers is the first that yields messages, or none
yields any.  Exactly if no pause is too long, the request is sent until this answer and its messages
are fetched, or it is sent `max maxAttempts 1` times and the error tells why the last attempt
failed; the first pause that is too long ends the attempts.  A page is made of the messages fetched
for it and moves the cursor past it, a failure leaves the cursor where it is, and for a cursor that
is done nothing is sent. -/
theorem fetched_within_budget_iff (config : SyncConfig) (recorded : Recorded η) :
    let budget := max config.retry.maxAttempts.toNat 1
    (∀ request, let answers := HistorySource.nthAnswer recorded.source request
      let fetched := fetchMessages config recorded request
      ((∃ before messages, FirstYield config answers before messages) ∨
        ∃ cause, Spent config answers cause) ∧
      ((∀ index, ¬Halts config answers index) ↔
        (∀ before messages, FirstYield config answers before messages →
          fetched = (.ok messages, recorded.afterAll (List.replicate (before + 1) request))) ∧
        ∀ cause, Spent config answers cause →
          fetched = (.error (.failed (.exhausted budget cause.message)),
            recorded.afterAll (List.replicate budget request))) ∧
      ∀ index, Halts config answers index ↔
        fetched = (.error .pauseOverflow,
          recorded.afterAll (List.replicate (index + 1) request))) ∧
    ∀ cursor after, let request := HistoryRequest.window cursor.peer cursor.next cursor.pageSize
      (nextPage config recorded cursor = (.ok none, after) ↔
        cursor.done = true ∧ after = recorded) ∧
      (∀ page moved, nextPage config recorded cursor = (.ok (some (page, moved)), after) ↔
        cursor.done = false ∧ ∃ messages,
          fetchMessages config recorded request = (.ok messages, after) ∧
          page = .ofMessages messages ∧ moved = cursor.advance page) ∧
      (∀ cause, nextPage config recorded cursor = (.error cause, after) ↔
        cursor.done = false ∧ fetchMessages config recorded request = (.error cause, after)) ∧
      ∀ cause, nextPage config recorded cursor = (.error cause, after) ↔
        allPages config recorded cursor = (([], some cause), cursor, after) := by
  refine ⟨fun request => ?_, fun cursor after =>
    ⟨nextPage_eq_none_iff, fun _ _ => nextPage_eq_some_iff, fun _ => nextPage_eq_error_iff,
      fun _ => allPages_eq_failed_iff.symm⟩⟩
  simp only [← Recorded.nthAnswer_eq, ← Recorded.historyAfterAll_eq]
  have exhaustive := exists_firstYield_or_spent config (HistorySource.nthAnswer recorded request)
  have halting : ∀ index, Halts config (HistorySource.nthAnswer recorded request) index ↔
      fetchMessages config recorded request = (.error .pauseOverflow,
        HistorySource.afterAll recorded (List.replicate (index + 1) request)) := by
    intro index
    rw [fetchMessages_eq_error_iff]
    constructor
    · exact fun halts => .inr ⟨index, halts, rfl, rfl⟩
    · rintro (⟨last, -, -, same, -⟩ | ⟨other, halts, -, same⟩)
      · cases same
      · rw [Recorded.historyAfterAll_eq, Recorded.historyAfterAll_eq] at same
        cases Nat.succ.inj (Recorded.afterAll_replicate_inj same)
        exact halts
  refine ⟨exhaustive, ⟨fun goesOn => ⟨fun _ _ found => ?_, fun _ spent => ?_⟩,
    fun ⟨yielded, failed⟩ index halts => ?_⟩, halting⟩
  · exact fetchMessages_of_firstYield goesOn found
  · exact fetchMessages_of_spent goesOn spent
  · have ended := (halting index).mp halts
    rcases exhaustive with ⟨before, messages, found⟩ | ⟨cause, spent⟩
    · cases ended.symm.trans (yielded before messages found)
    · cases ended.symm.trans (failed cause spent)

/-- A request that stalls and one that fails cost an attempt each. -/
example :
    let request := HistoryRequest.window 2 1 50
    let recorded : Recorded ScriptedHistory := ⟨{ me := 1, stalls := 1, failures := 1 }, []⟩
    fetchMessages {} recorded request =
      (.ok [], ⟨{ me := 1, requests := .replicate 3 request }, .replicate 3 request⟩) := by
  decide +kernel

/-- Two attempts with the longest duration in between. -/
def patient : SyncConfig where
  retry := { maxAttempts := 2, baseDelay := .longest, maxDelay := .longest }

/-- Of a patient client whose first attempt fails, the second one would yield an empty page.  It is
never made, as the longest duration leaves no room for the random part of the pause. -/
theorem second_attempt_never_made :
    let request := HistoryRequest.window 2 1 50
    let recorded : Recorded ScriptedHistory := ⟨{ me := 1, failures := 1 }, []⟩
    FirstYield patient (HistorySource.nthAnswer recorded.source request) 1 [] ∧
      fetchMessages patient recorded request =
        (.error .pauseOverflow, recorded.afterAll [request]) := by
  refine ⟨⟨by decide, ⟨by decide, [], rfl, rfl⟩, fun index below others => ?_⟩, by decide +kernel⟩
  obtain rfl := Nat.lt_one_iff.mp below
  rintro ⟨-, frames, answered, -⟩
  cases answered

end Backfill

/-! ## Which pauses fit -/

/-- The greatest delay is so far below the longest duration that the random part of any delay can be
added to it. -/
def RetryPolicy.HasRoom (policy : RetryPolicy) : Prop :=
  policy.maxDelay.nanoseconds + UInt64.size / 2 * Duration.nanosPerMilli ≤
    Duration.longest.nanoseconds

instance (policy : RetryPolicy) : Decidable policy.HasRoom :=
  inferInstanceAs (Decidable (_ ≤ _))

theorem RetryPolicy.delay?_ne_none {policy : RetryPolicy} (room : policy.HasRoom)
    (attempt : UInt32) (draw : Nat) : policy.delay? attempt draw ≠ none := by
  have capped := policy.backoff_le_maxDelay attempt
  have jitter : min draw (policy.spread attempt) ≤ UInt64.size / 2 := by
    have millis := Nat.mod_lt (policy.backoff attempt).millis (by decide : 0 < UInt64.size)
    unfold spread
    simp only [UInt64.size] at millis ⊢
    omega
  have representable : (policy.backoff attempt).nanoseconds +
      min draw (policy.spread attempt) * Duration.nanosPerMilli <
        UInt64.size * Duration.nanosPerSecond := by
    calc
      _ ≤ policy.maxDelay.nanoseconds + UInt64.size / 2 * Duration.nanosPerMilli :=
        Nat.add_le_add capped (Nat.mul_le_mul_right _ jitter)
      _ ≤ Duration.longest.nanoseconds := room
      _ < UInt64.size * Duration.nanosPerSecond := Duration.longest.representable
  unfold delay? Duration.ofNanos?
  rw [dif_pos representable]
  exact Option.some_ne_none _

namespace Backfill

variable {config : SyncConfig} {source after : η}

/-- Where there is room, no pause is too long. -/
theorem not_halts_of_room (room : config.retry.HasRoom) (answers : Nat → Answer) (index : Nat) :
    ¬Halts config answers index :=
  fun halts => halts.halts fun _ => RetryPolicy.delay?_ne_none room _ _

theorem nextPage_ne_overflow {cursor : Cursor} (room : config.retry.HasRoom) :
    nextPage config source cursor ≠ (.error .pauseOverflow, after) := by
  intro overflowed
  obtain ⟨-, fetched⟩ := nextPage_eq_error_iff.mp overflowed
  rcases fetchMessages_eq_error_iff.mp fetched with ⟨_, -, -, impossible, -⟩ | ⟨index, halts, -⟩
  · cases impossible
  · exact not_halts_of_room room _ index halts

end Backfill

end Messenger
