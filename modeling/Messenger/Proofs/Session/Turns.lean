import Messenger.Proofs.History.Budget
import Messenger.Proofs.Session.Cycle

/-!
# The turns of a cycle

A cycle is a run of turns.  Each turn takes in one page, and the last one finds the
cursor done, a page that cannot be fetched, a pause that is too long, or a store that
refuses a message.  The
pages of a cycle are those that its cursor gives one after the other.
-/

namespace Messenger

namespace Backfill

variable {η : Type} [HistorySource η] {config : SyncConfig} {source after : η}
  {cursor moved : Cursor}

theorem nextPage_ne_none (active : cursor.done = false) :
    nextPage config source cursor ≠ (.ok none, after) := by
  intro paged
  cases active.symm.trans (nextPage_eq_none_iff.mp paged).1

theorem moved_of_nextPage {page : Page}
    (fetched : nextPage config source cursor = (.ok (some (page, moved)), after)) :
    cursor.done = false ∧ moved = cursor.advance page := by
  obtain ⟨active, _, -, -, advanced⟩ := nextPage_eq_some_iff.mp fetched
  exact ⟨active, advanced⟩

/-- The pages that a cursor gives one after the other. -/
def pagesFrom (config : SyncConfig) (source : η) (cursor : Cursor) : List Page :=
  (allPages config source cursor).1.1

theorem allPages_of_done (fetched : nextPage config source cursor = (.ok none, after)) :
    allPages config source cursor = (([], none), cursor, after) := by
  rw [allPages]
  split <;> simp_all

theorem allPages_of_page {page : Page}
    (fetched : nextPage config source cursor = (.ok (some (page, moved)), after)) :
    allPages config source cursor =
      let rest := allPages config after moved
      ((page :: rest.1.1, rest.1.2), rest.2) := by
  rw [allPages]
  split <;> simp_all

theorem pagesFrom_of_done (fetched : nextPage config source cursor = (.ok none, after)) :
    pagesFrom config source cursor = [] :=
  congrArg (fun ended => ended.1.1) (allPages_of_done fetched)

theorem pagesFrom_of_failed {cause : FetchError}
    (fetched : nextPage config source cursor = (.error cause, after)) :
    pagesFrom config source cursor = [] :=
  congrArg (fun ended => ended.1.1) (allPages_eq_failed_iff.mpr fetched)

theorem pagesFrom_of_page {page : Page}
    (fetched : nextPage config source cursor = (.ok (some (page, moved)), after)) :
    pagesFrom config source cursor = page :: pagesFrom config after moved :=
  congrArg (fun ended => ended.1.1) (allPages_of_page fetched)

end Backfill

namespace Session

variable {σ η : Type} {channel : Channel} {before middle after : Session σ η}

/-! ## What merging leaves -/

/-- What merging messages into a channel leaves as it is, and what it keeps of the state of the
channel. -/
structure Merges (channel : Channel) (before after : Session σ η) : Prop where
  me_eq : after.me = before.me
  config_eq : after.config = before.config
  history_eq : after.history = before.history
  events_eq : after.events = before.events
  synced_eq : (after.tracker.state channel).synced = (before.tracker.state channel).synced
  needs : (before.tracker.state channel).next ≠ caughtUp →
    (after.tracker.state channel).next ≠ caughtUp

namespace Merges

theorem refl (session : Session σ η) : Merges channel session session :=
  ⟨rfl, rfl, rfl, rfl, rfl, id⟩

theorem trans (first : Merges channel before middle) (second : Merges channel middle after) :
    Merges channel before after where
  me_eq := second.me_eq.trans first.me_eq
  config_eq := second.config_eq.trans first.config_eq
  history_eq := second.history_eq.trans first.history_eq
  events_eq := second.events_eq.trans first.events_eq
  synced_eq := second.synced_eq.trans first.synced_eq
  needs needy := second.needs (first.needs needy)

variable [MessageStore σ]

theorem of_merge {message : Message} {inserted : Timeline.Inserted}
    (done : merge channel message before = .ok inserted after) : Merges channel before after := by
  cases numbered : message.seq? with
  | none =>
      cases (merge_of_unnumbered numbered).symm.trans done
      exact ⟨rfl, rfl, rfl, rfl, rfl, id⟩
  | some seq =>
      obtain ⟨-, store, rfl⟩ := of_merge_eq_ok numbered done
      have state : ((before.tracker.arrive channel seq).2).state channel =
          ((before.tracker.state channel).anchor none).arrive seq := by
        rw [Tracker.state_arrive, if_pos rfl]
      refine ⟨rfl, rfl, rfl, rfl, ?_, fun needy => ?_⟩
      · exact (congrArg SyncState.synced state).trans (SyncState.synced_anchor ..)
      · change ((before.tracker.arrive channel seq).2.state channel).next ≠ caughtUp
        rw [state]
        refine SyncState.next_arrive_ne_caughtUp ?_ seq
        rwa [SyncState.next_anchor]

theorem of_mergeAll {messages : List Message} {merged : Nat} {last : Option UInt64}
    {result : Nat × Option UInt64}
    (done : mergeAll channel merged last messages before = .ok result after) :
    Merges channel before after := by
  induction messages generalizing before merged last with
  | nil =>
      cases done
      exact .refl _
  | cons message rest ih =>
      by_cases belongs : message.channel before.me = channel
      · rw [mergeAll_cons belongs] at done
        obtain ⟨inserted, middle, first, others⟩ := of_bind_eq_ok done
        exact (of_merge first).trans (ih others)
      · rw [mergeAll_cons_of_foreign belongs] at done
        exact ih done

theorem of_takePage {page : Page} {count : Nat}
    (done : takePage channel page before = .ok count after) :
    after.me = before.me ∧ after.config = before.config ∧ after.history = before.history := by
  obtain ⟨⟨merged, last⟩, middle, mergedAll, -⟩ := of_bind_eq_ok done
  have merges := of_mergeAll mergedAll
  cases (takePage_of_merged mergedAll).symm.trans done
  refine ⟨?_, ?_, ?_⟩
  · rw [← merges.me_eq]
    unfold closePage
    cases page.complete <;> rfl
  · rw [← merges.config_eq]
    unfold closePage
    cases page.complete <;> rfl
  · rw [← merges.history_eq]
    unfold closePage
    cases page.complete <;> rfl

end Merges

/-! ## Turns -/

variable [MessageStore σ] [HistorySource η]

/-- The turns of a cycle from a cursor on: the pages that it tries to take in, and its result. -/
inductive Turns (channel : Channel) : Cursor → Nat → Session σ η → List Page →
    EStateM.Result SessionError (Session σ η) SyncOutcome → Prop where
  /-- The cursor is done. -/
  | ended {cursor : Cursor} (merged : Nat) {session : Session σ η} {history : η}
      (fetched : Backfill.nextPage session.config.sync session.history cursor =
        (.ok none, history)) :
      Turns channel cursor merged session [] (.ok (.completed merged) { session with history })
  /-- A page cannot be fetched. -/
  | failed {cursor : Cursor} (merged : Nat) {session : Session σ η} {history : η}
      {cause : HistoryError}
      (fetched : Backfill.nextPage session.config.sync session.history cursor =
        (.error (.failed cause), history)) :
      Turns channel cursor merged session []
        (.ok (.failed merged cause.message)
          { session with
            history
            events := session.events ++ [.syncFailed channel cause.message] })
  /-- A pause is too long, and the program ends. -/
  | halted {cursor : Cursor} (merged : Nat) {session : Session σ η} {history : η}
      (fetched : Backfill.nextPage session.config.sync session.history cursor =
        (.error .pauseOverflow, history)) :
      Turns channel cursor merged session []
        (.error (.aborted .pauseOverflow) { session with history })
  /-- The store refuses a message of a page. -/
  | refused {cursor moved : Cursor} (merged : Nat) {session left : Session σ η} {history : η}
      {page : Page} {cause : SessionError}
      (fetched : Backfill.nextPage session.config.sync session.history cursor =
        (.ok (some (page, moved)), history))
      (refused : takePage channel page { session with history } = .error cause left) :
      Turns channel cursor merged session [page] (.error cause left)
  /-- A page is taken in, and the cycle goes on. -/
  | turned {cursor moved : Cursor} {merged count : Nat} {session middle : Session σ η}
      {history : η} {page : Page} {pages : List Page}
      {result : EStateM.Result SessionError (Session σ η) SyncOutcome}
      (fetched : Backfill.nextPage session.config.sync session.history cursor =
        (.ok (some (page, moved)), history))
      (took : takePage channel page { session with history } = .ok count middle)
      (rest : Turns channel moved (merged + count) middle pages result) :
      Turns channel cursor merged session (page :: pages) result

/-- Every cycle is a run of turns. -/
theorem exists_turns (channel : Channel) (cursor : Cursor) (merged : Nat)
    (session : Session σ η) :
    ∃ pages, Turns channel cursor merged session pages
      (catchUpFrom channel cursor merged session) := by
  cases fetched : Backfill.nextPage session.config.sync session.history cursor with
  | mk answer history =>
      cases answer with
      | error cause =>
          cases cause with
          | failed cause =>
              rw [catchUpFrom_of_failed merged fetched]
              exact ⟨[], .failed merged fetched⟩
          | pauseOverflow =>
              rw [catchUpFrom_of_overflow merged fetched]
              exact ⟨[], .halted merged fetched⟩
      | ok found =>
          cases found with
          | none =>
              rw [catchUpFrom_of_done merged fetched]
              exact ⟨[], .ended merged fetched⟩
          | some given =>
              obtain ⟨page, moved⟩ := given
              rw [catchUpFrom_of_page merged fetched]
              cases took : takePage channel page { session with history } with
              | error cause left =>
                  rw [bind_of_error took]
                  exact ⟨[page], .refused merged fetched took⟩
              | ok count middle =>
                  rw [bind_of_ok took]
                  obtain ⟨pages, rest⟩ := exists_turns channel moved (merged + count) middle
                  exact ⟨page :: pages, .turned fetched took rest⟩
termination_by cursor.distance
decreasing_by exact Backfill.distance_lt_of_nextPage fetched

/-- Once the cursor is done, the cycle ends with what it has. -/
theorem Turns.of_done {cursor : Cursor} {merged : Nat} {session : Session σ η} {pages : List Page}
    {result : EStateM.Result SessionError (Session σ η) SyncOutcome} (done : cursor.done = true)
    (turns : Turns channel cursor merged session pages result) :
    pages = [] ∧ result = .ok (.completed merged) session := by
  have fetched : Backfill.nextPage session.config.sync session.history cursor =
      (.ok none, session.history) := Backfill.nextPage_of_done done
  cases turns with
  | ended _ ends =>
      cases fetched.symm.trans ends
      exact ⟨rfl, rfl⟩
  | failed _ fails => cases fetched.symm.trans fails
  | halted _ fails => cases fetched.symm.trans fails
  | refused _ gives => cases fetched.symm.trans gives
  | turned gives => cases fetched.symm.trans gives

/-- The turns take the pages that the cursor gives, up to one that the store refuses. -/
theorem Turns.pages_isPrefix {cursor : Cursor} {merged : Nat} {session : Session σ η}
    {pages : List Page} {result : EStateM.Result SessionError (Session σ η) SyncOutcome}
    (turns : Turns channel cursor merged session pages result) :
    pages <+: Backfill.pagesFrom session.config.sync session.history cursor := by
  induction turns with
  | ended merged fetched => exact List.nil_prefix
  | failed merged fetched => exact List.nil_prefix
  | halted merged fetched => exact List.nil_prefix
  | refused merged fetched refused =>
      rw [Backfill.pagesFrom_of_page fetched]
      exact List.cons_prefix_cons.mpr ⟨rfl, List.nil_prefix⟩
  | turned fetched took rest ih =>
      obtain ⟨-, config, history⟩ := Merges.of_takePage took
      rw [Backfill.pagesFrom_of_page fetched]
      rw [config, history] at ih
      exact List.cons_prefix_cons.mpr ⟨rfl, ih⟩

/-- Unless the store refuses a message, a cycle takes in all pages that its cursor gives, and leaves
the source where the cursor leaves it: it answers, or a pause is too long. -/
theorem Turns.eq_of_ended {cursor : Cursor} {merged : Nat} {session after : Session σ η}
    {pages : List Page} {result : EStateM.Result SessionError (Session σ η) SyncOutcome}
    (turns : Turns channel cursor merged session pages result)
    (ended : (∃ outcome, result = .ok outcome after) ∨
      result = .error (.aborted .pauseOverflow) after) :
    pages = Backfill.pagesFrom session.config.sync session.history cursor ∧
      after.history = (Backfill.allPages session.config.sync session.history cursor).2.2 := by
  induction turns with
  | ended merged fetched =>
      rw [Backfill.pagesFrom_of_done fetched, Backfill.allPages_of_done fetched]
      rcases ended with ⟨_, ⟨⟩⟩ | ⟨⟨⟩⟩
      exact ⟨rfl, rfl⟩
  | failed merged fetched =>
      rw [Backfill.pagesFrom_of_failed fetched, Backfill.allPages_eq_failed_iff.mpr fetched]
      rcases ended with ⟨_, ⟨⟩⟩ | ⟨⟨⟩⟩
      exact ⟨rfl, rfl⟩
  | halted merged fetched =>
      rw [Backfill.pagesFrom_of_failed fetched, Backfill.allPages_eq_failed_iff.mpr fetched]
      rcases ended with ⟨_, ⟨⟩⟩ | ⟨⟨⟩⟩
      exact ⟨rfl, rfl⟩
  | refused merged fetched refused =>
      obtain ⟨fault, rfl⟩ := exists_fault_of_takePage refused
      rcases ended with ⟨_, done⟩ | done
      · cases done
      · cases done
  | turned fetched took rest ih =>
      obtain ⟨-, config, history⟩ := Merges.of_takePage took
      obtain ⟨pages, left⟩ := ih ended
      rw [config, history] at pages left
      rw [Backfill.pagesFrom_of_page fetched, Backfill.allPages_of_page fetched]
      exact ⟨congrArg _ pages, left⟩

end Session

end Messenger
