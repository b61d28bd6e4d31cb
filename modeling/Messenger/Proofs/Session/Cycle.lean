import Messenger.Proofs.Channel.Names
import Messenger.Proofs.History.Windows
import Messenger.Proofs.Session.Pages

/-!
# The cycle of a channel over a scripted history

A cycle that runs to its end has taken in what its cursor fetches from the log: the
messages of every window before the first empty one.
-/

namespace Messenger

namespace Session

variable {σ η : Type}

/-! ## One turn of the cycle -/

section Turn

variable [MessageStore σ] [HistorySource η] {channel : Channel} {cursor moved : Cursor}
  {session : Session σ η} {history : η} {page : Page}

/-- A cycle goes on with every page that is fetched, and ends otherwise. -/
theorem catchUpFrom_eq (merged : Nat) :
    catchUpFrom channel cursor merged session =
      match Backfill.nextPage session.config.sync session.history cursor with
      | (.error (.failed cause), history) =>
          .ok (.failed merged cause.message)
            { session with
              history
              events := session.events ++ [.syncFailed channel cause.message] }
      | (.error .pauseOverflow, history) =>
          .error (.aborted .pauseOverflow) { session with history }
      | (.ok none, history) => .ok (.completed merged) { session with history }
      | (.ok (some (page, moved)), history) =>
          (do
            let count ← takePage channel page
            catchUpFrom channel moved (merged + count) : SessionM σ η SyncOutcome)
            { session with history } := by
  have read : (get : SessionM σ η (Session σ η)) session = .ok session session := rfl
  rw [catchUpFrom, bind_of_ok read]
  change EStateM.run _ session = _
  split
  · next fetched =>
      rw [fetched]
      rfl
  · next fetched =>
      rw [fetched]
      rfl
  · next fetched =>
      rw [fetched]
      rfl
  · next fetched =>
      rw [fetched]
      rfl

theorem catchUpFrom_of_done (merged : Nat)
    (fetched : Backfill.nextPage session.config.sync session.history cursor =
      (.ok none, history)) :
    catchUpFrom channel cursor merged session =
      .ok (.completed merged) { session with history } := by
  rw [catchUpFrom_eq, fetched]

theorem catchUpFrom_of_failed {cause : HistoryError} (merged : Nat)
    (fetched : Backfill.nextPage session.config.sync session.history cursor =
      (.error (.failed cause), history)) :
    catchUpFrom channel cursor merged session =
      .ok (.failed merged cause.message)
        { session with
          history
          events := session.events ++ [.syncFailed channel cause.message] } := by
  rw [catchUpFrom_eq, fetched]

theorem catchUpFrom_of_overflow (merged : Nat)
    (fetched : Backfill.nextPage session.config.sync session.history cursor =
      (.error .pauseOverflow, history)) :
    catchUpFrom channel cursor merged session =
      .error (.aborted .pauseOverflow) { session with history } := by
  rw [catchUpFrom_eq, fetched]

/-- A page that is not fetched keeps the cycle from its end. -/
theorem catchUpFrom_ne_completed {cause : FetchError} {merged total : Nat} {left : Session σ η}
    (fetched : Backfill.nextPage session.config.sync session.history cursor =
      (.error cause, history)) :
    catchUpFrom channel cursor merged session ≠ .ok (.completed total) left := by
  cases cause with
  | failed cause =>
      rw [catchUpFrom_of_failed merged fetched]
      nofun
  | pauseOverflow =>
      rw [catchUpFrom_of_overflow merged fetched]
      nofun

theorem catchUpFrom_of_page (merged : Nat)
    (fetched : Backfill.nextPage session.config.sync session.history cursor =
      (.ok (some (page, moved)), history)) :
    catchUpFrom channel cursor merged session =
      (do
        let count ← takePage channel page
        catchUpFrom channel moved (merged + count) : SessionM σ η SyncOutcome)
        { session with history } := by
  rw [catchUpFrom_eq, fetched]

/-- The session once a cycle of a channel was issued. -/
def issuing (session : Session σ η) (channel : Channel) : Session σ η :=
  { session with tracker := (session.tracker.issue channel).2 }

theorem catchUp_of_none (issued : (session.tracker.issue channel).1 = none) :
    catchUp channel session = .ok .skipped (session.issuing channel) := by
  have read : (get : SessionM σ η (Session σ η)) session = .ok session session := rfl
  have both : session.tracker.issue channel = (none, (session.tracker.issue channel).2) :=
    Prod.ext issued rfl
  unfold catchUp issuing
  rw [bind_of_ok read, both]
  rfl

theorem catchUp_of_plan {plan : SyncPlan}
    (issued : (session.tracker.issue channel).1 = some plan) :
    catchUp channel session =
      catchUpFrom channel (plan.cursor (channel.other session.me)) 0
        (session.issuing channel) := by
  have read : (get : SessionM σ η (Session σ η)) session = .ok session session := rfl
  have both : session.tracker.issue channel = (some plan, (session.tracker.issue channel).2) :=
    Prod.ext issued rfl
  unfold catchUp issuing
  rw [bind_of_ok read, both]
  rfl

end Turn

/-! ## The whole cycle -/

section Served

variable {channel : Channel} {log : List Message}

/-- A session has a quiet history of a channel with a peer at hand, and no entry of the channel is
pending. -/
structure Served (session : Session σ ScriptedHistory) (channel : Channel) (peer : AccountId)
    (log : List Message) : Prop where
  account : session.history.me = session.me
  parties : Channel.between session.me peer = channel
  serves : session.history.Serves channel log
  settled : (session.timeline channel).pending = []

variable {session middle after : Session σ ScriptedHistory} {cursor : Cursor}

/-- What a page of the cursor holds can be merged into the channel. -/
theorem Served.of_mem_page (served : session.Served channel cursor.peer log) {sentinel : Bool}
    (nextPos : 0 < cursor.next) {message : Message}
    (onPage : message ∈
      (Backfill.page sentinel log cursor.next.toNat cursor.pageSize.toNat).messages) :
    message.header.seq ≠ 0 ∧ message.channel session.me = channel := by
  refine ⟨Backfill.seq_ne_zero_of_mem_window (UInt64.lt_iff_toNat_lt.mp nextPos) onPage, ?_⟩
  rw [← served.account]
  exact served.serves.belongs message (Backfill.mem_window.mp onPage).1

theorem Served.bounded (served : session.Served channel cursor.peer log) :
    ∀ message ∈ log, message.header.seq ≤ highestSeq := by
  intro message logged
  rw [UInt64.le_iff_toNat_le, toNat_highestSeq]
  exact Nat.le_of_lt_succ (served.serves.wellFormed message logged).seq_lt

theorem Served.serves_between (served : session.Served channel cursor.peer log) :
    session.history.Serves (.between session.history.me cursor.peer) log := by
  rw [served.account, served.parties]
  exact served.serves

theorem Served.issuing {peer : AccountId} (served : session.Served channel peer log)
    (plan : SyncPlan) : (session.issuing channel).Served channel (plan.cursor peer).peer log :=
  ⟨served.account, served.parties, served.serves, served.settled⟩

/-- The page that a session fetches for a cursor. -/
def pageFor (session : Session σ ScriptedHistory) (log : List Message) (cursor : Cursor) : Page :=
  Backfill.page session.history.sentinel log cursor.next.toNat cursor.pageSize.toNat

/-- The session once the window of a cursor was asked for. -/
def asking (session : Session σ ScriptedHistory) (cursor : Cursor) : Session σ ScriptedHistory :=
  { session with
    history := session.history.asked (.window cursor.peer cursor.next cursor.pageSize) }

variable [MessageStore σ]

/-- A cycle that is issued asks the peer of the channel. -/
theorem Served.catchUp_eq {peer : AccountId} (served : session.Served channel peer log)
    {plan : SyncPlan} (issued : (session.tracker.issue channel).1 = some plan) :
    catchUp channel session =
      catchUpFrom channel (plan.cursor peer) 0 (session.issuing channel) := by
  have peerEq : channel.other session.me = peer := by
    rw [← served.parties, Channel.other_between]
  rw [catchUp_of_plan issued, peerEq]

/-- A turn of the cycle takes in the page of its cursor, unless the end sentinel cannot be
written. -/
theorem Served.turn (served : session.Served channel cursor.peer log)
    (active : cursor.done = false) (nextPos : 0 < cursor.next) (merged : Nat) :
    catchUpFrom channel cursor merged session =
        (do
          let count ← takePage channel (session.pageFor log cursor)
          catchUpFrom channel (cursor.advance (session.pageFor log cursor)) (merged + count) :
            SessionM σ ScriptedHistory SyncOutcome) (session.asking cursor) ∨
      (∃ cause, (Message.historyEnd cursor.peer session.history.me 0).bind Message.encode =
          .error cause) ∧
        ∀ total left, catchUpFrom channel cursor merged session ≠ .ok (.completed total) left := by
  rcases served.serves_between.nextPage_cases session.config.sync active nextPos with
    fetched | ⟨unwritable, cause, history, failed⟩
  · exact .inl (catchUpFrom_of_page merged fetched)
  · exact .inr ⟨unwritable, fun _ _ => catchUpFrom_ne_completed failed⟩

/-- What a session knows once it has taken in the page of a cursor. -/
theorem Served.takesIn_page (served : session.Served channel cursor.peer log)
    (nextPos : 0 < cursor.next) {count : Nat}
    (took : takePage channel (session.pageFor log cursor) (session.asking cursor) =
      .ok count middle) :
    TakesIn channel (· ∈ (session.pageFor log cursor).messages) session middle ∧
      middle.history = (session.asking cursor).history ∧
      middle.events = session.events ++
        (if (session.pageFor log cursor).complete then [.syncCompleted channel] else []) ∧
      ((session.pageFor log cursor).complete = true →
        (middle.tracker.state channel).next = caughtUp) := by
  have settled : ((session.asking cursor).timeline channel).pending = [] := served.settled
  obtain ⟨taken, rest⟩ := takesIn_of_takePage settled
    (fun _ onPage => (served.of_mem_page nextPos onPage).1)
    (fun _ onPage => (served.of_mem_page nextPos onPage).2) took
  exact ⟨taken.of_before rfl rfl rfl, rest⟩

omit [MessageStore σ] in
/-- A session that has taken in a page is still served. -/
theorem Served.taken {taken : Message → Prop} (served : session.Served channel cursor.peer log)
    (took : TakesIn channel taken session middle)
    (history : middle.history = (session.asking cursor).history) (page : Page) :
    middle.Served channel (cursor.advance page).peer log where
  account := by
    rw [history, took.me_eq]
    exact served.account
  parties := by
    rw [took.me_eq, Cursor.peer_advance]
    exact served.parties
  serves := by
    rw [history]
    exact served.serves.asked _
  settled := took.settled

/-- A cycle that runs to its end has taken in what its cursor fetches. -/
theorem takesIn_of_catchUpFrom {session after : Session σ ScriptedHistory} {cursor : Cursor}
    {merged total : Nat} (served : session.Served channel cursor.peer log)
    (nextPos : 0 < cursor.next)
    (completed : catchUpFrom channel cursor merged session = .ok (.completed total) after) :
    TakesIn channel (cursor.Fetches log) session after := by
  cases active : cursor.done with
  | true =>
      rw [catchUpFrom_of_done merged (Backfill.nextPage_of_done active)] at completed
      cases completed
      refine (TakesIn.of_same rfl rfl rfl served.settled).congr fun message => ?_
      simp [Cursor.Fetches, active]
  | false =>
      rcases served.turn active nextPos merged with turn | ⟨-, unfinished⟩
      · rw [turn] at completed
        obtain ⟨count, middle, took, rest⟩ := of_bind_eq_ok completed
        obtain ⟨taken, history, -⟩ := served.takesIn_page nextPos took
        have takenRest := takesIn_of_catchUpFrom (served.taken taken history _)
          (Cursor.next_advance_pos nextPos _) rest
        refine (taken.trans takenRest).congr fun message => ?_
        exact (Cursor.fetches_iff active _ served.bounded).symm
      · exact (unfinished total after completed).elim
termination_by cursor.distance
decreasing_by exact Cursor.distance_advance_lt (Cursor.request?_of_active active) _

end Served

end Session

end Messenger
