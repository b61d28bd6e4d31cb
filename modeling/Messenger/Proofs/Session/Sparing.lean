import Messenger.Proofs.Session.Requests
import Messenger.Proofs.Session.Turns

/-!
# Backfill spares other channels

Catching up with a channel and loading its older messages leave all other channels
as they are, whatever the source of history answers.  If it answers only with messages
of other channels and no page is complete, the number that the channel needs next stays
what it is.
-/

namespace Messenger

namespace MemoryStore

variable {store after : MemoryStore} {channel : Channel} {message : Message}
  {outcome : SaveOutcome}

theorem shelf_of_save_of_ne (saved : store.save channel message = .ok (outcome, after))
    {other : Channel} (different : other ≠ channel) : after.shelf other = store.shelf other := by
  rcases of_save_eq_ok saved with ⟨-, rfl⟩ | ⟨placed, -, rfl⟩
  · rfl
  · exact (shelf_insert ..).trans (if_neg different)

theorem values_of_save (saved : store.save channel message = .ok (outcome, after)) :
    after.values = store.values := by
  rcases of_save_eq_ok saved with ⟨-, rfl⟩ | ⟨placed, -, rfl⟩ <;> rfl

end MemoryStore

namespace Session

variable {η : Type} {channel : Channel}

/-! ## The other channels -/

/-- What is known of every channel but one is the same, and nothing else has changed but the source
of history and the events. -/
structure Spares (channel : Channel) (before after : Session MemoryStore η) : Prop where
  me_eq : after.me = before.me
  config_eq : after.config = before.config
  timelines : ∀ other, other ≠ channel →
    after.timelines.find? other = before.timelines.find? other
  states : ∀ other, other ≠ channel → after.tracker.state? other = before.tracker.state? other
  shelves : ∀ other, other ≠ channel → after.store.shelf other = before.store.shelf other
  values_eq : after.store.values = before.store.values
  conversations_eq : after.conversations = before.conversations
  outbox_eq : after.outbox = before.outbox
  active_eq : after.active = before.active
  auth_eq : after.auth = before.auth

namespace Spares

variable {before middle after : Session MemoryStore η}

theorem refl (session : Session MemoryStore η) : Spares channel session session :=
  ⟨rfl, rfl, fun _ _ => rfl, fun _ _ => rfl, fun _ _ => rfl, rfl, rfl, rfl, rfl, rfl⟩

theorem trans (first : Spares channel before middle) (second : Spares channel middle after) :
    Spares channel before after where
  me_eq := second.me_eq.trans first.me_eq
  config_eq := second.config_eq.trans first.config_eq
  timelines other different :=
    (second.timelines other different).trans (first.timelines other different)
  states other different := (second.states other different).trans (first.states other different)
  shelves other different :=
    (second.shelves other different).trans (first.shelves other different)
  values_eq := second.values_eq.trans first.values_eq
  conversations_eq := second.conversations_eq.trans first.conversations_eq
  outbox_eq := second.outbox_eq.trans first.outbox_eq
  active_eq := second.active_eq.trans first.active_eq
  auth_eq := second.auth_eq.trans first.auth_eq

/-- A new timeline of the channel. -/
theorem setTimeline (session : Session MemoryStore η) (timeline : Timeline) :
    Spares channel session (session.setTimeline channel timeline) :=
  { refl session with
    timelines := fun _ different => Assoc.find?_insert_of_ne _ _ different }

/-- A new state of the channel. -/
theorem setState (session : Session MemoryStore η) (state : SyncState) :
    Spares channel session { session with tracker := session.tracker.setState channel state } :=
  { refl session with
    states := fun _ different => (Tracker.state?_setState ..).trans (if_neg different) }

/-- A message of the channel was saved. -/
theorem save {session : Session MemoryStore η} {message : Message} {outcome : SaveOutcome}
    {store : MemoryStore}
    (saved : MessageStore.save session.store channel message = .ok (outcome, store)) :
    Spares channel session { session with store } :=
  { refl session with
    shelves := fun _ different => MemoryStore.shelf_of_save_of_ne saved different
    values_eq := MemoryStore.values_of_save saved }

theorem of_issue (session : Session MemoryStore η) :
    Spares channel session { session with tracker := (session.tracker.issue channel).2 } :=
  Tracker.issue_eq_setState session.tracker channel ▸ setState session _

/-- Every change that a cycle can make. -/
theorem of_syncChange (change : SyncChange channel before after) :
    Spares channel before after := by
  cases change with
  | asked history => exact { refl before with }
  | told event => exact { refl before with }
  | issued => exact of_issue before
  | advanced last =>
      unfold Tracker.advance
      split
      · exact .refl before
      · exact setState before _
  | finished => exact setState before _
  | placed belongs unnumbered => exact setTimeline before _
  | repeated belongs numbered duplicate =>
      exact (setTimeline before _).trans (setState (before.setTimeline channel _) _)
  | merged belongs numbered new saved =>
      exact ((save saved).trans (setTimeline _ _)).trans (setState _ _)
  | unsaved belongs numbered new refused => exact setTimeline before _

theorem of_browseChange (change : BrowseChange channel before after) :
    Spares channel before after := by
  cases change with
  | sync change => exact of_syncChange change
  | loaded found => exact setTimeline before _

/-- Every run of such changes. -/
theorem of_run {Changed : Session MemoryStore η → Session MemoryStore η → Prop}
    (spares : ∀ before after, Changed before after → Spares channel before after)
    (run : Relation.ReflTransGen Changed before after) : Spares channel before after :=
  preserved_run (P := Spares channel before)
    (fun _ _ change spared => spared.trans (spares _ _ change)) run (.refl before)

end Spares

/-! ## Foreign pages -/

end Session

/-- No message of a page belongs to a channel. -/
def Page.Foreign (page : Page) (channel : Channel) (me : AccountId) : Prop :=
  ∀ message ∈ page.messages, message.channel me ≠ channel

namespace Backfill

variable {η : Type} [HistorySource η]

/-- The pages that answer requests one after the other, up to the first request that fails. -/
def answerPages (config : SyncConfig) (source : η) : List HistoryRequest → List Page
  | [] => []
  | request :: rest =>
      match fetchMessages config source request with
      | (.ok messages, after) => Page.ofMessages messages :: answerPages config after rest
      | (.error _, _) => []

end Backfill

namespace Session

section Foreign

variable {σ η : Type} [MessageStore σ] {channel : Channel}

/-- Messages of other channels are passed over. -/
theorem mergeAll_of_foreign {messages : List Message} (session : Session σ η)
    (foreign : ∀ message ∈ messages, message.channel session.me ≠ channel) (merged : Nat)
    (last : Option UInt64) :
    mergeAll channel merged last messages session = .ok (merged, last) session := by
  induction messages with
  | nil => rfl
  | cons message rest ih =>
      obtain ⟨first, others⟩ := List.forall_mem_cons.mp foreign
      rw [mergeAll_cons_of_foreign first]
      exact ih others

theorem takePage_of_foreign {page : Page} (session : Session σ η)
    (incomplete : page.complete = false) (foreign : page.Foreign channel session.me) :
    takePage channel page session = .ok 0 session := by
  rw [takePage_of_merged (mergeAll_of_foreign session foreign 0 none), incomplete]
  rfl

variable [HistorySource η]

/-- A cycle that fetches only incomplete pages of foreign messages changes nothing but the source of
history and the events, and it answers unless a pause is too long. -/
theorem Turns.of_foreign {cursor : Cursor} {merged : Nat} {session : Session σ η}
    {pages : List Page} {result : EStateM.Result SessionError (Session σ η) SyncOutcome}
    (turns : Turns channel cursor merged session pages result)
    (foreign : ∀ page ∈ pages, page.complete = false ∧ page.Foreign channel session.me) :
    ∃ history events, (∃ outcome, result = .ok outcome { session with history, events }) ∨
      result = .error (.aborted .pauseOverflow) { session with history, events } := by
  induction turns with
  | ended merged fetched => exact ⟨_, _, .inl ⟨_, rfl⟩⟩
  | failed merged fetched => exact ⟨_, _, .inl ⟨_, rfl⟩⟩
  | @halted cursor merged session history fetched => exact ⟨history, session.events, .inr rfl⟩
  | @refused cursor moved merged session left history page cause fetched refused =>
      obtain ⟨incomplete, others⟩ := foreign page List.mem_cons_self
      have took := takePage_of_foreign { session with history } incomplete others
      cases took.symm.trans refused
  | @turned cursor moved merged count session middle history page pages result fetched took
      rest ih =>
      obtain ⟨⟨incomplete, others⟩, behind⟩ := List.forall_mem_cons.mp foreign
      have same := takePage_of_foreign { session with history } incomplete others
      cases same.symm.trans took
      exact ih behind

/-! ## Older messages -/

/-- The numbers from `low` to `high` of a channel, as its peer is asked for them. -/
def pieceRequest (session : Session σ η) (channel : Channel) (piece : UInt64 × UInt64) :
    HistoryRequest where
  peer := channel.other session.me
  low := piece.1
  high := piece.2

/-- A piece that is fetched is merged, and one that is not ends the request. -/
theorem fetchPiece_eq (channel : Channel) (added : Nat) (piece : UInt64 × UInt64)
    (session : Session σ η) :
    fetchPiece channel added piece.1 piece.2 session =
      match Backfill.fetchMessages session.config.sync session.history
          (session.pieceRequest channel piece) with
      | (.error cause, history) => .error (.ofFetch cause) { session with history }
      | (.ok messages, history) =>
          (do
            let (count, _) ← mergePage channel (Page.ofMessages messages)
            return added + count : SessionM σ η Nat) { session with history } := by
  have read : (get : SessionM σ η (Session σ η)) session = .ok session session := rfl
  unfold fetchPiece
  rw [bind_of_ok read]
  change EStateM.run _ session = _
  dsimp only [pieceRequest]
  generalize Backfill.fetchMessages session.config.sync session.history
    ⟨channel.other session.me, piece.1, piece.2⟩ = fetched
  obtain ⟨answer, history⟩ := fetched
  cases answer <;> rfl

/-- Runs are fetched as all the pieces that make them up. -/
theorem foldlM_fetchRun (channel : Channel) (size : UInt64) (added : Nat)
    (gaps : List (UInt64 × UInt64)) :
    (gaps.foldlM (fun added gap => fetchRun channel size added gap.1 gap.2) added :
        SessionM σ η Nat) =
      (gaps.flatMap fun gap => pieces size gap.1 gap.2).foldlM
        (fun added piece => fetchPiece channel added piece.1 piece.2) added := by
  induction gaps generalizing added with
  | nil => rfl
  | cons gap rest ih =>
      rw [List.foldlM_cons, List.flatMap_cons, List.foldlM_append, fetchRun_eq_foldlM]
      exact congrArg _ (funext ih)

/-- Pieces that are answered with foreign messages change nothing but the source of history. -/
theorem leaves_fetchPieces_of_foreign {pieces : List (UInt64 × UInt64)} (session : Session σ η)
    (added : Nat)
    (foreign : ∀ page ∈ Backfill.answerPages session.config.sync session.history
      (pieces.map (session.pieceRequest channel)), page.Foreign channel session.me) :
    ∃ history, leaves (pieces.foldlM
      (fun added piece => fetchPiece channel added piece.1 piece.2) added) session =
        { session with history } := by
  induction pieces generalizing session added with
  | nil => exact ⟨session.history, rfl⟩
  | cons piece rest ih =>
      have first := fetchPiece_eq channel added piece session
      rw [List.map_cons, Backfill.answerPages] at foreign
      rw [List.foldlM_cons]
      split at first
      · next cause history fetched => exact ⟨history, leaves_of_error (bind_of_error first _)⟩
      · next messages history fetched =>
          rw [fetched] at foreign
          obtain ⟨others, behind⟩ := List.forall_mem_cons.mp foreign
          have merged : mergePage channel (Page.ofMessages messages) { session with history } = _ :=
            mergeAll_of_foreign { session with history } others 0 none
          rw [bind_of_ok merged] at first
          rw [leaves_bind_of_ok first]
          exact ih { session with history } _ behind

end Foreign

variable {η : Type} [HistorySource η] {channel : Channel}

/-- The requests for the runs below the oldest message of a channel that the store lacks. -/
def olderRequests (session : Session MemoryStore η) (channel : Channel) : List HistoryRequest :=
  match (session.timelines.find? channel).bind Timeline.oldest? with
  | none => []
  | some oldest =>
      if oldest ≤ 1 then []
      else
        let high := oldest - 1
        let low := max (Word.subSat oldest session.config.window) 1
        let cached := session.store.range channel low high
        let timeline := (mergeCached (session.timeline channel) cached).2
        ((timeline.gaps low high).flatMap fun gap =>
          pieces session.config.sync.pageSize gap.1 gap.2).map (session.pieceRequest channel)

/-- Below an oldest number from two on, the stored messages of the window are merged first, and then
the pieces of the gaps that these leave are fetched. -/
theorem loadOlder_of_oldest {session : Session MemoryStore η} {oldest : UInt64}
    (lowest : (session.timelines.find? channel).bind Timeline.oldest? = some oldest)
    (above : ¬oldest ≤ 1) :
    let high := oldest - 1
    let low := max (Word.subSat oldest session.config.window) 1
    let filled := mergeCached (session.timeline channel) (session.store.range channel low high)
    loadOlder channel session =
      (((filled.2.gaps low high).flatMap fun gap =>
        pieces session.config.sync.pageSize gap.1 gap.2).foldlM
          (fun added piece => fetchPiece channel added piece.1 piece.2) filled.1 :
            SessionM MemoryStore η Nat)
        (session.setTimeline channel filled.2) := by
  intro high low filled
  have read : (get : SessionM MemoryStore η _) session = .ok session session := rfl
  have found : query (fun store => MessageStore.range store channel low high) session =
      .ok (session.store.range channel low high) session := rfl
  unfold loadOlder
  rw [bind_of_ok read, lowest]
  dsimp only
  rw [if_neg above, bind_of_ok found, ← foldlM_fetchRun]
  rfl

/-- Loading older messages does not tell the tracker of a channel anything if its requests are
answered with foreign messages. -/
theorem tracker_loadOlder_of_foreign {session : Session MemoryStore η}
    (foreign : ∀ page ∈ Backfill.answerPages session.config.sync session.history
      (session.olderRequests channel), page.Foreign channel session.me) :
    (leaves (loadOlder channel) session).tracker = session.tracker := by
  have read : (get : SessionM MemoryStore η _) session = .ok session session := rfl
  unfold olderRequests at foreign
  cases lowest : (session.timelines.find? channel).bind Timeline.oldest? with
  | none =>
      unfold loadOlder
      rw [leaves_bind_of_ok read, lowest]
      rfl
  | some oldest =>
      rw [lowest] at foreign
      dsimp only at foreign
      by_cases above : oldest ≤ 1
      · unfold loadOlder
        rw [leaves_bind_of_ok read, lowest]
        dsimp only
        rw [if_pos above]
        rfl
      · rw [if_neg above] at foreign
        obtain ⟨history, left⟩ := leaves_fetchPieces_of_foreign
          (session.setTimeline channel _) _ foreign
        unfold leaves at left ⊢
        rw [loadOlder_of_oldest lowest above, left]
        rfl

/-- Catching up does not move the number that a channel needs next if the cycle fetches only
incomplete pages of foreign messages. -/
theorem next_catchUp_of_foreign {session : Session MemoryStore η} {state : SyncState}
    (tracked : session.tracker.state? channel = some state)
    (foreign : ∀ plan, (session.tracker.issue channel).1 = some plan →
      ∀ page ∈ Backfill.pagesFrom session.config.sync session.history
        (plan.cursor (channel.other session.me)),
        page.complete = false ∧ page.Foreign channel session.me) :
    ((leaves (catchUp channel) session).tracker.state? channel).map SyncState.next =
      some state.next := by
  have issued : ((session.issuing channel).tracker.state? channel).map SyncState.next =
      some state.next := by
    change ((session.tracker.issue channel).2.state? channel).map SyncState.next = some state.next
    rw [Tracker.state?_issue, if_pos rfl, Tracker.state_of_tracked tracked]
    exact congrArg some (SyncState.next_anchor state none)
  cases plans : (session.tracker.issue channel).1 with
  | none => rwa [leaves_of_ok (catchUp_of_none plans)]
  | some plan =>
      obtain ⟨pages, turns⟩ := exists_turns channel (plan.cursor (channel.other session.me)) 0
        (session.issuing channel)
      have started := catchUp_of_plan plans
      obtain ⟨history, events, ⟨outcome, answered⟩ | aborted⟩ := turns.of_foreign
        fun page member => foreign plan plans page (turns.pages_isPrefix.subset member)
      · rwa [leaves_of_ok (started.trans answered)]
      · rwa [leaves_of_error (started.trans aborted)]

/-- Whatever the source of history answers, catching up with a channel and loading its older messages
spare all other channels, the conversation list, the outbox, the active channel and the
authentication.  If all that is fetched is foreign, and no page of the cycle is complete, a tracked
channel needs afterwards what it needed before. -/
theorem backfill_spares (session : Session MemoryStore η) (channel : Channel) :
    let caught := leaves (catchUp channel) session
    let loaded := leaves (loadOlder channel) session
    Spares channel session caught ∧ Spares channel session loaded ∧
      ∀ state, session.tracker.state? channel = some state →
        ((∀ plan, (session.tracker.issue channel).1 = some plan →
            ∀ page ∈ Backfill.pagesFrom session.config.sync session.history
              (plan.cursor (channel.other session.me)),
              page.complete = false ∧ page.Foreign channel session.me) →
          (caught.tracker.state? channel).map SyncState.next = some state.next) ∧
        ((∀ page ∈ Backfill.answerPages session.config.sync session.history
            (session.olderRequests channel), page.Foreign channel session.me) →
          (loaded.tracker.state? channel).map SyncState.next = some state.next) := by
  refine ⟨?_, ?_, fun state tracked => ⟨next_catchUp_of_foreign tracked, fun foreign => ?_⟩⟩
  · exact .of_run (fun _ _ => .of_syncChange) (follows_catchUp channel session)
  · exact .of_run (fun _ _ => .of_browseChange) (follows_loadOlder_within session channel)
  · rw [tracker_loadOlder_of_foreign foreign, tracked]
    rfl

/-! ## A text of a third account -/

/-- A history of account 1 that has, in the channel with account 2, a text of account 3. -/
def strayHistory : ScriptedHistory where
  me := 1
  logs := ⟨[(⟨1, 2⟩, [(5, (Message.bareText 3 1 5 1005).spelling)])]⟩

/-- A session that has only the number 7 of the channel, and asks for all numbers at once. -/
def onlySeven : Session MemoryStore ScriptedHistory :=
  let fresh := start 1 ⟨8, 8, { pageSize := highestSeq }⟩ MemoryStore.empty strayHistory
  leaves disconnect (leaves (receive (Message.bareText 2 1 7 1007).spelling) fresh)

/-- The text is fetched by both requests, and the channel still needs its first number. -/
theorem stray_text_passed_over :
    (∀ plan, (onlySeven.tracker.issue ⟨1, 2⟩).1 = some plan →
      Backfill.pagesFrom onlySeven.config.sync onlySeven.history (plan.cursor 2) =
        [⟨[.bareText 3 1 5 1005], false⟩]) ∧
      Backfill.answerPages onlySeven.config.sync onlySeven.history
        (onlySeven.olderRequests ⟨1, 2⟩) = [⟨[.bareText 3 1 5 1005], false⟩] ∧
      ((leaves (catchUp ⟨1, 2⟩) onlySeven).tracker.state? ⟨1, 2⟩).map SyncState.next = some 1 ∧
      ((leaves (loadOlder ⟨1, 2⟩) onlySeven).tracker.state? ⟨1, 2⟩).map SyncState.next =
        some 1 := by
  have tracked : onlySeven.tracker.state? ⟨1, 2⟩ = some ⟨1, some 7, false⟩ := by decide +kernel
  have issued : (onlySeven.tracker.issue ⟨1, 2⟩).1 = some ⟨⟨1, 2⟩, 1, 7, highestSeq⟩ := by
    decide +kernel
  have fetched : Backfill.pagesFrom onlySeven.config.sync onlySeven.history
      (SyncPlan.cursor ⟨⟨1, 2⟩, 1, 7, highestSeq⟩ 2) = [⟨[.bareText 3 1 5 1005], false⟩] := by
    decide +kernel
  have answered : Backfill.answerPages onlySeven.config.sync onlySeven.history
      (onlySeven.olderRequests ⟨1, 2⟩) = [⟨[.bareText 3 1 5 1005], false⟩] := by decide +kernel
  have peer : Channel.other ⟨1, 2⟩ onlySeven.me = 2 := by decide +kernel
  have foreign : Page.Foreign ⟨[.bareText 3 1 5 1005], false⟩ ⟨1, 2⟩ onlySeven.me :=
    List.forall_mem_singleton.mpr (by decide)
  have pages : ∀ plan, (onlySeven.tracker.issue ⟨1, 2⟩).1 = some plan →
      Backfill.pagesFrom onlySeven.config.sync onlySeven.history (plan.cursor 2) =
        [⟨[.bareText 3 1 5 1005], false⟩] := by
    intro plan issues
    cases issued.symm.trans issues
    exact fetched
  obtain ⟨-, -, unmoved⟩ := backfill_spares onlySeven ⟨1, 2⟩
  obtain ⟨caught, loaded⟩ := unmoved _ tracked
  refine ⟨pages, answered, caught ?_, loaded ?_⟩
  · intro plan issues page member
    rw [peer, pages plan issues] at member
    cases List.mem_singleton.mp member
    exact ⟨rfl, foreign⟩
  · rw [answered]
    exact List.forall_mem_singleton.mpr foreign

end Session

end Messenger
