import Messenger.Proofs.Conversation.Order
import Messenger.Proofs.History.Steady
import Messenger.Proofs.Session.Arrival
import Messenger.Proofs.Session.Sparing

/-!
# What content depends on

Two sessions that agree on a channel and on a peer, over stores in memory and steady sources
of history with the same answers, take in content of the channel and the peer alike: they
answer alike, and agree afterwards, after all pages that the content has them fetch.
-/

namespace Messenger

namespace MemoryStore

variable {store after other otherAfter : MemoryStore} {channel : Channel} {message : Message}
  {outcome otherOutcome : SaveOutcome}

/-- What a shelf has after a save depends on what it had. -/
theorem shelf_of_save_congr (same : other.shelf channel = store.shelf channel)
    (saved : store.save channel message = .ok (outcome, after))
    (otherSaved : other.save channel message = .ok (otherOutcome, otherAfter)) :
    otherAfter.shelf channel = after.shelf channel := by
  rcases of_save_eq_ok saved with ⟨refused, rfl⟩ | ⟨placed, placing, rfl⟩
  · rcases of_save_eq_ok otherSaved with ⟨-, rfl⟩ | ⟨placed, placing, -⟩
    · exact same
    · rw [same, refused] at placing
      cases placing
  · rcases of_save_eq_ok otherSaved with ⟨refused, -⟩ | ⟨otherPlaced, otherPlacing, rfl⟩
    · rw [same, placing] at refused
      cases refused
    · rw [same, placing] at otherPlacing
      cases otherPlacing
      rw [shelf_insert, shelf_insert, if_pos rfl, if_pos rfl]

end MemoryStore

namespace Session

/-! ## Two runs -/

/-- Two results are the same answer or the same failure, and the states that are left are
related. -/
inductive Alike {ε σ α : Type} (R : σ → σ → Prop) :
    EStateM.Result ε σ α → EStateM.Result ε σ α → Prop where
  | ok (answer : α) {left other : σ} (related : R left other) :
      Alike R (.ok answer left) (.ok answer other)
  | error (cause : ε) {left other : σ} (related : R left other) :
      Alike R (.error cause left) (.error cause other)

/-- Requests that go on alike from alike results. -/
theorem Alike.bind {ε σ α β : Type} {R : σ → σ → Prop} {request otherRequest : EStateM ε σ α}
    {next otherNext : α → EStateM ε σ β} {state other : σ}
    (first : Alike R (request state) (otherRequest other))
    (rest : ∀ answer left otherLeft, R left otherLeft →
      Alike R (next answer left) (otherNext answer otherLeft)) :
    Alike R ((request >>= next) state) ((otherRequest >>= otherNext) other) := by
  generalize done : request state = result at first
  generalize otherDone : otherRequest other = otherResult at first
  cases first with
  | ok answer related =>
      rw [bind_of_ok done, bind_of_ok otherDone]
      exact rest answer _ _ related
  | error cause related =>
      rw [bind_of_error done, bind_of_error otherDone]
      exact .error cause related

theorem Alike.leaves {ε σ α : Type} {R : σ → σ → Prop} {request : EStateM ε σ α}
    {state other : σ} (alike : Alike R (request state) (request other)) :
    R (leaves request state) (leaves request other) := by
  generalize done : request state = result at alike
  generalize otherDone : request other = otherResult at alike
  cases alike with
  | ok answer related =>
      rw [leaves_of_ok done, leaves_of_ok otherDone]
      exact related
  | error cause related =>
      rw [leaves_of_error done, leaves_of_error otherDone]
      exact related

/-! ## Sessions that agree -/

variable {η : Type} {channel : Channel} {peer : AccountId}

/-- Two sessions of one account know the same of a channel and of a peer. -/
structure Agree (channel : Channel) (peer : AccountId) (session other : Session MemoryStore η) :
    Prop where
  me_eq : other.me = session.me
  config_eq : other.config = session.config
  active_eq : other.active = session.active
  pageSize_eq : other.tracker.pageSize = session.tracker.pageSize
  timeline_eq : other.timelines.find? channel = session.timelines.find? channel
  state_eq : other.tracker.state? channel = session.tracker.state? channel
  shelf_eq : other.store.shelf channel = session.store.shelf channel
  about_eq : other.conversations.about peer = session.conversations.about peer

namespace Agree

variable {session middle other : Session MemoryStore η}

theorem refl (session : Session MemoryStore η) : Agree channel peer session session :=
  ⟨rfl, rfl, rfl, rfl, rfl, rfl, rfl, rfl⟩

theorem symm (agree : Agree channel peer session other) : Agree channel peer other session :=
  ⟨agree.me_eq.symm, agree.config_eq.symm, agree.active_eq.symm, agree.pageSize_eq.symm,
    agree.timeline_eq.symm, agree.state_eq.symm, agree.shelf_eq.symm, agree.about_eq.symm⟩

theorem trans (first : Agree channel peer session middle)
    (second : Agree channel peer middle other) : Agree channel peer session other :=
  ⟨second.me_eq.trans first.me_eq, second.config_eq.trans first.config_eq,
    second.active_eq.trans first.active_eq, second.pageSize_eq.trans first.pageSize_eq,
    second.timeline_eq.trans first.timeline_eq, second.state_eq.trans first.state_eq,
    second.shelf_eq.trans first.shelf_eq, second.about_eq.trans first.about_eq⟩

end Agree

variable [HistorySource η] {answers : HistoryRequest → Answer}

/-- Two sessions that agree have arranged lists and steady sources with the same answers. -/
structure Twins (answers : HistoryRequest → Answer) (channel : Channel) (peer : AccountId)
    (session other : Session MemoryStore η) : Prop extends Agree channel peer session other where
  arranged : session.conversations.Arranged
  otherArranged : other.conversations.Arranged
  steady : Steady answers session.history
  otherSteady : Steady answers other.history

namespace Twins

variable {session other : Session MemoryStore η}

theorem timeline (twins : Twins answers channel peer session other) :
    other.timeline channel = session.timeline channel := by
  unfold Session.timeline
  rw [twins.timeline_eq]

theorem state (twins : Twins answers channel peer session other) :
    other.tracker.state channel = session.tracker.state channel := by
  unfold Tracker.state
  rw [twins.state_eq]

theorem setTimeline (twins : Twins answers channel peer session other) (timeline : Timeline) :
    Twins answers channel peer (session.setTimeline channel timeline)
      (other.setTimeline channel timeline) :=
  { twins with
    timeline_eq := (Assoc.find?_insert_self ..).trans (Assoc.find?_insert_self ..).symm }

theorem setState (twins : Twins answers channel peer session other) (state : SyncState) :
    Twins answers channel peer { session with tracker := session.tracker.setState channel state }
      { other with tracker := other.tracker.setState channel state } := by
  have known : ∀ tracker : Tracker, (tracker.setState channel state).state? channel = some state :=
    fun _ => (Tracker.state?_setState ..).trans (if_pos rfl)
  exact { twins with state_eq := (known other.tracker).trans (known session.tracker).symm }

/-- A change of what is known of the channel that depends on what was known. -/
theorem track (twins : Twins answers channel peer session other) (change : Tracker → Tracker)
    {f : SyncState → SyncState}
    (changes : ∀ tracker, change tracker = tracker.setState channel (f (tracker.state channel))) :
    Twins answers channel peer { session with tracker := change session.tracker }
      { other with tracker := change other.tracker } := by
  rw [changes, changes, twins.state]
  exact twins.setState _

theorem arrive (twins : Twins answers channel peer session other) (seq : UInt64) :
    Twins answers channel peer
      { session with tracker := (session.tracker.arrive channel seq).2 }
      { other with tracker := (other.tracker.arrive channel seq).2 } :=
  twins.track (fun tracker => (tracker.arrive channel seq).2)
    (f := fun state => (state.anchor none).arrive seq) fun _ => rfl

theorem advance (twins : Twins answers channel peer session other) (last : UInt64) :
    Twins answers channel peer { session with tracker := session.tracker.advance channel last }
      { other with tracker := other.tracker.advance channel last } := by
  unfold Tracker.advance
  rw [twins.state_eq]
  cases session.tracker.state? channel with
  | none => exact twins
  | some state => exact twins.setState (state.advance last)

theorem asked (twins : Twins answers channel peer session other) {after otherAfter : η}
    (steady : Steady answers after) (otherSteady : Steady answers otherAfter) :
    Twins answers channel peer { session with history := after }
      { other with history := otherAfter } :=
  { twins with steady, otherSteady }

theorem told (twins : Twins answers channel peer session other) (events otherEvents : List Event) :
    Twins answers channel peer { session with events } { other with events := otherEvents } :=
  { twins with }

/-! ## Merging and fetching -/

theorem merge (twins : Twins answers channel peer session other) (message : Message) :
    Alike (Twins answers channel peer) (merge channel message session)
      (merge channel message other) := by
  have placed := twins.setTimeline ((session.timeline channel).insert message).2
  have same := twins.timeline
  cases numbered : message.seq? with
  | none =>
      rw [merge_of_unnumbered numbered, merge_of_unnumbered numbered, same]
      exact .ok _ placed
  | some seq =>
      cases new : ((session.timeline channel).insert message).1.isNew with
      | false =>
          rw [merge_of_duplicate numbered new, merge_of_duplicate numbered (same ▸ new), same]
          exact .ok _ (placed.arrive seq)
      | true =>
          obtain ⟨_, store, saved, -⟩ := session.store.save_of_numbered channel numbered
          obtain ⟨_, otherStore, otherSaved, -⟩ := other.store.save_of_numbered channel numbered
          rw [merge_of_saved numbered new saved,
            merge_of_saved numbered (same ▸ new) otherSaved, same]
          have shelf_eq := MemoryStore.shelf_of_save_congr twins.shelf_eq saved otherSaved
          exact .ok _ { placed.arrive seq with shelf_eq }

theorem mergeAll (twins : Twins answers channel peer session other) (merged : Nat)
    (last : Option UInt64) (messages : List Message) :
    Alike (Twins answers channel peer) (mergeAll channel merged last messages session)
      (mergeAll channel merged last messages other) := by
  induction messages generalizing session other merged last with
  | nil => exact .ok _ twins
  | cons message rest ih =>
      by_cases belongs : message.channel session.me = channel
      · rw [mergeAll_cons belongs, mergeAll_cons (twins.me_eq ▸ belongs)]
        exact (twins.merge message).bind fun _ _ _ middle => ih middle _ _
      · rw [mergeAll_cons_of_foreign belongs, mergeAll_cons_of_foreign (twins.me_eq ▸ belongs)]
        exact ih twins _ _

theorem closePage (twins : Twins answers channel peer session other) (complete : Bool)
    (last : Option UInt64) :
    Twins answers channel peer (closePage channel complete last session)
      (closePage channel complete last other) := by
  have moved : Twins answers channel peer (Session.closePage channel false last session)
      (Session.closePage channel false last other) := by
    cases last with
    | none => exact twins
    | some last => exact twins.advance last
  cases complete with
  | false => exact moved
  | true =>
      have finished := moved.track (fun tracker => tracker.finish channel)
        (f := fun state => { state with next := caughtUp }) fun _ => rfl
      exact finished.told _ _

theorem takePage (twins : Twins answers channel peer session other) (page : Page) :
    Alike (Twins answers channel peer) (takePage channel page session)
      (takePage channel page other) := by
  have merged := twins.mergeAll 0 none page.messages
  generalize done : Session.mergeAll channel 0 none page.messages session = result at merged
  generalize otherDone : Session.mergeAll channel 0 none page.messages other = otherResult at merged
  cases merged with
  | ok answer middle =>
      rw [takePage_of_merged done, takePage_of_merged otherDone]
      exact .ok _ (middle.closePage _ _)
  | error cause middle =>
      have failed : Session.takePage channel page session = _ := bind_of_error done _
      have otherFailed : Session.takePage channel page other = _ := bind_of_error otherDone _
      rw [failed, otherFailed]
      exact .error cause middle

/-- Both cycles fetch the same pages. -/
theorem catchUpFrom {session other : Session MemoryStore η}
    (twins : Twins answers channel peer session other) (cursor : Cursor) (merged : Nat) :
    Alike (Twins answers channel peer) (catchUpFrom channel cursor merged session)
      (catchUpFrom channel cursor merged other) := by
  obtain ⟨result, after, otherAfter, fetched, otherFetched, steady, otherSteady⟩ :=
    twins.steady.nextPage twins.otherSteady session.config.sync cursor
  rw [← twins.config_eq] at otherFetched
  have asked := twins.asked steady otherSteady
  match result with
  | .error (.failed cause) =>
      rw [catchUpFrom_of_failed merged fetched, catchUpFrom_of_failed merged otherFetched]
      exact .ok _ (asked.told _ _)
  | .error .pauseOverflow =>
      rw [catchUpFrom_of_overflow merged fetched, catchUpFrom_of_overflow merged otherFetched]
      exact .error _ asked
  | .ok none =>
      rw [catchUpFrom_of_done merged fetched, catchUpFrom_of_done merged otherFetched]
      exact .ok _ asked
  | .ok (some (page, moved)) =>
      rw [catchUpFrom_of_page merged fetched, catchUpFrom_of_page merged otherFetched]
      exact (asked.takePage page).bind fun count _ _ middle =>
        middle.catchUpFrom moved (merged + count)
termination_by cursor.distance
decreasing_by exact Backfill.distance_lt_of_nextPage fetched

theorem catchUp (twins : Twins answers channel peer session other) :
    Alike (Twins answers channel peer) (catchUp channel session) (catchUp channel other) := by
  have plan_eq : (other.tracker.issue channel).1 = (session.tracker.issue channel).1 := by
    unfold Tracker.issue
    rw [twins.state, twins.pageSize_eq]
    dsimp only
    split <;> rfl
  have issuing : Twins answers channel peer (session.issuing channel) (other.issuing channel) :=
    twins.track (fun tracker => (tracker.issue channel).2)
      (f := fun state => { state.anchor none with synced := true })
      fun tracker => tracker.issue_eq_setState channel
  cases issued : (session.tracker.issue channel).1 with
  | none =>
      rw [catchUp_of_none issued, catchUp_of_none (plan_eq.trans issued)]
      exact .ok _ issuing
  | some plan =>
      rw [catchUp_of_plan issued, catchUp_of_plan (plan_eq.trans issued), twins.me_eq]
      exact issuing.catchUpFrom _ 0

/-! ## Taking in content -/

theorem anchor (twins : Twins answers channel peer session other) :
    Alike (Twins answers channel peer) (anchor channel session) (anchor channel other) := by
  have latest_eq : other.store.latest channel = session.store.latest channel := by
    unfold MemoryStore.latest
    rw [twins.shelf_eq]
  have known_eq : other.tracker.isAnchored channel = session.tracker.isAnchored channel := by
    unfold Tracker.isAnchored
    rw [twins.state]
  have anchored : ∀ session : Session MemoryStore η, Session.anchor channel session =
      if session.tracker.isAnchored channel then .ok () session
      else .ok () { session with
        tracker := session.tracker.anchor channel (session.store.latest channel) } :=
    fun _ => rfl
  rw [anchored, anchored, known_eq, latest_eq]
  split
  · exact .ok () twins
  · exact .ok () (twins.track (fun tracker =>
      tracker.anchor channel (session.store.latest channel))
      (f := fun state => state.anchor (session.store.latest channel)) fun _ => rfl)

theorem note (twins : Twins answers channel peer session other) (message : Message)
    (countsUnread : Bool) :
    Alike (Twins answers channel peer) (note peer message countsUnread session)
      (note peer message countsUnread other) := by
  have room_eq : other.conversations.hasRoom peer message countsUnread =
      session.conversations.hasRoom peer message countsUnread :=
    ConversationList.hasRoom_congr twins.about_eq
  unfold Session.note ConversationList.noteMessage?
  rw [room_eq]
  cases session.conversations.hasRoom peer message countsUnread with
  | false => exact .error _ twins
  | true =>
      refine .ok () { twins with
        about_eq := ?_
        arranged := twins.arranged.noteMessage _ _ _
        otherArranged := twins.otherArranged.noteMessage _ _ _ }
      exact (ConversationList.about_noteMessage_self twins.otherArranged).trans
        (twins.about_eq ▸ (ConversationList.about_noteMessage_self twins.arranged).symm)

theorem saveConversations (twins : Twins answers channel peer session other) :
    Alike (Twins answers channel peer) (saveConversations session) (saveConversations other) :=
  .ok () { twins with }

theorem announce {start otherStart : Session MemoryStore η} {message : Message}
    (twins : Twins answers (message.channel start.me) (message.peer start.me) session other)
    (started : Agree (message.channel start.me) (message.peer start.me) start otherStart)
    (inserted : Timeline.Inserted) :
    Alike (Twins answers (message.channel start.me) (message.peer start.me))
      (announce start message inserted session) (announce otherStart message inserted other) := by
  have same : Session.announce otherStart message inserted =
      Session.announce start message inserted := by
    unfold Session.announce
    dsimp only
    rw [started.me_eq, started.active_eq, started.state_eq]
  have ending : ∀ {session other : Session MemoryStore η},
      Twins answers (message.channel start.me) (message.peer start.me) session other →
      Alike (Twins answers (message.channel start.me) (message.peer start.me))
        ((do
          if (start.tracker.state? (message.channel start.me)).isNone then
            let _ ← Session.catchUp (message.channel start.me)
          return Routed.content (message.channel start.me) inserted :
            SessionM MemoryStore η Routed) session)
        ((do
          if (start.tracker.state? (message.channel start.me)).isNone then
            let _ ← Session.catchUp (message.channel start.me)
          return Routed.content (message.channel start.me) inserted :
            SessionM MemoryStore η Routed) other) := by
    intro session other twins
    split
    · exact twins.catchUp.bind fun _ _ _ caught => .ok _ caught
    · exact .ok _ twins
  rw [same]
  unfold Session.announce
  dsimp only
  split
  · exact (twins.note message _).bind fun _ _ _ noted =>
      noted.saveConversations.bind fun _ _ _ saved => ending (saved.told _ _)
  · exact ending twins

/-- Content of the channel and the peer is taken in alike. -/
theorem receiveContent {message : Message}
    (twins : Twins answers (message.channel session.me) (message.peer session.me)
      session other) :
    Alike (Twins answers (message.channel session.me) (message.peer session.me))
      (receiveContent message session) (receiveContent message other) := by
  rw [receiveContent_eq, receiveContent_eq, twins.me_eq]
  exact twins.anchor.bind fun _ _ _ anchored =>
    (anchored.merge message).bind fun inserted _ _ merged => merged.announce twins.toAgree inserted

end Twins

end Session

end Messenger
