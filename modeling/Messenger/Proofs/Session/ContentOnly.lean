import Messenger.Proofs.History.Budget
import Messenger.Proofs.Session.Cycle

/-!
# Timelines of content

Live frames and sent messages are merged only if they are content, and a store that
took in nothing else gives nothing else back.  A page of history is merged without its
reports on remaining history, whatever else is on it.  So the timelines hold content only,
in all sessions that requests can reach, exactly over the sources that serve nothing but
content and these reports.
-/

namespace Messenger

/-- Whatever they are asked, the sources of a type only serve messages of some kinds. -/
def ServesOnly (η : Type) [HistorySource η] (served : Kind → Prop) : Prop :=
  ∀ (source : η) (request : HistoryRequest) (frames : List Octets),
    (HistorySource.answer source request).1.frames = .ok frames →
    ∀ frame ∈ frames, ∀ message, Message.decode frame = .ok message → served message.header.kind

/-- With a property that saving keeps, a store only gives content back. -/
structure GivesContent {σ : Type} [MessageStore σ] (kept : σ → Prop) : Prop where
  save : ∀ {store after : σ} {channel : Channel} {message : Message} {outcome : SaveOutcome},
    kept store → message.header.kind.isContent = true →
    MessageStore.save store channel message = .ok (outcome, after) → kept after
  setValue : ∀ {store after : σ} {key : String} {value : Octets}, kept store →
    MessageStore.setValue store key value = .ok after → kept after
  range : ∀ {store : σ} {channel : Channel} {low high : UInt64} {found : List Message},
    kept store → MessageStore.range store channel low high = .ok found →
    ∀ message ∈ found, message.header.kind.isContent = true
  before : ∀ {store : σ} {channel : Channel} {bound limit : UInt64} {found : List Message},
    kept store → MessageStore.before store channel bound limit = .ok found →
    ∀ message ∈ found, message.header.kind.isContent = true

/-- A store in memory gives content back if its shelves hold nothing else. -/
theorem MemoryStore.givesContent : GivesContent fun store : MemoryStore =>
    ∀ channel, ∀ message ∈ store.shelf channel, message.header.kind.isContent = true where
  save := by
    intro store after channel message outcome pure content saved other stored onShelf
    rcases of_save_eq_ok saved with ⟨-, rfl⟩ | ⟨placed, placing, rfl⟩
    · exact pure other stored onShelf
    · rw [shelf_insert] at onShelf
      split at onShelf
      · rcases (mem_of_place placing).mp onShelf with rfl | before
        · exact content
        · exact pure channel stored before
      · exact pure other stored onShelf
  setValue := by
    rintro store _ key value pure ⟨⟩
    exact pure
  range := by
    rintro store channel low high _ pure ⟨⟩ message found
    exact pure channel message (store.range_subset channel low high found)
  before := by
    rintro store channel bound limit _ pure ⟨⟩ message found
    exact pure channel message (store.before_subset channel bound limit found)

namespace Timeline

/-- A confirmation gives an entry a number and a time, and nothing else. -/
theorem exists_entry_of_confirm {timeline after : Timeline} {sender receiver : AccountId}
    {minted seq timestamp : UInt64} {confirmed : Message}
    (confirms : timeline.confirm sender receiver minted seq timestamp = (some confirmed, after)) :
    ∀ entry, entry = confirmed ∨ entry ∈ after.entries →
      ∃ origin ∈ timeline.entries, entry = origin ∨ entry = confirmedCopy origin seq timestamp := by
  rcases confirm_cases timeline sender receiver minted seq timestamp with
    ⟨-, result⟩ | ⟨older, waiting, newer, present, waits, found, result⟩ |
    ⟨older, waiting, newer, waits, -, result⟩
  · cases result.symm.trans confirms
  · cases result.symm.trans confirms
    rintro entry (rfl | member)
    · exact ⟨entry, List.mem_of_find?_eq_some found, .inl rfl⟩
    · refine ⟨entry, ?_, .inl rfl⟩
      rw [waits.entries_eq]
      grind
  · cases result.symm.trans confirms
    have place : waiting ∈ timeline.entries := by
      rw [waits.entries_eq]
      exact List.mem_append_right _ List.mem_cons_self
    intro entry member
    have cases : entry = confirmedCopy waiting seq timestamp ∨ entry ∈ older ++ newer := by
      rw [List.mem_mergeSort] at member
      grind
    rcases cases with copy | other
    · exact ⟨waiting, place, .inr copy⟩
    · refine ⟨entry, ?_, .inl rfl⟩
      rw [waits.entries_eq]
      grind

end Timeline

/-! ## What is fetched -/

namespace Backfill

variable {η : Type} [HistorySource η] {served : Kind → Prop} {config : SyncConfig}
  {source after : η}

/-- Whichever attempt yields messages, these come from the frames of an answer. -/
theorem served_of_fetchMessages (only : ServesOnly η served) {request : HistoryRequest}
    {messages : List Message}
    (fetched : fetchMessages config source request = (.ok messages, after)) :
    ∀ message ∈ messages, served message.header.kind := by
  intro message member
  obtain ⟨before, found, -⟩ := fetchMessages_eq_ok_iff.mp fetched
  obtain ⟨frames, answered, spelled⟩ := found.yields.spelled
  have among : .ok message ∈ frames.map Message.decode :=
    spelled ▸ List.mem_map_of_mem member
  obtain ⟨frame, sent, decoded⟩ := List.mem_map.mp among
  exact only _ request frames answered frame sent message decoded

/-- A page is content if the source serves only content and reports on remaining history. -/
theorem content_of_page (only : ServesOnly η served)
    (permitted : ∀ kind, served kind → kind = .sync ∨ kind.isContent = true)
    {request : HistoryRequest} {messages : List Message}
    (fetched : fetchMessages config source request = (.ok messages, after)) :
    ∀ message ∈ (Page.ofMessages messages).messages, message.header.kind.isContent = true := by
  intro message member
  obtain ⟨among, other⟩ := List.mem_filter.mp member
  rcases permitted _ (served_of_fetchMessages only fetched message among) with report | content
  · simp [report] at other
  · exact content

theorem content_of_nextPage (only : ServesOnly η served)
    (permitted : ∀ kind, served kind → kind = .sync ∨ kind.isContent = true)
    {cursor moved : Cursor} {page : Page}
    (fetched : nextPage config source cursor = (.ok (some (page, moved)), after)) :
    ∀ message ∈ page.messages, message.header.kind.isContent = true := by
  obtain ⟨-, messages, answered, rfl, -⟩ := nextPage_eq_some_iff.mp fetched
  exact content_of_page only permitted answered

end Backfill

namespace Session

variable {σ η : Type}

/-- Every entry of every timeline is content. -/
def ContentOnly (session : Session σ η) : Prop :=
  ∀ channel, ∀ entry ∈ (session.timeline channel).entries, entry.header.kind.isContent = true

/-! ## The invariant -/

/-- All timelines are content, and the store has a property. -/
structure HoldsContent (kept : σ → Prop) (session : Session σ η) : Prop where
  timelines : session.ContentOnly
  store : kept session.store

/-- A change that keeps content only. -/
def StaysContent (kept : σ → Prop) (before after : Session σ η) : Prop :=
  before.HoldsContent kept → after.HoldsContent kept

section Invariant

variable {kept : σ → Prop} {session before after : Session σ η} {channel : Channel}
  {message : Message}

theorem StaysContent.of_same (timelines : after.timelines = before.timelines)
    (store : after.store = before.store) : StaysContent kept before after := by
  rintro ⟨content, holds⟩
  refine ⟨?_, store ▸ holds⟩
  unfold ContentOnly Session.timeline at content ⊢
  rwa [timelines]

theorem Follows.holdsContent {α : Type} {request : SessionM σ η α}
    (follows : Follows (StaysContent kept) request session) :
    StaysContent kept session (leaves request session) :=
  preserved_run (fun _ _ stays holds => stays holds) follows

theorem HoldsContent.setTimeline (holds : session.HoldsContent kept) {timeline : Timeline}
    (content : ∀ entry ∈ timeline.entries, entry.header.kind.isContent = true) :
    (session.setTimeline channel timeline).HoldsContent kept := by
  refine ⟨fun other entry member => ?_, holds.store⟩
  rw [timeline_setTimeline] at member
  split at member
  · exact content entry member
  · exact holds.timelines other entry member

theorem HoldsContent.insert (holds : session.HoldsContent kept)
    (content : message.header.kind.isContent = true) :
    (session.setTimeline channel
      ((session.timeline channel).insert message).2).HoldsContent kept := by
  refine holds.setTimeline fun entry member => ?_
  rcases Timeline.mem_entries_insert.mp member with known | ⟨rfl, -⟩
  · exact holds.timelines channel entry known
  · exact content

theorem stays_emit (event : Event) : Follows (StaysContent kept) (emit event) session :=
  .modify (.of_same rfl rfl)

theorem stays_finishSync (channel : Channel) :
    Follows (StaysContent kept) (finishSync channel) session :=
  .bind (.modify (.of_same rfl rfl)) fun _ _ _ => stays_emit _

theorem stays_note (peer : AccountId) (message : Message) (countsUnread : Bool) :
    StaysContent kept session (leaves (note peer message countsUnread) session) := by
  unfold leaves note
  cases session.conversations.noteMessage? peer message countsUnread <;> exact .of_same rfl rfl

variable [MessageStore σ] (gives : GivesContent kept)

theorem stays_anchor (channel : Channel) :
    StaysContent kept session (leaves (anchor channel) session) := by
  unfold leaves anchor
  cases session.tracker.isAnchored channel with
  | true => exact .of_same rfl rfl
  | false => cases MessageStore.latest session.store channel <;> exact .of_same rfl rfl

theorem stays_reload : StaysContent kept session (leaves reload session) := by
  unfold leaves reload
  cases ConversationList.load session.store session.me <;> exact .of_same rfl rfl

include gives

theorem stays_saveConversations :
    StaysContent kept session (leaves saveConversations session) := by
  unfold leaves saveConversations
  cases saved : session.conversations.save session.store session.me with
  | ok store => exact fun holds => ⟨holds.timelines, gives.setValue holds.store saved⟩
  | error cause => exact .of_same rfl rfl

theorem stores_content (change : ConversationList → ConversationList) :
    Stores (StaysContent kept : Session σ η → Session σ η → Prop) change :=
  Stores.of_follows (fun _ => .modify (.of_same rfl rfl)) fun _ =>
    .single (stays_saveConversations gives)

/-- Merging content keeps content only, even if the store refuses it. -/
theorem stays_merge (content : message.header.kind.isContent = true) :
    StaysContent kept session (leaves (merge channel message) session) := by
  intro holds
  have placed : (session.setTimeline channel
      ((session.timeline channel).insert message).2).HoldsContent kept := holds.insert content
  cases numbered : message.seq? with
  | none =>
      rw [leaves_of_ok (merge_of_unnumbered numbered)]
      exact placed
  | some seq =>
      cases new : ((session.timeline channel).insert message).1.isNew with
      | false =>
          rw [leaves_of_ok (merge_of_duplicate numbered new)]
          exact ⟨placed.timelines, placed.store⟩
      | true =>
          cases saving : MessageStore.save session.store channel message with
          | ok saved =>
              rw [leaves_of_ok (merge_of_saved numbered new saving)]
              exact ⟨placed.timelines, gives.save holds.store content saving⟩
          | error cause =>
              rw [leaves_of_error (merge_of_refused numbered new saving)]
              exact placed

/-! ## The ways into a timeline -/

theorem stays_takePage {page : Page}
    (content : ∀ message ∈ page.messages, message.header.kind.isContent = true) :
    Follows (StaysContent kept) (takePage channel page) session :=
  .takePage (fun message member _ _ => .single (stays_merge gives (content message member)))
    (fun _ _ => .of_same rfl rfl) (fun _ => stays_finishSync channel) session

/-- A confirmed entry is of the kind that it had while it waited. -/
theorem stays_receiveAck (ack : Message) :
    Follows (StaysContent kept) (receiveAck ack) session := by
  have confirmed : ∀ {minted : UInt64} {entry : Message} {timeline : Timeline},
      (session.timeline (ack.channel session.me)).confirm ack.header.sender ack.header.receiver
        minted ack.header.seq ack.header.timestamp = (some entry, timeline) →
      session.HoldsContent kept →
      entry.header.kind.isContent = true ∧
        (session.setTimeline (ack.channel session.me) timeline).HoldsContent kept := by
    intro minted entry timeline confirms holds
    have content : ∀ other, other = entry ∨ other ∈ timeline.entries →
        other.header.kind.isContent = true := by
      intro other among
      obtain ⟨origin, member, rfl | rfl⟩ :=
        Timeline.exists_entry_of_confirm confirms other among
      · exact holds.timelines _ _ member
      · exact holds.timelines _ origin member
    exact ⟨content entry (.inl rfl),
      holds.setTimeline fun other member => content other (.inr member)⟩
  refine .receiveAck (fun _ confirms _ holds => (confirmed confirms holds).2)
    (fun _ confirms saved _ holds => ?_) (fun _ _ => stores_content gives _) fun event _ =>
      stays_emit event
  obtain ⟨content, placed⟩ := confirmed confirms holds
  exact ⟨placed.timelines, gives.save holds.store content saved⟩

variable [HistorySource η] {served : Kind → Prop} (only : ServesOnly η served)
  (permitted : ∀ kind, served kind → kind = .sync ∨ kind.isContent = true)

include only permitted

theorem stays_catchUp (channel : Channel) :
    Follows (StaysContent kept) (catchUp channel) session :=
  .catchUp (.of_same rfl rfl) fun cursor middle =>
    .catchUpFrom (fun _ => .of_same rfl rfl)
      (fun fetched => stays_takePage gives (Backfill.content_of_nextPage only permitted fetched))
      (fun event _ => stays_emit event) cursor 0 middle

theorem stays_receiveContent (content : message.header.kind.isContent = true) :
    Follows (StaysContent kept) (receiveContent message) session :=
  .receiveContent (.single (stays_anchor _)) (fun _ _ => .single (stays_merge gives content))
    fun inserted _ => .announce inserted
      (fun rest => .bind (.single (stays_note _ _ _)) fun _ _ _ =>
        .bind (.single (stays_saveConversations gives)) fun _ saved _ => rest saved)
      (fun event _ => stays_emit event) fun _ => stays_catchUp gives only permitted _

theorem stays_receive (frame : Octets) :
    Follows (StaysContent kept) (receive frame) session :=
  .receive fun message _ => .receiveMessage (stays_receiveContent gives only permitted)
    (fun _ => stays_receiveAck gives message)
    (fun _ => .receiveRoster (fun _ => stores_content gives _) (fun event _ => stays_emit event)
      fun _ _ _ _ => .catchUpWith (fun _ _ _ => .single (stays_anchor _)) fun _ _ _ =>
        stays_catchUp gives only permitted _)
    (fun _ => .receiveSync fun _ => stays_finishSync _)
    (.receiveAuth (fun _ => .of_same rfl rfl) fun event _ => stays_emit event) stays_emit

theorem stays_openConversation (peer : AccountId) :
    Follows (StaysContent kept) (openConversation peer) session := by
  refine .openConversation (.of_same rfl rfl) (fun found holds => holds.setTimeline ?_)
    (fun _ _ => .of_same rfl rfl) (fun _ => stays_catchUp gives only permitted _)
    (stores_content gives _)
  intro entry member
  rcases Timeline.mem_entries_mergeCached member with known | cached
  · exact holds.timelines _ entry known
  · exact gives.before holds.store found entry cached

theorem stays_loadOlder (channel : Channel) :
    Follows (StaysContent kept) (loadOlder channel) session := by
  refine .loadOlder (fun found holds => holds.setTimeline ?_) fun added low high middle =>
    .fetchPiece (fun _ => .of_same rfl rfl) (fun fetched message member _ _ =>
      .single (stays_merge gives (Backfill.content_of_page only permitted fetched message member)))
      added
  intro entry member
  rcases Timeline.mem_entries_mergeCached member with known | cached
  · exact holds.timelines _ entry known
  · exact gives.range holds.store found entry cached

/-- Every request keeps content only, whether it answers or fails. -/
theorem Request.staysContent {submits : Message → Prop} {before after : Session σ η}
    (request : Request submits before after) : StaysContent kept before after := by
  cases request with
  | receive frame => exact (stays_receive gives only permitted frame).holdsContent
  | catchUp channel => exact (stays_catchUp gives only permitted channel).holdsContent
  | openConversation peer =>
      exact (stays_openConversation gives only permitted peer).holdsContent
  | loadOlder channel => exact (stays_loadOlder gives only permitted channel).holdsContent
  | submit submitted => exact (Follows.submit fun _ => .of_same rfl rfl).holdsContent
  | flush link =>
      refine preserved_run (fun _ _ stays holds => stays holds) (session_of_linked
        (Follows.flush (fun _ => .of_same rfl rfl) (fun {session message rest _} _ _ holds => ?_)
          (fun _ => .single (stays_saveConversations gives)) link before))
      have shorter : { session with outbox := rest }.HoldsContent kept :=
        ⟨holds.timelines, holds.store⟩
      unfold noteSent
      split
      · next content =>
          obtain ⟨timelines, store⟩ := shorter.insert content
          exact ⟨timelines, store⟩
      · exact shorter
  | disconnect =>
      exact (Follows.bind (.modify (.of_same rfl rfl)) fun _ _ _ => stays_emit _).holdsContent
  | reload => exact stays_reload
  | takeEvents => exact .of_same rfl rfl
  | answers history => exact .of_same rfl rfl

end Invariant

/-! ## A source that serves other messages -/

/-- A cycle of one page takes in what is on the page. -/
theorem takesIn_of_only_page [HistorySource η] {session : Session MemoryStore η}
    {channel : Channel} {plan : SyncPlan} {page : Page} {moved : Cursor} {history : η}
    (issued : (session.tracker.issue channel).1 = some plan)
    (fetched : Backfill.nextPage session.config.sync session.history
      (plan.cursor (channel.other session.me)) = (.ok (some (page, moved)), history))
    (last : moved.done = true) (settled : (session.timeline channel).pending = [])
    (numbered : ∀ message ∈ page.messages, message.header.seq ≠ 0)
    (belongs : ∀ message ∈ page.messages, message.channel session.me = channel) :
    TakesIn channel (· ∈ page.messages) session (leaves (catchUp channel) session) := by
  let issuing := session.issuing channel
  let asking : Session MemoryStore η := { issuing with history }
  have fetchedNow : Backfill.nextPage issuing.config.sync issuing.history
      (plan.cursor (channel.other session.me)) = (.ok (some (page, moved)), history) := fetched
  have settledNow : (asking.timeline channel).pending = [] := settled
  obtain ⟨count, middle, took⟩ := exists_takePage asking numbered belongs
  obtain ⟨taken, -⟩ := takesIn_of_takePage settledNow numbered belongs took
  have done : catchUp channel session = .ok (.completed (0 + count)) middle :=
    calc catchUp channel session
      _ = catchUpFrom channel (plan.cursor (channel.other session.me)) 0 issuing :=
        catchUp_of_plan issued
      _ = _ := catchUpFrom_of_page 0 fetchedNow
      _ = catchUpFrom channel moved (0 + count) middle := bind_of_ok took _
      _ = _ := catchUpFrom_of_done _ (Backfill.nextPage_of_done last)
  rw [leaves_of_ok done]
  exact taken.of_before rfl rfl rfl

/-- A source that serves one message, whatever it is asked. -/
inductive Always (message : Message) where
  | source

instance {message : Message} : HistorySource (Always message) where
  answer _ _ := (.atOnce (.ok [message.spelling]), .source)

/-- A message of account 2 to account 1, of some kind. -/
def stray (kind : Kind) : Message :=
  { Message.bareText 2 1 1 1001 with
    header := { (Message.bareText 2 1 1 1001).header with kind } }

theorem wellFormed_stray (kind : Kind) : (stray kind).WellFormed := by
  have text : (Message.bareText 2 1 1 1001).WellFormed := by decide
  have widths := Header.fits_iff.mp text.fits
  exact ⟨rfl, rfl, Header.fits_iff.mpr widths⟩

theorem servesOnly_always (kind : Kind) : ServesOnly (Always (stray kind)) (· = kind) := by
  rintro _ request _ ⟨⟩ frame member message decoded
  rw [List.mem_singleton.mp member, Message.decode_spelling (wellFormed_stray kind)] at decoded
  cases decoded
  rfl

/-- Its message is a page unless it is a report on remaining history. -/
theorem nextPage_always {kind : Kind} (other : kind ≠ .sync) (config : SyncConfig)
    {cursor : Cursor} (active : cursor.done = false) :
    Backfill.nextPage config (Always.source : Always (stray kind)) cursor =
      (.ok (some (⟨[stray kind], false⟩, cursor.advance ⟨[stray kind], false⟩)), .source) := by
  have spelled : [(stray kind).spelling].map Message.decode = [stray kind].map .ok := by
    simp [Message.decode_spelling (wellFormed_stray kind)]
  have fetched : Backfill.fetchMessages config (Always.source : Always (stray kind))
      (.window cursor.peer cursor.next cursor.pageSize) = (.ok [stray kind], .source) :=
    Backfill.fetchMessages_of_yields (Answer.yields_atOnce spelled)
  have page : Page.ofMessages [stray kind] = ⟨[stray kind], false⟩ := by
    simp [Page.ofMessages, Message.endsHistory, stray, other]
  have given := Backfill.nextPage_of_fetched active fetched
  rwa [page] at given

/-- A session of account 1 that has only the text 3 of account 2, asks for all numbers at once,
and has not asked yet. -/
def expecting (kind : Kind) : Session MemoryStore (Always (stray kind)) :=
  let fresh := start 1 ⟨8, 8, { pageSize := highestSeq }⟩ MemoryStore.empty .source
  leaves disconnect (leaves (receive (Message.bareText 2 1 3 1003).spelling)
    (leaves (openConversation 2) fresh))

theorem later_expecting (kind : Kind) :
    Later (fun _ => True)
      (start 1 ⟨8, 8, { pageSize := highestSeq }⟩ MemoryStore.empty .source) (expecting kind) :=
  .tail (.tail (.single (.openConversation _ 2)) (.receive _ _)) (.disconnect _)

/-- The cycle of such a session merges the message that the source serves. -/
theorem stray_mem_catchUp {kind : Kind} (other : kind ≠ .sync) :
    stray kind ∈ ((leaves (catchUp ⟨1, 2⟩) (expecting kind)).timeline ⟨1, 2⟩).entries := by
  have issued : ((expecting kind).tracker.issue ⟨1, 2⟩).1 =
      some ⟨⟨1, 2⟩, 1, 3, highestSeq⟩ := by cases kind <;> decide +kernel
  have entries : ((expecting kind).timeline ⟨1, 2⟩).entries =
      [.bareText 2 1 3 1003] := by cases kind <;> decide +kernel
  have account : (expecting kind).me = 1 := by cases kind <;> decide +kernel
  have source : (expecting kind).history = .source := by cases (expecting kind).history; rfl
  have settled : ((expecting kind).timeline ⟨1, 2⟩).pending = [] := by
    unfold Timeline.pending
    rw [entries]
    rfl
  have numbered : ∀ message ∈ [stray kind], message.header.seq ≠ 0 :=
    List.forall_mem_singleton.mpr (show (1 : UInt64) ≠ 0 by decide)
  have belongs : ∀ message ∈ [stray kind], message.channel (expecting kind).me = ⟨1, 2⟩ :=
    List.forall_mem_singleton.mpr (account.symm ▸ rfl)
  let cursor : Cursor := SyncPlan.cursor ⟨⟨1, 2⟩, 1, 3, highestSeq⟩ 2
  have fetched : Backfill.nextPage (expecting kind).config.sync (expecting kind).history
      (SyncPlan.cursor ⟨⟨1, 2⟩, 1, 3, highestSeq⟩ (Channel.other ⟨1, 2⟩ (expecting kind).me)) =
      (.ok (some (⟨[stray kind], false⟩, cursor.advance ⟨[stray kind], false⟩)),
        .source) := by
    rw [source, account]
    exact nextPage_always other _ rfl
  have last : (cursor.advance ⟨[stray kind], false⟩).done = true := by cases kind <;> decide +kernel
  have taken := takesIn_of_only_page issued fetched last settled numbered belongs
  obtain ⟨entry, member, number⟩ :=
    Timeline.mem_seqs.mp ((taken.seqs 1).mpr (.inr ⟨stray kind, List.mem_cons_self, rfl⟩))
  rcases taken.entries entry member with before | served
  · rw [entries] at before
    rw [List.mem_singleton.mp before] at number
    cases number
  · rwa [List.mem_singleton.mp served] at member

/-! ## Content only -/

/-- Over all stores that give back nothing but content, and all sources that serve only messages of
some kinds, all timelines of all sessions hold content only, whatever frames, messages and requests
come, exactly if every one of these kinds is content or reports on remaining history. -/
theorem content_only_iff_served (served : Kind → Prop) :
    (∀ (σ η : Type) [MessageStore σ] [HistorySource η] (kept : σ → Prop),
      GivesContent kept → ServesOnly η served →
      ∀ (me : AccountId) (config : SessionConfig) (store : σ) (history : η), kept store →
      ∀ session, Later (fun _ => True) (start me config store history) session →
        session.ContentOnly) ↔
      ∀ kind, served kind → kind = .sync ∨ kind.isContent = true := by
  constructor
  · intro contentOnly kind serves
    by_contra neither
    obtain ⟨other, noContent⟩ := not_or.mp neither
    have only : ServesOnly (Always (stray kind)) served :=
      fun _ request frames answered frame member message decoded =>
        servesOnly_always kind _ request frames answered frame member message decoded ▸ serves
    have later := (later_expecting kind).tail (.catchUp _ ⟨1, 2⟩)
    have content := contentOnly MemoryStore (Always (stray kind)) _
      MemoryStore.givesContent only 1 _ MemoryStore.empty .source
      (fun _ => List.forall_mem_nil _) _ later
    exact noContent (content ⟨1, 2⟩ (stray kind) (stray_mem_catchUp other))
  · intro permitted σ η _ _ kept gives only me config store history initially session later
    have initial : (start me config store history).HoldsContent kept := ⟨nofun, initially⟩
    have holds : session.HoldsContent kept := by
      induction later with
      | refl => exact initial
      | tail _ request ih => exact request.staysContent gives only permitted ih
    exact holds.timelines

/-- A history of account 1 that has, in the channel with account 2, an edit. -/
def editHistory : ScriptedHistory where
  me := 1
  logs := ⟨[(⟨1, 2⟩, [(1, (stray .edit).spelling)])]⟩

/-- A session of account 1 over this history that has taken in its first text. -/
def afterEdit : Session MemoryStore ScriptedHistory :=
  leaves (receive (Message.bareText 2 1 3 1003).spelling)
    (start 1 ⟨8, 8, {}⟩ MemoryStore.empty editHistory)

/-- The first text brings the edit into the timeline and into the store. -/
theorem edit_merged_with_text :
    Later (fun _ => True) (start 1 ⟨8, 8, {}⟩ MemoryStore.empty editHistory) afterEdit ∧
      afterEdit.timeline ⟨1, 2⟩ = ⟨[stray .edit, .bareText 2 1 3 1003]⟩ ∧
      afterEdit.store.shelf ⟨1, 2⟩ = [stray .edit, .bareText 2 1 3 1003] ∧
      ¬afterEdit.ContentOnly := by
  have timeline : afterEdit.timeline ⟨1, 2⟩ = ⟨[stray .edit, .bareText 2 1 3 1003]⟩ := by
    decide +kernel
  have shelf : afterEdit.store.shelf ⟨1, 2⟩ = [stray .edit, .bareText 2 1 3 1003] := by
    decide +kernel
  have member : stray .edit ∈ (afterEdit.timeline ⟨1, 2⟩).entries := by
    rw [timeline]
    exact List.mem_cons_self
  refine ⟨.single (.receive _ _), timeline, shelf, fun contentOnly => ?_⟩
  cases contentOnly ⟨1, 2⟩ (stray .edit) member

end Session

end Messenger
