import Messenger.Proofs.Frame.Composing
import Messenger.Proofs.History.Budget
import Messenger.Proofs.Timeline.Insertion

/-!
# Pages of a scripted history

A scripted history that neither stalls nor fails answers the request of a cursor
with the messages of its log whose numbers are in the window of the cursor.  The page
is complete if it is empty, or if the history sends the end sentinel and no number of
the log is beyond the window.
-/

namespace Messenger

/-! ## Messages that a history serves -/

namespace Message

theorem kind_ne_sync_of_content {message : Message}
    (content : message.header.kind.isContent = true) : message.header.kind ≠ .sync := by
  intro sync
  rw [sync] at content
  cases content

theorem endsHistory_of_ne_sync {message : Message} (other : message.header.kind ≠ .sync) :
    message.endsHistory = false := by
  unfold endsHistory
  rw [decide_eq_false other]
  rfl

/-- The report that no history remains says so. -/
theorem of_historyEnd_eq_ok {sender receiver : AccountId} {timestamp : UInt64}
    {ending : Message} (composed : historyEnd sender receiver timestamp = .ok ending) :
    ending.header.kind = .sync ∧ ending.endsHistory = true := by
  have drafted := Draft.compose_eq (.historyEnd sender receiver timestamp)
  obtain ⟨-, rfl⟩ := Contents.compose_eq_ok_iff.mp (drafted.symm.trans composed)
  exact ⟨rfl, rfl⟩

/-- Between accounts of 46 bits, the end of the history can be reported. -/
theorem exists_historyEnd {sender receiver : AccountId} (senderFits : sender.toNat < 1 <<< 46)
    (receiverFits : receiver.toNat < 1 <<< 46) :
    ∃ ending frame, historyEnd sender receiver 0 = .ok ending ∧ ending.encode = .ok frame := by
  let draft : Draft := .historyEnd sender receiver 0
  have fits : draft.contents.Fits := Contents.fits_iff.mpr
    ⟨(by decide : 8 ≤ 16383), Nat.zero_le _, senderFits, receiverFits,
      (by decide : 0 < 2 ^ 18), (by decide : 0 < 2 ^ 46), (by decide : 0 < 2 ^ 50)⟩
  have composed : draft.compose = .ok draft.contents.message :=
    (Draft.compose_eq draft).trans (Contents.compose_eq_ok_iff.mpr ⟨fits, rfl⟩)
  exact ⟨_, _, composed, encode_eq_ok_iff.mpr ⟨fits.wellFormed, rfl⟩⟩

end Message

namespace Page

theorem ofMessages_of_ne_sync {messages : List Message}
    (others : ∀ message ∈ messages, message.header.kind ≠ .sync) :
    ofMessages messages = ⟨messages, messages.isEmpty⟩ := by
  have none : messages.any Message.endsHistory = false := by
    rw [List.any_eq_false]
    intro message member
    simp [Message.endsHistory_of_ne_sync (others message member)]
  have all : messages.filter (fun message => message.header.kind ≠ .sync) = messages := by
    rw [List.filter_eq_self]
    intro message member
    simpa using others message member
  unfold ofMessages
  rw [none, all, Bool.or_false]

theorem ofMessages_of_ending {messages : List Message} {ending : Message}
    (content : ∀ message ∈ messages, message.header.kind.isContent = true)
    (sync : ending.header.kind = .sync) (ends : ending.endsHistory = true) :
    ofMessages (messages ++ [ending]) = ⟨messages, true⟩ := by
  have all : (messages ++ [ending]).filter (fun message => message.header.kind ≠ .sync) =
      messages := by
    rw [List.filter_append, List.filter_eq_self.mpr, List.filter_cons_of_neg, List.filter_nil,
      List.append_nil]
    · simp [sync]
    · intro message member
      simpa using Message.kind_ne_sync_of_content (content message member)
  unfold ofMessages
  rw [all]
  simp [ends]

end Page

namespace Backfill

/-- The frames of well-formed messages are decoded to these messages. -/
theorem decodeAll_spelling {messages : List Message}
    (wellFormed : ∀ message ∈ messages, message.WellFormed) :
    decodeAll (messages.map Message.spelling) = .ok messages := by
  refine Except.mapM_map_eq_ok fun message member => ?_
  rw [Message.decode_spelling (wellFormed message member)]

/-- The messages of a log with numbers from `low` on, `size` numbers in all. -/
def window (log : List Message) (low size : Nat) : List Message :=
  log.filter fun message =>
    low ≤ message.header.seq.toNat && message.header.seq.toNat < low + size

theorem mem_window {log : List Message} {low size : Nat} {message : Message} :
    message ∈ window log low size ↔
      message ∈ log ∧ low ≤ message.header.seq.toNat ∧ message.header.seq.toNat < low + size := by
  simp [window]

/-- Behind zero, a window has only numbered messages. -/
theorem seq_ne_zero_of_mem_window {log : List Message} {low size : Nat} (lowPos : 0 < low)
    {message : Message} (member : message ∈ window log low size) : message.header.seq ≠ 0 := by
  intro unnumbered
  have above := (mem_window.mp member).2.1
  rw [unnumbered, UInt64.toNat_zero] at above
  omega

/-- The page that a history serves for a window of its log. -/
def page (sentinel : Bool) (log : List Message) (low size : Nat) : Page where
  messages := window log low size
  complete := (window log low size).isEmpty ||
    sentinel && log.all fun message => message.header.seq.toNat < low + size

end Backfill

namespace Cursor

theorem max_one_of_pos {size : UInt64} (positive : 0 < size) : max size 1 = size := by
  have atLeast : 1 ≤ size := UInt64.le_iff_toNat_le.mpr (UInt64.lt_iff_toNat_lt.mp positive)
  show (if size ≤ 1 then 1 else size) = size
  split
  · next small => exact UInt64.le_antisymm atLeast small
  · rfl

/-- The last number that a window asks for. -/
theorem le_lastAsked_iff {peer : AccountId} {low size : UInt64} (lowPos : 0 < low)
    (sizePos : 0 < size) (seq : UInt64) :
    seq ≤ ScriptedHistory.lastAsked (.window peer low size) ↔
      seq.toNat < low.toNat + size.toNat := by
  have sum := Word.toNat_addSat low (size - 1)
  have bound := seq.toNat_lt
  simp only [UInt64.size] at sum
  have last := Word.toNat_pred_of_pos sizePos
  have positive := max_one_of_pos sizePos
  rw [UInt64.lt_iff_toNat_lt, UInt64.toNat_zero] at lowPos sizePos
  have closed : (HistoryRequest.window peer low size).isOpenEnded = false := by
    unfold HistoryRequest.isOpenEnded HistoryRequest.window
    rw [decide_eq_false_iff_not, ← UInt64.toNat_inj, UInt64.toNat_zero, positive]
    dsimp only
    omega
  unfold ScriptedHistory.lastAsked
  rw [closed, UInt64.le_iff_toNat_le]
  unfold HistoryRequest.window
  simp only [Bool.false_eq_true, if_false, positive]
  omega

end Cursor

namespace ScriptedHistory

/-- The history after one more request. -/
def asked (history : ScriptedHistory) (request : HistoryRequest) : ScriptedHistory :=
  { history with requests := history.requests ++ [request] }

/-- A history serves well-formed content of a channel, and neither stalls nor fails. -/
structure Serves (history : ScriptedHistory) (channel : Channel) (log : List Message) : Prop where
  prompt : history.stalls = 0
  reliable : history.failures = 0
  spelled : history.log channel = log.map fun message => (message.header.seq, message.spelling)
  ascending : log.Pairwise fun a b => a.header.seq < b.header.seq
  wellFormed : ∀ message ∈ log, message.WellFormed
  content : ∀ message ∈ log, message.header.kind.isContent = true
  belongs : ∀ message ∈ log, message.channel history.me = channel

variable {history : ScriptedHistory} {channel : Channel} {log : List Message}

theorem Serves.asked (serves : history.Serves channel log) (request : HistoryRequest) :
    (history.asked request).Serves channel log :=
  ⟨serves.prompt, serves.reliable, serves.spelled, serves.ascending, serves.wellFormed,
    serves.content, serves.belongs⟩

theorem Serves.answer_eq (serves : history.Serves channel log) (request : HistoryRequest) :
    HistorySource.answer history request =
      (Answer.atOnce (history.lookUp request), history.asked request) := by
  change history.answer request = _
  unfold answer ScriptedHistory.asked
  simp only [serves.prompt, serves.reliable, Nat.lt_irrefl, if_false]
  rfl

/-- The last entry of an ascending log is not beyond a number exactly if no entry is. -/
theorem tail_le_iff (ascending : log.Pairwise fun a b => a.header.seq < b.header.seq)
    (last : UInt64) :
    (log.getLast?.map fun message => message.header.seq).getD 0 ≤ last ↔
      ∀ message ∈ log, message.header.seq ≤ last := by
  rcases List.eq_nil_or_concat log with rfl | ⟨earlier, newest, rfl⟩
  · simp
  · rw [List.concat_eq_append] at ascending ⊢
    rw [List.getLast?_concat]
    constructor
    · intro within message member
      rcases List.mem_append.mp member with before | is
      · have below := (List.pairwise_append.mp ascending).2.2 message before newest
          List.mem_cons_self
        exact UInt64.le_trans (UInt64.le_of_lt below) within
      · exact List.mem_singleton.mp is ▸ within
    · intro all
      exact all newest (List.mem_append_right _ List.mem_cons_self)

section Asking

variable {config : SyncConfig} {peer : AccountId} {low size : UInt64}

/-- The frames of a log in a window are those of the messages in the window. -/
theorem frames_window (peer : AccountId)
    (spelled : history.log channel =
      log.map fun message => (message.header.seq, message.spelling))
    (lowPos : 0 < low) (sizePos : 0 < size) :
    ((history.log channel).filter fun entry =>
        low ≤ entry.1 && entry.1 ≤ lastAsked (.window peer low size)).map Prod.snd =
      (Backfill.window log low.toNat size.toNat).map Message.spelling := by
  rw [spelled, List.filter_map, List.map_map]
  unfold Backfill.window
  congr 1
  apply List.filter_congr
  intro message _
  simp [Cursor.le_lastAsked_iff lowPos sizePos, UInt64.le_iff_toNat_le]

/-- What is found in the log for a window, with the end sentinel if it is due. -/
theorem Serves.lookUp_window (serves : history.Serves (.between history.me peer) log)
    (lowPos : 0 < low) (sizePos : 0 < size) :
    history.lookUp (.window peer low size) =
      if history.sentinel && !(Backfill.window log low.toNat size.toNat).isEmpty &&
          log.all fun message => message.header.seq.toNat < low.toNat + size.toNat then
        (((Message.historyEnd peer history.me 0).bind Message.encode).mapError
            HistoryError.frame).map fun ending =>
          (Backfill.window log low.toNat size.toNat).map Message.spelling ++ [ending]
      else .ok ((Backfill.window log low.toNat size.toNat).map Message.spelling) := by
  have found := frames_window peer serves.spelled lowPos sizePos
  have tail : (((history.log (.between history.me peer)).getLast?.map Prod.fst).getD 0 ≤
        lastAsked (.window peer low size)) ↔
      (log.all fun message => message.header.seq.toNat < low.toNat + size.toNat) = true := by
    rw [serves.spelled, List.getLast?_map, Option.map_map]
    refine (tail_le_iff serves.ascending _).trans ?_
    simp [Cursor.le_lastAsked_iff lowPos sizePos]
  have lowEq : (HistoryRequest.window peer low size).low = low := rfl
  have peerEq : (HistoryRequest.window peer low size).peer = peer := rfl
  unfold lookUp
  simp only [lowEq, peerEq, found, tail, Bool.decide_eq_true, List.isEmpty_map]
  congr 1
  cases (Message.historyEnd peer history.me 0).bind Message.encode <;> rfl

/-- An answer that is accepted ends the first attempt. -/
theorem Serves.fetchMessages_of_found (serves : history.Serves channel log)
    {request : HistoryRequest} {frames : List Octets} {messages : List Message}
    (found : history.lookUp request = .ok frames)
    (decoded : Backfill.decodeAll frames = .ok messages) :
    Backfill.fetchMessages config history request = (.ok messages, history.asked request) := by
  have answered := serves.answer_eq request
  have yields : (HistorySource.answer history request).1.Yields config.fetchTimeout messages := by
    rw [answered, found]
    exact Answer.yields_atOnce (Backfill.decodeAll_eq_ok_iff.mp decoded)
  rw [Backfill.fetchMessages_of_yields yields, answered]

/-- A request that finds an error fails at every attempt. -/
theorem Serves.retry_of_refused {α : Type} {request : HistoryRequest} {cause : HistoryError}
    (serves : history.Serves channel log) (refused : history.lookUp request = .error cause)
    (accept : List Octets → Except HistoryError α) (left : Nat) (last : String) :
    ∃ cause after, Backfill.retry config request accept left last history =
      (.error cause, after) := by
  induction left generalizing history last with
  | zero => exact ⟨_, _, rfl⟩
  | succ left ih =>
      rw [Backfill.retry, serves.answer_eq request]
      simp only [Answer.within_atOnce, refused, Except.bind]
      split
      · exact ⟨_, _, rfl⟩
      · exact ih (serves.asked request) refused _

/-- A history that serves a log answers with what the log has in a window, unless it cannot write
the end sentinel. -/
theorem Serves.fetchMessages_cases (config : SyncConfig)
    (serves : history.Serves (.between history.me peer) log) (lowPos : 0 < low)
    (sizePos : 0 < size) :
    (∃ messages, Backfill.fetchMessages config history (.window peer low size) =
        (.ok messages, history.asked (.window peer low size)) ∧
      Page.ofMessages messages = Backfill.page history.sentinel log low.toNat size.toNat) ∨
      (∃ cause, (Message.historyEnd peer history.me 0).bind Message.encode = .error cause) ∧
        ∃ cause after, Backfill.fetchMessages config history (.window peer low size) =
          (.error cause, after) := by
  have found := serves.lookUp_window lowPos sizePos
  have part : ∀ message ∈ Backfill.window log low.toNat size.toNat, message ∈ log :=
    fun message member => (Backfill.mem_window.mp member).1
  have wellFormed := fun message member => serves.wellFormed message (part message member)
  have content := fun message member => serves.content message (part message member)
  split at found
  · next due =>
      simp only [Bool.and_eq_true] at due
      obtain ⟨⟨sentinel, nonempty⟩, last⟩ := due
      cases ending : (Message.historyEnd peer history.me 0).bind Message.encode with
      | error cause =>
          rw [ending] at found
          exact .inr ⟨⟨cause, rfl⟩,
            serves.retry_of_refused found Backfill.decodeAll config.retry.attempts ""⟩
      | ok frame =>
          rw [ending] at found
          obtain ⟨message, composed, encoded⟩ := Except.bind_eq_ok_iff.mp ending
          obtain ⟨sync, ends⟩ := Message.of_historyEnd_eq_ok composed
          obtain ⟨whole, rfl⟩ := Message.encode_eq_ok_iff.mp encoded
          have decoded : Backfill.decodeAll _ = _ :=
            Backfill.decodeAll_spelling (List.forall_mem_append.mpr
              ⟨wellFormed, List.forall_mem_singleton.mpr whole⟩)
          rw [List.map_append, List.map_singleton] at decoded
          refine .inl ⟨_, serves.fetchMessages_of_found found decoded, ?_⟩
          rw [Page.ofMessages_of_ending content sync ends]
          simp [Backfill.page, sentinel, last]
  · next early =>
      refine .inl ⟨_, serves.fetchMessages_of_found found
        (Backfill.decodeAll_spelling wellFormed), ?_⟩
      rw [Page.ofMessages_of_ne_sync fun message member =>
        Message.kind_ne_sync_of_content (content message member)]
      simp only [Backfill.page, Page.mk.injEq, true_and]
      cases none : (Backfill.window log low.toNat size.toNat).isEmpty with
      | true => rfl
      | false => simpa [none] using early

/-- A history that serves a log gives the page of the window of a cursor, unless it cannot write
the end sentinel. -/
theorem Serves.nextPage_cases (config : SyncConfig) {cursor : Cursor} (active : cursor.done = false)
    (serves : history.Serves (.between history.me cursor.peer) log) (nextPos : 0 < cursor.next) :
    let page := Backfill.page history.sentinel log cursor.next.toNat cursor.pageSize.toNat
    Backfill.nextPage config history cursor = (.ok (some (page, cursor.advance page)),
        history.asked (.window cursor.peer cursor.next cursor.pageSize)) ∨
      (∃ cause, (Message.historyEnd cursor.peer history.me 0).bind Message.encode =
          .error cause) ∧
        ∃ cause after, Backfill.nextPage config history cursor = (.error cause, after) := by
  intro page
  rcases serves.fetchMessages_cases config nextPos cursor.pageSize_pos with
    ⟨messages, fetched, same⟩ | ⟨unwritable, cause, after, failed⟩
  · have paged := Backfill.nextPage_of_fetched active fetched
    rw [same] at paged
    exact .inl paged
  · exact .inr ⟨unwritable, cause, after, Backfill.nextPage_of_failed active failed⟩

end Asking

end ScriptedHistory

end Messenger
