import Messenger.Session.CatchUp

/-!
# Opening conversations and loading older messages

Opening a conversation loads the cached end of its channel.  Loading older
messages fills the window just below the oldest one at hand, from the store
first, and from history where the store has gaps.
-/

namespace Messenger.Session

variable {σ η : Type} [MessageStore σ] [HistorySource η]

/-- Merge cached messages into a timeline: how many were new, and the timeline. -/
def mergeCached (timeline : Timeline) : List Message → Nat × Timeline
  | [] => (0, timeline)
  | message :: rest =>
      let (inserted, timeline) := timeline.insert message
      let (count, timeline) := mergeCached timeline rest
      (if inserted.isNew then count + 1 else count, timeline)

/-- Make the conversation with a peer the active one: load its cached end, catch up
with its channel and forget its unread messages. -/
def openConversation (peer : AccountId) : SessionM σ η SyncOutcome := do
  let channel := Channel.between (← get).me peer
  modify fun session => { session with active := some channel }
  let session ← get
  let cached ← query fun store =>
    MessageStore.before store channel Word.top session.config.window
  let tail := cached.getLast?.bind Message.seq?
  set (session.setTimeline channel (mergeCached (session.timeline channel) cached).2)
  track fun tracker => tracker.anchor channel tail
  let outcome ← catchUp channel
  revise fun list => list.clearUnread peer
  saveConversations
  return outcome

/-- The last number of the first piece of the run from `low` to `high`. -/
def pieceEnd (size low high : UInt64) : UInt64 :=
  min high (Word.addSat low (max size 1 - 1))

theorem toNat_le_pieceEnd {size low high : UInt64} (within : low ≤ high) :
    low.toNat ≤ (pieceEnd size low high).toNat := by
  rw [UInt64.le_iff_toNat_le] at within
  have sum := Word.toNat_addSat low (max size 1 - 1)
  simp only [UInt64.size] at sum
  have bound := low.toNat_lt
  show low.toNat ≤ UInt64.toNat (if high ≤ _ then high else _)
  split <;> omega

/-- What follows the first piece of a run is shorter than the run. -/
theorem shorter_after_pieceEnd {size low high : UInt64} (within : low ≤ high)
    (before : pieceEnd size low high < high) :
    high.toNat - (pieceEnd size low high + 1).toNat < high.toNat - low.toNat := by
  have reaches := @toNat_le_pieceEnd size low high within
  have ahead := UInt64.lt_iff_toNat_lt.1 before
  have limit := high.toNat_lt
  have one : (1 : UInt64).toNat = 1 := rfl
  rw [UInt64.toNat_add]
  omega

/-- The runs of at most `size` numbers, or of one if `size` is zero, that make up the
run from `low` to `high`, ascending. -/
def pieces (size low high : UInt64) : List (UInt64 × UInt64) :=
  if _within : low ≤ high then
    let last := pieceEnd size low high
    if _before : last < high then (low, last) :: pieces size (last + 1) high
    else [(low, last)]
  else []
termination_by high.toNat - low.toNat
decreasing_by exact shorter_after_pieceEnd _within _before

/-- Fetch the numbers from `low` to `high` in one request and merge what belongs to a
channel; the result counts the new messages after `added`. -/
def fetchPiece (channel : Channel) (added : Nat) (low high : UInt64) : SessionM σ η Nat := do
  let session ← get
  let request : HistoryRequest := { peer := channel.other session.me, low, high }
  match Backfill.fetchMessages session.config.sync session.history request with
  | (.error cause, history) =>
      set { session with history }
      throw (.ofFetch cause)
  | (.ok messages, history) =>
      set { session with history }
      let (count, _) ← mergePage channel (Page.ofMessages messages)
      return added + count

/-- Fetch the run from `low` to `high` piece by piece; the first piece that cannot be
fetched ends it. -/
def fetchRun (channel : Channel) (size : UInt64) (added : Nat) (low high : UInt64) :
    SessionM σ η Nat :=
  if _within : low ≤ high then do
    let added ← fetchPiece channel added low (pieceEnd size low high)
    if _before : pieceEnd size low high < high then
      fetchRun channel size added (pieceEnd size low high + 1) high
    else return added
  else return added
termination_by high.toNat - low.toNat
decreasing_by exact shorter_after_pieceEnd _within _before

/-- A run is fetched as the pieces that make it up. -/
theorem fetchRun_eq_foldlM (channel : Channel) (size : UInt64) (added : Nat)
    (low high : UInt64) :
    (fetchRun channel size added low high : SessionM σ η Nat) =
      (pieces size low high).foldlM
        (fun added piece => fetchPiece channel added piece.1 piece.2) added := by
  fun_induction pieces size low high generalizing added with
  | case1 low within last before ih =>
      rw [fetchRun, dif_pos within, List.foldlM_cons]
      refine congrArg _ (funext fun added => ?_)
      rw [dif_pos (show pieceEnd size low high < high from before)]
      exact ih added
  | case2 low within last notBefore =>
      rw [fetchRun, dif_pos within, List.foldlM_cons]
      refine congrArg _ (funext fun added => ?_)
      rw [dif_neg (show ¬pieceEnd size low high < high from notBefore)]
      rfl
  | case3 low outside =>
      rw [fetchRun, dif_neg outside]
      simp

/-- Fill the window below the oldest message of a channel; the result counts the
messages that were added. -/
def loadOlder (channel : Channel) : SessionM σ η Nat := do
  let session ← get
  match (session.timelines.find? channel).bind Timeline.oldest? with
  | none => return 0
  | some oldest =>
      if oldest ≤ 1 then return 0
      else
        let high := oldest - 1
        let low := max (Word.subSat oldest session.config.window) 1
        let cached ← query fun store => MessageStore.range store channel low high
        let (added, timeline) := mergeCached (session.timeline channel) cached
        set (session.setTimeline channel timeline)
        (timeline.gaps low high).foldlM
          (fun added gap =>
            fetchRun channel session.config.sync.pageSize added gap.1 gap.2) added

end Messenger.Session
