import Messenger.Proofs.History.Drive
import Messenger.Proofs.Session.Turns

/-!
# Cycles against any source

No answer of a source keeps a cycle going.  How many windows it asks for is bounded by where it
begins and by the size of its windows, and what these are is known beforehand.
-/

namespace Messenger.Session

variable {σ η : Type} [MessageStore σ] [HistorySource η]

/-- Whatever a source answers, driving a cursor ends.  The windows that are asked for begin at the
cursor's number, adjoin and end at the largest word at the latest; none is open-ended, and there are
no more of them than there are from that number up to the highest one.  Each is sent as often as
attempts are made, and gives a page unless it fails and ends the drive.  A cycle of a session takes
in these pages and asks for nothing else, whatever the session is. -/
theorem cycle_ends_against_any_source (config : SyncConfig) (recorded : Recorded η)
    (peer : AccountId) (low pageSize : UInt64) :
    let first := max low.toNat 1
    let size := max pageSize.toNat 1
    let bound := max 1 ((highestSeq.toNat + 1 - first + size - 1) / size)
    let cursor := Cursor.start peer low pageSize
    ∃ asked pages failure last after,
      Backfill.allPages config recorded cursor = ((pages, failure), last, after) ∧
      Backfill.Drives config cursor recorded asked ((pages, failure), last, after) ∧
      asked.length ≤ bound ∧ asked.length = pages.length + failure.toList.length ∧
      (∀ before request, asked[before]? = some request →
        request.peer = peer ∧ request.low.toNat = first + before * size ∧
        request.high.toNat = min (first + (before + 1) * size - 1) (UInt64.size - 1) ∧
        1 ≤ request.low ∧ request.low ≤ request.high ∧ request.isOpenEnded = false) ∧
      asked.IsChain (fun window next => next.low.toNat = window.high.toNat + 1) ∧
      asked.Pairwise (fun window later => window.high < later.low) ∧
      (∃ counts : List Nat, counts.length = asked.length ∧
        (∀ count ∈ counts, 0 < count ∧ count ≤ config.retry.attempts) ∧
        after.requests =
          recorded.requests ++ (List.zipWith List.replicate counts asked).flatten) ∧
      ∀ (channel : Channel) (merged : Nat) (session : Session σ (Recorded η)),
        let posed := { session with
          config := { session.config with sync := config }, history := recorded }
        let cycle := catchUpFrom channel cursor merged posed
        ∃ taken, Turns channel cursor merged posed taken cycle ∧ taken <+: pages ∧
          ∀ left, (∃ outcome, cycle = .ok outcome left) ∨
              cycle = .error (.aborted .pauseOverflow) left →
            taken = pages ∧ left.history = after := by
  intro first size bound cursor
  have start : cursor.next.toNat = first := UInt64.toNat_max low 1
  have width : cursor.pageSize.toNat = size := UInt64.toNat_max pageSize 1
  have firstPos : 0 < first := Nat.le_max_right ..
  have sizePos : 0 < size := Nat.le_max_right ..
  obtain ⟨asked, drives⟩ := Backfill.exists_drives config recorded cursor
  rcases ended : Backfill.allPages config recorded cursor with ⟨⟨pages, failure⟩, last, after⟩
  rw [ended] at drives
  have isWindow : ∀ {before : Nat} {request : HistoryRequest}, asked[before]? = some request →
      request.IsWindow peer first size before := by
    intro before request asks
    have window := (drives.isWindow_of_getElem? asks).1
    rwa [start, width] at window
  have length := drives.length_asked_le
  simp only [start, width] at length
  refine ⟨asked, pages, failure, last, after, rfl, drives, length, drives.length_asked,
    fun before request asks => ?_, List.isChain_iff_getElem.mpr fun before among => ?_,
    List.pairwise_iff_getElem.mpr fun before later _ _ order => ?_, drives.requests_eq,
    fun channel merged session => ?_⟩
  · have window := isWindow asks
    exact ⟨congrArg Prod.fst window, window.low_eq, window.high_eq,
      window.proper firstPos sizePos⟩
  · exact (isWindow (List.getElem?_eq_getElem _)).low_eq_succ_high
      (isWindow (List.getElem?_eq_getElem among)) firstPos
  · exact (isWindow (List.getElem?_eq_getElem _)).high_lt_low
      (isWindow (List.getElem?_eq_getElem _)) firstPos order
  · intro posed cycle
    have given : Backfill.pagesFrom posed.config.sync posed.history cursor = pages :=
      congrArg (fun result => result.1.1) ended
    obtain ⟨taken, turns⟩ := exists_turns channel cursor merged posed
    refine ⟨taken, turns, given ▸ turns.pages_isPrefix, fun left seenThrough => ?_⟩
    obtain ⟨whole, history⟩ := turns.eq_of_ended seenThrough
    exact ⟨whole.trans given, history.trans (congrArg (·.2.2) ended)⟩

end Messenger.Session
