import Messenger.Message.Payload
import Messenger.Word

/-!
# Requests for history and their answers

A backfill asks for the history of a channel in windows of sequence numbers,
oldest first.  The answer to a request is a page.  A page that is empty, or
that carries the end sentinel, says that nothing more follows.
-/

namespace Messenger

/-- The highest sequence number that a frame can carry. -/
def highestSeq : UInt64 := 1125899906842623

/-- The numbers in a window unless another size is configured. -/
def defaultPageSize : UInt64 := 50

/-- One request to the history endpoint. -/
structure HistoryRequest where
  peer : AccountId
  low : UInt64
  /-- The last number asked for; zero lets the server choose. -/
  high : UInt64
deriving DecidableEq, Repr, Inhabited

namespace HistoryRequest

/-- The window of `size` numbers from `low`; a size of zero counts as one. -/
def window (peer : AccountId) (low size : UInt64) : HistoryRequest :=
  { peer, low, high := Word.addSat low (max size 1 - 1) }

/-- Everything from `low` on, in windows that the server chooses. -/
def openEnded (peer : AccountId) (low : UInt64) : HistoryRequest :=
  { peer, low, high := 0 }

/-- Whether the server chooses where the answer ends. -/
def isOpenEnded (request : HistoryRequest) : Bool :=
  request.high = 0

end HistoryRequest

/-- One fetched page of history. -/
structure Page where
  /-- The messages in the order in which they came. -/
  messages : List Message
  /-- Nothing more follows. -/
  complete : Bool
deriving DecidableEq, Repr

namespace Page

/-- Separate the reports on remaining history from the messages. -/
def ofMessages (received : List Message) : Page :=
  { messages := received.filter fun message => message.header.kind ≠ .sync
    complete := received.isEmpty || received.any Message.endsHistory }

/-- The highest sequence number on the page. -/
def lastSeq? (page : Page) : Option UInt64 :=
  (page.messages.filterMap Message.seq?).max?

end Page

/-- Where a backfill stands. -/
structure Cursor where
  peer : AccountId
  next : UInt64
  pageSize : UInt64
  done : Bool
  pageSize_pos : 0 < pageSize
deriving DecidableEq, Repr

namespace Cursor

/-- A cursor at a number; zero counts as one, also as a page size. -/
def start (peer : AccountId) (low pageSize : UInt64) : Cursor :=
  { peer
    next := max low 1
    pageSize := max pageSize 1
    done := false
    pageSize_pos := by
      show (0 : UInt64) < if pageSize ≤ 1 then 1 else pageSize
      split
      · decide
      · next above => exact UInt64.lt_trans (by decide) (UInt64.not_le.1 above) }

/-- The request for the current window, none once done. -/
def request? (cursor : Cursor) : Option HistoryRequest :=
  if cursor.done then none
  else some (HistoryRequest.window cursor.peer cursor.next cursor.pageSize)

/-- Move past a fetched page.  The cursor is done after a complete page, and when no
number is left that a frame could carry. -/
def advance (cursor : Cursor) (page : Page) : Cursor :=
  if page.complete then { cursor with done := true }
  else
    let next := Word.addSat cursor.next cursor.pageSize
    { cursor with next, done := cursor.done || highestSeq < next }

/-- How far a cursor can still go. -/
def distance (cursor : Cursor) : Nat :=
  if cursor.done then 0 else UInt64.size - cursor.next.toNat

/-- A cursor that has a request gets nearer to its end with every page. -/
theorem distance_advance_lt {cursor : Cursor} {request : HistoryRequest}
    (asks : cursor.request? = some request) (page : Page) :
    (cursor.advance page).distance < cursor.distance := by
  have bound := cursor.next.toNat_lt
  have active : cursor.done = false := by
    unfold request? at asks
    split at asks
    · simp at asks
    · next inactive => simpa using inactive
  unfold advance
  split
  · simp only [distance, active, UInt64.size, if_true, Bool.false_eq_true, if_false]
    omega
  · have positive : 0 < cursor.pageSize.toNat := by
      simpa [UInt64.lt_iff_toNat_lt] using cursor.pageSize_pos
    have sum := Word.toNat_addSat cursor.next cursor.pageSize
    simp only [UInt64.size] at sum
    simp only [distance, active, UInt64.size, Bool.false_or, Bool.false_eq_true, if_false]
    split
    · omega
    · next within =>
        simp only [decide_eq_true_eq, UInt64.not_lt, UInt64.le_iff_toNat_le] at within
        have limit : highestSeq.toNat = 1125899906842623 := rfl
        omega

end Cursor

end Messenger
