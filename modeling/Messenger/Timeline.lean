import Messenger.Message.Basic
import Messenger.Word

/-!
# Timelines

The messages of one channel, oldest first, as merged from the local cache, the
live stream and fetched history.  Two confirmed messages compare by sequence
number; as soon as one of two is pending, their timestamps decide.
-/

namespace Messenger

/-- The messages of one channel. -/
structure Timeline where
  entries : List Message
deriving DecidableEq, Repr, Inhabited

namespace Timeline

/-- What an insertion did. -/
inductive Inserted where
  /-- The message is stored at this index. -/
  | at (index : Nat)
  /-- A message is already there, and the timeline is as before. -/
  | duplicate
deriving DecidableEq, Repr

/-- Whether an insertion stored the message. -/
def Inserted.isNew : Inserted → Bool
  | .at _ => true
  | .duplicate => false

/-- The timeline of a channel without messages. -/
def empty : Timeline :=
  ⟨[]⟩

/-- How an entry compares with an arriving message. -/
def relate (entry arriving : Message) : Ordering :=
  match entry.position, arriving.position with
  | .confirmed a, .confirmed b => compare a b
  | _, _ => compare entry.header.timestamp arriving.header.timestamp

/-- The index for an arriving message, found from the newest entry backward: just
after the first entry before it, and none if an equal entry comes first.
The entries are given newest first. -/
def slot (arriving : Message) : List Message → Option Nat
  | [] => some 0
  | entry :: older =>
      match relate entry arriving with
      | .lt => some (older.length + 1)
      | .eq => none
      | .gt => slot arriving older

/-- Merge a message. -/
def insert (timeline : Timeline) (arriving : Message) : Inserted × Timeline :=
  match slot arriving timeline.entries.reverse with
  | none => (.duplicate, timeline)
  | some index => (.at index, ⟨timeline.entries.insertIdx index arriving⟩)

/-- The sequence numbers of the confirmed entries, in list order. -/
def seqs (timeline : Timeline) : List UInt64 :=
  timeline.entries.filterMap Message.seq?

/-- The entries that await confirmation, in list order. -/
def pending (timeline : Timeline) : List Message :=
  timeline.entries.filter fun entry => entry.position.isPending

/-- The first entry with a sequence number. -/
def find? (timeline : Timeline) (seq : UInt64) : Option Message :=
  timeline.entries.find? fun entry => entry.seq? = some seq

/-- The highest confirmed sequence number. -/
def newest? (timeline : Timeline) : Option UInt64 :=
  timeline.seqs.max?

/-- The lowest confirmed sequence number. -/
def oldest? (timeline : Timeline) : Option UInt64 :=
  timeline.seqs.min?

/-- Whether an entry is pending and was minted between these parties at this time. -/
def awaits (sender receiver : AccountId) (minted : UInt64) (entry : Message) : Bool :=
  entry.position.isPending && entry.header.sender = sender &&
    entry.header.receiver = receiver && entry.header.timestamp = minted

/-- A message under the server's number and time. -/
def confirmedCopy (entry : Message) (seq timestamp : UInt64) : Message :=
  { entry with header := { entry.header with seq, timestamp } }

/-- Settled order: confirmed entries by number, then pending ones by timestamp. -/
def settledBefore (a b : Message) : Bool :=
  match a.position, b.position with
  | .confirmed x, .confirmed y => x ≤ y
  | .confirmed _, .pending _ => true
  | .pending _, .confirmed _ => false
  | .pending x, .pending y => x ≤ y

/-- Give the first pending entry that an acknowledgement names its number and
time, and settle the order.  An entry that already has the number replaces the
pending one.  The result is the confirmed entry, or none if no entry waits. -/
def confirm (timeline : Timeline) (sender receiver : AccountId)
    (minted seq timestamp : UInt64) : Option Message × Timeline :=
  match timeline.entries.findIdx? (awaits sender receiver minted) with
  | none => (none, timeline)
  | some index =>
      match timeline.find? seq with
      | some entry => (some entry, ⟨timeline.entries.eraseIdx index⟩)
      | none =>
          match timeline.entries[index]? with
          | none => (none, timeline)
          | some entry =>
              let copy := confirmedCopy entry seq timestamp
              (some copy, ⟨(timeline.entries.set index copy).mergeSort settledBefore⟩)

/-- The runs between ascending present numbers, from the next expected one up to
`high`. -/
def runsBetween (high : UInt64) (expected : UInt64) : List UInt64 → List (UInt64 × UInt64)
  | [] => if expected ≤ high then [(expected, high)] else []
  | seq :: later =>
      let next := runsBetween high (Word.addSat seq 1) later
      if expected < seq then (expected, seq - 1) :: next else next

/-- The runs of sequence numbers from `low` to `high` that are not loaded, ascending. -/
def gaps (timeline : Timeline) (low high : UInt64) : List (UInt64 × UInt64) :=
  let present := timeline.seqs.filter fun seq => low ≤ seq && seq ≤ high
  runsBetween high low (present.mergeSort fun a b => a ≤ b)

end Timeline

end Messenger
