import Messenger.Session.Basic

/-!
# Catching up with history

Merging messages into a channel, and the backfill cycle that fetches what the
tracker misses.  Only messages of the channel at hand are merged, whatever the
source of history sends.
-/

namespace Messenger.Session

variable {σ η : Type} [MessageStore σ] [HistorySource η]

/-- Merge a message into the timeline of a channel.  A numbered message is saved if
it is new there, and the tracker takes note of it in any case. -/
def merge (channel : Channel) (message : Message) : SessionM σ η Timeline.Inserted := do
  let session ← get
  let (inserted, timeline) := (session.timeline channel).insert message
  set (session.setTimeline channel timeline)
  match message.seq? with
  | none => return inserted
  | some seq =>
      if inserted.isNew then
        let _ ← save channel message
      track fun tracker => (tracker.arrive channel seq).2
      return inserted

/-- The higher of two numbers that may be missing. -/
def higher (a b : Option UInt64) : Option UInt64 :=
  match a, b with
  | none, b => b
  | some a, none => some a
  | some a, some b => some (max a b)

/-- Merge the messages of a channel among the given ones: how many were new after
`merged`, and the highest number among them and `last`. -/
def mergeAll (channel : Channel) (merged : Nat) (last : Option UInt64) :
    List Message → SessionM σ η (Nat × Option UInt64)
  | [] => return (merged, last)
  | message :: rest => do
      let session ← get
      if message.channel session.me ≠ channel then mergeAll channel merged last rest
      else
        let inserted ← merge channel message
        mergeAll channel (if inserted.isNew then merged + 1 else merged)
          (higher last message.seq?) rest

/-- Merge the messages of a page that belong to a channel: how many were new, and the
highest number among them. -/
def mergePage (channel : Channel) (page : Page) : SessionM σ η (Nat × Option UInt64) :=
  mergeAll channel 0 none page.messages

/-- Take note that a channel has no more history to fetch. -/
def finishSync (channel : Channel) : SessionM σ η Unit := do
  track fun tracker => tracker.finish channel
  emit (.syncCompleted channel)

/-- Take in a page of the cycle of a channel; the result counts the new messages. -/
def takePage (channel : Channel) (page : Page) : SessionM σ η Nat := do
  let (count, last) ← mergePage channel page
  match last with
  | none => pure ()
  | some last => track fun tracker => tracker.advance channel last
  if page.complete then finishSync channel
  return count

/-- Run the cycle of a channel from a cursor until the cursor is done or a page
cannot be fetched.  A pause that is too long ends the program in the middle of the
cycle, and the owner is told nothing. -/
def catchUpFrom (channel : Channel) (cursor : Cursor) (merged : Nat) :
    SessionM σ η SyncOutcome := do
  let session ← get
  match _fetched : Backfill.nextPage session.config.sync session.history cursor with
  | (.error (.failed cause), history) =>
      set { session with history }
      emit (.syncFailed channel cause.message)
      return .failed merged cause.message
  | (.error .pauseOverflow, history) =>
      set { session with history }
      throw (.aborted .pauseOverflow)
  | (.ok none, history) =>
      set { session with history }
      return .completed merged
  | (.ok (some (page, moved)), history) =>
      set { session with history }
      let count ← takePage channel page
      catchUpFrom channel moved (merged + count)
termination_by cursor.distance
decreasing_by exact Backfill.distance_lt_of_nextPage _fetched

/-- Run the cycle of a channel if the tracker issues one. -/
def catchUp (channel : Channel) : SessionM σ η SyncOutcome := do
  let session ← get
  let (plan, tracker) := session.tracker.issue channel
  set { session with tracker }
  match plan with
  | none => return .skipped
  | some plan => catchUpFrom channel (plan.cursor (channel.other session.me)) 0

end Messenger.Session
