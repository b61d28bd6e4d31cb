import Messenger.Assoc
import Messenger.History.Request

/-!
# Tracking what is missing

For every channel the tracker knows the newest sequence number at hand and the
smallest one still needed, and decides when a backfill is worth a cycle.  The
number needed has two special values: one before any gap is seen, one when
nothing is missing.
-/

namespace Messenger

/-- The number needed before anything is known to be missing. -/
def unknownSeq : UInt64 := Word.top

/-- The number needed when nothing is missing. -/
def caughtUp : UInt64 := 0

/-- How far a channel is synchronized. -/
inductive SyncPhase where
  | unknown
  | syncing
  | caughtUp
deriving DecidableEq, Repr

/-- What is known of one channel in this session. -/
structure SyncState where
  /-- The smallest sequence number still needed. -/
  next : UInt64 := unknownSeq
  /-- The newest sequence number at hand, fixed from the cached tail and then only raised. -/
  newest : Option UInt64 := none
  /-- A backfill was issued since the last reconnection. -/
  synced : Bool := false
deriving DecidableEq, Repr, Inhabited

namespace SyncState

/-- How far the channel is synchronized. -/
def phase (state : SyncState) : SyncPhase :=
  if state.next = caughtUp then .caughtUp
  else if state.synced then .syncing
  else .unknown

/-- Fix the newest number from the cached tail, unless it is known. -/
def anchor (state : SyncState) (tail : Option UInt64) : SyncState :=
  match state.newest with
  | some _ => state
  | none => { state with newest := some (tail.getD 0) }

/-- Whether an arrival skips numbers beyond the newest one. -/
def skips (state : SyncState) (seq : UInt64) : Bool :=
  Word.addSat (state.newest.getD 0) 1 < seq

/-- Take note of an arrival: skipped numbers are needed from now on. -/
def arrive (state : SyncState) (seq : UInt64) : SyncState :=
  let newest := state.newest.getD 0
  let missing := newest + 1
  let next :=
    if state.skips seq && (state.next = caughtUp || missing < state.next) then missing
    else state.next
  { state with next, newest := if newest < seq then some seq else state.newest }

/-- The numbers from the first one needed to the newest, if any are known to be needed. -/
def wanted? (state : SyncState) : Option (UInt64 × UInt64) :=
  let newest := state.newest.getD 0
  if state.next = unknownSeq || state.next = caughtUp || newest < state.next then none
  else some (state.next, newest)

/-- Take note that everything up to a number is at hand. -/
def advance (state : SyncState) (last : UInt64) : SyncState :=
  let following := Word.addSat last 1
  let next :=
    if state.next ≠ caughtUp && (state.next = unknownSeq || state.next < following) then
      following
    else state.next
  let newest := match state.newest with
    | none => some last
    | some newest => some (if newest < last then last else newest)
  { state with next, newest }

end SyncState

/-- Work that the tracker issues for one cycle. -/
structure SyncPlan where
  channel : Channel
  /-- The first number needed. -/
  low : UInt64
  /-- The newest number known when the plan was made. -/
  high : UInt64
  pageSize : UInt64
deriving DecidableEq, Repr

/-- A cursor for the plan.  Its windows run past the end of the plan: a page ends
the cycle, not a bound. -/
def SyncPlan.cursor (plan : SyncPlan) (peer : AccountId) : Cursor :=
  Cursor.start peer plan.low plan.pageSize

/-- What is known of every channel in this session. -/
structure Tracker where
  channels : Assoc Channel SyncState
  pageSize : UInt64
deriving DecidableEq, Repr

namespace Tracker

/-- A tracker that knows no channel; a page size of zero counts as one. -/
def start (pageSize : UInt64) : Tracker :=
  { channels := .empty, pageSize := max pageSize 1 }

/-- What is known of a channel. -/
def state? (tracker : Tracker) (channel : Channel) : Option SyncState :=
  tracker.channels.find? channel

/-- What is known of a channel, the state of a new channel if nothing is. -/
def state (tracker : Tracker) (channel : Channel) : SyncState :=
  (tracker.state? channel).getD {}

/-- Replace what is known of a channel. -/
def setState (tracker : Tracker) (channel : Channel) (state : SyncState) : Tracker :=
  { tracker with channels := tracker.channels.insert channel state }

/-- Begin to track a channel, its newest number fixed from the cached tail. -/
def anchor (tracker : Tracker) (channel : Channel) (tail : Option UInt64) : Tracker :=
  tracker.setState channel ((tracker.state channel).anchor tail)

/-- Whether the newest number of a channel is known. -/
def isAnchored (tracker : Tracker) (channel : Channel) : Bool :=
  (tracker.state channel).newest.isSome

/-- Take note of an arrival.  The result says whether it skipped numbers. -/
def arrive (tracker : Tracker) (channel : Channel) (seq : UInt64) : Bool × Tracker :=
  let state := (tracker.state channel).anchor none
  (state.skips seq, tracker.setState channel (state.arrive seq))

/-- Issue the cycle of a channel, at most one until the next reconnection.  A cycle
without anything to fetch is used up too. -/
def issue (tracker : Tracker) (channel : Channel) : Option SyncPlan × Tracker :=
  let state := (tracker.state channel).anchor none
  let issued := tracker.setState channel { state with synced := true }
  if state.synced then (none, issued)
  else
    let plan := state.wanted?.map fun (low, high) =>
      { channel, low, high, pageSize := tracker.pageSize : SyncPlan }
    (plan, issued)

/-- Take note that everything up to a number is at hand, in a channel that is tracked. -/
def advance (tracker : Tracker) (channel : Channel) (last : UInt64) : Tracker :=
  match tracker.state? channel with
  | none => tracker
  | some state => tracker.setState channel (state.advance last)

/-- Take note that nothing is missing. -/
def finish (tracker : Tracker) (channel : Channel) : Tracker :=
  tracker.setState channel { tracker.state channel with next := caughtUp }

/-- Allow every channel another cycle. -/
def rearm (tracker : Tracker) : Tracker :=
  { tracker with
    channels := tracker.channels.mapValues fun state => { state with synced := false } }

/-- How far a channel is synchronized. -/
def phase (tracker : Tracker) (channel : Channel) : SyncPhase :=
  match tracker.state? channel with
  | none => .unknown
  | some state => state.phase

/-- The channels that are tracked, ascending. -/
def known (tracker : Tracker) : List Channel :=
  tracker.channels.keys.mergeSort Channel.ble

end Tracker

end Messenger
