import Messenger.History.Source

/-!
# How often and when to try again

An attempt that fails is repeated after a delay that doubles from attempt to
attempt up to a greatest delay.  Half of the delay again is added at random, so
that clients do not return together.
-/

namespace Messenger

/-- How often a fetch is tried, and how long to wait in between. -/
structure RetryPolicy where
  maxAttempts : UInt32 := 5
  baseDelay : Duration := Duration.ofMillis 200
  maxDelay : Duration := Duration.ofSeconds 5
deriving DecidableEq, Repr, Inhabited

namespace RetryPolicy

/-- The attempts that are made: at least one. -/
def attempts (policy : RetryPolicy) : Nat :=
  max policy.maxAttempts.toNat 1

theorem attempts_pos (policy : RetryPolicy) : 0 < policy.attempts :=
  Nat.le_max_right ..

/-- The factor of the delay before retry number `attempt`, counted from one.  It
doubles with each retry while it has 32 bits. -/
def factor (attempt : UInt32) : Nat :=
  let doublings := attempt.toNat - 1
  if doublings < 32 then 1 <<< doublings else UInt32.size - 1

/-- The delay before retry number `attempt`, without the random part. -/
def backoff (policy : RetryPolicy) (attempt : UInt32) : Duration :=
  let scaled := (policy.baseDelay.scaled? (factor attempt)).getD policy.maxDelay
  scaled.shorter policy.maxDelay

/-- The longest random part of the delay, in milliseconds: half of its milliseconds, of which
64 bits are counted. -/
def spread (policy : RetryPolicy) (attempt : UInt32) : Nat :=
  (policy.backoff attempt).millis % UInt64.size / 2

/-- The delay before retry number `attempt` for a random draw, unless it is too long. -/
def delay? (policy : RetryPolicy) (attempt : UInt32) (draw : Nat) : Option Duration :=
  Duration.ofNanos? ((policy.backoff attempt).nanoseconds +
    min draw (policy.spread attempt) * Duration.nanosPerMilli)

/-- Whether attempts are left, but the delay before the next one is too long. -/
def overflows (policy : RetryPolicy) (left draw : Nat) : Bool :=
  0 < left && (policy.delay? (UInt32.ofNat (policy.attempts - left)) draw).isNone

end RetryPolicy

/-- How history is fetched. -/
structure SyncConfig where
  /-- The numbers in a window. -/
  pageSize : UInt64 := defaultPageSize
  /-- How long one attempt may take. -/
  fetchTimeout : Duration := Duration.ofSeconds 10
  retry : RetryPolicy := {}
deriving DecidableEq, Repr, Inhabited

end Messenger
