import Messenger.Duration
import Messenger.History.Request
import Messenger.Store.Basic

/-!
# Sources of history

A source answers a request with frames, oldest first, after some time.  What it
answers may depend on what it was asked before.
-/

namespace Messenger

/-- Why history cannot be had. -/
inductive HistoryError where
  /-- A frame cannot be written or read. -/
  | frame (cause : FrameError)
  /-- The source reports a failure. -/
  | fetch (reason : String)
  /-- The source does not answer in time. -/
  | timeout (limit : Duration)
  /-- Every attempt at one page failed. -/
  | exhausted (attempts : Nat) (last : String)
  /-- The store fails. -/
  | store (cause : StoreError)
deriving DecidableEq, Repr

/-- The cause in words. -/
def HistoryError.message : HistoryError → String
  | .frame cause => "codec error: " ++ cause.message
  | .fetch reason => "history fetch failed: " ++ reason
  | .timeout limit => "history fetch timed out after " ++ limit.render
  | .exhausted attempts last =>
      "history fetch failed after " ++ toString attempts ++ " attempts: " ++ last
  | .store cause => "store error: " ++ cause.message

/-- Why a fetch comes to nothing. -/
inductive FetchError where
  /-- History cannot be had, which is told to whoever asked for it. -/
  | failed (cause : HistoryError)
  /-- No duration is as long as the pause before the next attempt.  The program ends here. -/
  | pauseOverflow
deriving DecidableEq, Repr

/-- What a source answers, and after how long. -/
structure Answer where
  delay : Duration
  frames : Except HistoryError (List Octets)
  /-- The number drawn at random for the pause that follows if the attempt fails. -/
  draw : Nat := UInt64.size - 1

/-- An answer that takes no time. -/
def Answer.atOnce (frames : Except HistoryError (List Octets)) : Answer where
  delay := ⟨0, by decide⟩
  frames

/-- What a caller gets who waits no longer than a limit.  Waiting ends with a whole
millisecond, and an answer in the last one is in time. -/
def Answer.within (answer : Answer) (limit : Duration) : Except HistoryError (List Octets) :=
  if answer.delay.ticks ≤ limit.ticks then answer.frames
  else .error (.timeout limit)

/-- Sources of history. -/
class HistorySource (η : Type) where
  /-- Answer a request. -/
  answer (source : η) (request : HistoryRequest) : Answer × η

end Messenger
