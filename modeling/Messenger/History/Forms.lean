import Messenger.History.Retry
import Messenger.Json.Form

/-!
# History requests and settings in JSON
-/

namespace Messenger

instance : JsonForm Duration where
  ofJson value := do
    let [seconds, nanos] ← Json.fields? ["secs", "nanos"] true value | none
    let seconds ← Json.required? (Json.natural? UInt64.size) seconds
    let nanos ← Json.required? (Json.natural? UInt32.size) nanos
    Duration.ofParts? seconds nanos
  toText d := Json.writeObject
    [("secs", toString d.seconds), ("nanos", toString d.subseconds)]

instance : JsonForm HistoryRequest where
  ofJson value := do
    let [peer, low, high] ←
      Json.fields? ["peer_id", "from_seq_num", "to_seq_num"] false value | none
    return {
      peer := ← Json.required? JsonForm.ofJson peer
      low := ← Json.required? JsonForm.ofJson low
      high := ← Json.required? JsonForm.ofJson high }
  toText request := Json.writeObject
    [ ("peer_id", JsonForm.toText request.peer),
      ("from_seq_num", JsonForm.toText request.low),
      ("to_seq_num", JsonForm.toText request.high) ]

instance : JsonForm RetryPolicy where
  ofJson value := do
    let default : RetryPolicy := {}
    let [attempts, base, longest] ←
      Json.fields? ["max_attempts", "base_delay", "max_delay"] false value | none
    return {
      maxAttempts := ← Json.defaulted? JsonForm.ofJson default.maxAttempts attempts
      baseDelay := ← Json.defaulted? JsonForm.ofJson default.baseDelay base
      maxDelay := ← Json.defaulted? JsonForm.ofJson default.maxDelay longest }
  toText policy := Json.writeObject
    [ ("max_attempts", JsonForm.toText policy.maxAttempts),
      ("base_delay", JsonForm.toText policy.baseDelay),
      ("max_delay", JsonForm.toText policy.maxDelay) ]

instance : JsonForm SyncConfig where
  ofJson value := do
    let default : SyncConfig := {}
    let [pageSize, timeout, retry] ←
      Json.fields? ["page_size", "fetch_timeout", "retry"] false value | none
    return {
      pageSize := ← Json.defaulted? JsonForm.ofJson default.pageSize pageSize
      fetchTimeout := ← Json.defaulted? JsonForm.ofJson default.fetchTimeout timeout
      retry := ← Json.defaulted? JsonForm.ofJson default.retry retry }
  toText config := Json.writeObject
    [ ("page_size", JsonForm.toText config.pageSize),
      ("fetch_timeout", JsonForm.toText config.fetchTimeout),
      ("retry", JsonForm.toText config.retry) ]

end Messenger
