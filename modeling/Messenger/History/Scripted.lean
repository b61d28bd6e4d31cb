import Messenger.Assoc
import Messenger.History.Source
import Messenger.Message.Compose

/-!
# Scripted history

A source that serves frames from a log in memory on behalf of one account.  It
can be told to fail or to stall, and keeps the requests it was asked.
-/

namespace Messenger

/-- A history endpoint with a script. -/
structure ScriptedHistory where
  me : AccountId
  /-- Whether the page that reaches the end of a log carries the end sentinel. -/
  sentinel : Bool := false
  /-- The frames of each channel under their sequence numbers, ascending. -/
  logs : Assoc Channel (List (UInt64 × Octets)) := .empty
  /-- How many requests are to fail. -/
  failures : Nat := 0
  /-- How many requests are to stall. -/
  stalls : Nat := 0
  /-- The requests so far, oldest first. -/
  requests : List HistoryRequest := []
deriving DecidableEq, Repr, Inhabited

namespace ScriptedHistory

/-- How long a stalled request takes. -/
def stall : Duration := Duration.ofSeconds 3600

/-- Put a frame into an ascending log, in place of one with its number. -/
def place (seq : UInt64) (frame : Octets) :
    List (UInt64 × Octets) → List (UInt64 × Octets)
  | [] => [(seq, frame)]
  | first :: rest =>
      match compare seq first.1 with
      | .lt => (seq, frame) :: first :: rest
      | .eq => (seq, frame) :: rest
      | .gt => first :: place seq frame rest

/-- The log of a channel. -/
def log (history : ScriptedHistory) (channel : Channel) : List (UInt64 × Octets) :=
  (history.logs.find? channel).getD []

/-- Serve a frame at a number of a channel. -/
def serve (history : ScriptedHistory) (channel : Channel) (seq : UInt64) (frame : Octets) :
    ScriptedHistory :=
  { history with logs := history.logs.insert channel (place seq frame (history.log channel)) }

/-- Serve a message at its number in its channel. -/
def push (history : ScriptedHistory) (message : Message) :
    Except HistoryError ScriptedHistory :=
  match message.encode with
  | .error cause => .error (.frame cause)
  | .ok frame => .ok (history.serve (message.channel history.me) message.header.seq frame)

/-- Serve a frame in the channel with a peer, whatever it spells. -/
def pushRaw (history : ScriptedHistory) (peer : AccountId) (seq : UInt64) (frame : Octets) :
    ScriptedHistory :=
  history.serve (Channel.between history.me peer) seq frame

/-- The last number that a request asks for. -/
def lastAsked (request : HistoryRequest) : UInt64 :=
  if request.isOpenEnded then Word.addSat request.low (defaultPageSize - 1) else request.high

/-- The frames of the log that a request asks for, and the sentinel if it is due. -/
def lookUp (history : ScriptedHistory) (request : HistoryRequest) :
    Except HistoryError (List Octets) :=
  let log := history.log (Channel.between history.me request.peer)
  let last := lastAsked request
  let frames :=
    (log.filter fun entry => request.low ≤ entry.1 && entry.1 ≤ last).map Prod.snd
  let tail := (log.getLast?.map Prod.fst).getD 0
  if history.sentinel && !frames.isEmpty && tail ≤ last then
    match (Message.historyEnd request.peer history.me 0).bind Message.encode with
    | .ok ending => .ok (frames ++ [ending])
    | .error cause => .error (.frame cause)
  else .ok frames

/-- Answer a request by the script: a stall first, then a failure, then the log. -/
def answer (history : ScriptedHistory) (request : HistoryRequest) : Answer × ScriptedHistory :=
  let history := { history with requests := history.requests ++ [request] }
  if 0 < history.stalls then
    ({ delay := stall, frames := .error (.fetch "stalled request released") },
      { history with stalls := history.stalls - 1 })
  else if 0 < history.failures then
    (Answer.atOnce (.error (.fetch "scripted failure")),
      { history with failures := history.failures - 1 })
  else (Answer.atOnce (history.lookUp request), history)

instance : HistorySource ScriptedHistory where
  answer := answer

end ScriptedHistory

end Messenger
