import Messenger.History.Scripted
import Messenger.Sample.Series
import Messenger.Store.Memory

/-!
# Fixtures

An account with an empty store in memory, the messages it receives and sends
in a simple exchange, and a history endpoint that already holds some of them.
-/

namespace Messenger

/-- An account with a store. -/
structure Fixture where
  me : AccountId
  store : MemoryStore
deriving DecidableEq, Repr, Inhabited

namespace Fixture

/-- The time from which messages of fixtures count, in milliseconds. -/
def epoch : UInt64 := 1736856000000

/-- An account with an empty store. -/
def start (me : AccountId) : Fixture :=
  { me, store := .empty }

/-- The channel with a peer. -/
def channelWith (fixture : Fixture) (peer : AccountId) : Channel :=
  Channel.between fixture.me peer

/-- A numbered text message of a peer.  Later numbers are later in time, and a number
whose time no header could hold has no message. -/
def incoming (fixture : Fixture) (peer : AccountId) (seq : UInt64) (text : String) :
    Except FrameError Message := do
  let message ← Message.ofText peer fixture.me 0 (Word.addSat epoch seq) text
  return message.withSeq seq

/-- A pending text message of the account. -/
def outgoing (fixture : Fixture) (peer : AccountId) (minted : UInt64) (text : String) :
    Except FrameError Message :=
  Message.ofText fixture.me peer 0 minted text

/-- The server's acknowledgement of a message. -/
def ackFor (sent : Message) (seq timestamp : UInt64) : Except FrameError Message :=
  let header := sent.header
  Message.acknowledgement header.sender header.receiver header.nodeId timestamp seq
    header.timestamp

/-- Save a message of a peer. -/
def save (fixture : Fixture) (peer : AccountId) (message : Message) :
    Except StoreError (SaveOutcome × Fixture) := do
  let (outcome, store) ← fixture.store.save (fixture.channelWith peer) message
  return (outcome, { fixture with store })

/-- Push numbered messages of a peer, `count` of them from `seq` on. -/
def pushFrom (fixture : Fixture) (peer : AccountId) :
    (count : Nat) → (seq : UInt64) → ScriptedHistory → Except HistoryError ScriptedHistory
  | 0, _, history => .ok history
  | count + 1, seq, history =>
      match fixture.incoming peer seq (Series.spell seq) with
      | .error cause => .error (.frame cause)
      | .ok message => do
          let history ← history.push message
          pushFrom fixture peer count (seq + 1) history

/-- A history endpoint that holds the numbered messages of a peer from `low` to `high`. -/
def historyWith (fixture : Fixture) (peer : AccountId) (low high : UInt64) :
    Except HistoryError ScriptedHistory :=
  fixture.pushFrom peer (high.toNat + 1 - low.toNat) low { me := fixture.me }

/-- The fixtures of the accounts from one to `count`. -/
def several (count : Nat) : List Fixture :=
  (List.range count).map fun index => start (UInt64.ofNat (index + 1))

end Fixture

end Messenger
