import Messenger.Store.Basic
import Messenger.Assoc

/-!
# Stores in memory

Messages lie in shelves, one per channel, each ascending in sequence number.
The store takes any message that has a number and never fails otherwise.
-/

namespace Messenger

/-- A store that lives in memory. -/
structure MemoryStore where
  shelves : Assoc Channel (List Message)
  values : Assoc String Octets
deriving DecidableEq, Repr, Inhabited

namespace MemoryStore

/-- A store without messages and values. -/
def empty : MemoryStore :=
  ⟨.empty, .empty⟩

/-- The messages of a channel, ascending. -/
def shelf (store : MemoryStore) (channel : Channel) : List Message :=
  (store.shelves.find? channel).getD []

/-- Place a message on an ascending shelf, unless its number is taken. -/
def place (message : Message) : List Message → Option (List Message)
  | [] => some [message]
  | first :: rest =>
      match compare message.header.seq first.header.seq with
      | .lt => some (message :: first :: rest)
      | .eq => none
      | .gt => (place message rest).map (first :: ·)

/-- Save a message that has a number. -/
def save (store : MemoryStore) (channel : Channel) (message : Message) :
    Except StoreError (SaveOutcome × MemoryStore) :=
  match requireSeq message with
  | .error cause => .error cause
  | .ok _ =>
      match place message (store.shelf channel) with
      | none => .ok (.alreadyThere, store)
      | some shelf => .ok (.saved, { store with shelves := store.shelves.insert channel shelf })

/-- The messages of a channel from one sequence number to another. -/
def range (store : MemoryStore) (channel : Channel) (low high : UInt64) : List Message :=
  (store.shelf channel).filter fun message =>
    low ≤ message.header.seq && message.header.seq ≤ high

/-- The last messages of a channel below a sequence number. -/
def before (store : MemoryStore) (channel : Channel) (bound limit : UInt64) : List Message :=
  lastOf limit.toNat ((store.shelf channel).filter fun message => message.header.seq < bound)

/-- The highest sequence number of a channel. -/
def latest (store : MemoryStore) (channel : Channel) : Option UInt64 :=
  (store.shelf channel).getLast?.map fun message => message.header.seq

/-- How many messages are stored in all. -/
def count (store : MemoryStore) : Nat :=
  store.shelves.entries.foldl (fun total entry => total + entry.2.length) 0

instance : MessageStore MemoryStore where
  save := save
  range store channel low high := .ok (store.range channel low high)
  before store channel bound limit := .ok (store.before channel bound limit)
  latest store channel := .ok (store.latest channel)
  value store key := .ok (store.values.find? key)
  setValue store key value := .ok { store with values := store.values.insert key value }
  dropValue store key := .ok { store with values := store.values.erase key }

end MemoryStore

end Messenger
