import Messenger.Store.Memory
import Messenger.Store.Relational

/-!
# Choosing a store

A store that is either in memory or a database, chosen when it is opened.
-/

namespace Messenger

/-- A store of either sort. -/
inductive Backend where
  | memory (store : MemoryStore)
  | relational (database : Database)
deriving DecidableEq, Repr, Inhabited

namespace Backend

/-- The backends that can be asked for. -/
inductive Choice where
  | memory
  | relational
  /-- A database at a place that cannot be opened. -/
  | unreachable
deriving DecidableEq, Repr

/-- Open an empty store. -/
def Choice.openEmpty : Choice → Except StoreError Backend
  | .memory => .ok (.memory .empty)
  | .relational =>
      match Database.blank.migrate with
      | (.ok (), database) => .ok (.relational database)
      | (.error cause, _) => .error cause
  | .unreachable => .error (.database .cannotOpen)

instance : MessageStore Backend where
  save
    | .memory store, channel, message => do
        let (outcome, store) ← MessageStore.save store channel message
        return (outcome, .memory store)
    | .relational database, channel, message => do
        let (outcome, database) ← MessageStore.save database channel message
        return (outcome, .relational database)
  range
    | .memory store, channel, low, high => MessageStore.range store channel low high
    | .relational database, channel, low, high => MessageStore.range database channel low high
  before
    | .memory store, channel, bound, limit => MessageStore.before store channel bound limit
    | .relational database, channel, bound, limit =>
        MessageStore.before database channel bound limit
  latest
    | .memory store, channel => MessageStore.latest store channel
    | .relational database, channel => MessageStore.latest database channel
  value
    | .memory store, key => MessageStore.value store key
    | .relational database, key => MessageStore.value database key
  setValue
    | .memory store, key, value => do return .memory (← MessageStore.setValue store key value)
    | .relational database, key, value => do
        return .relational (← MessageStore.setValue database key value)
  dropValue
    | .memory store, key => do return .memory (← MessageStore.dropValue store key)
    | .relational database, key => do
        return .relational (← MessageStore.dropValue database key)

end Backend

end Messenger
