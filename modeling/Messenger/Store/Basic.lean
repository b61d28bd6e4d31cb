import Messenger.Message.Basic

/-!
# Stores

A store keeps the confirmed messages of every channel and opaque values under
keys.  A channel holds one message per sequence number, the first that was
saved.  A request that fails leaves the store as it was.
-/

namespace Messenger

/-- What goes wrong inside a database. -/
inductive DatabaseFault where
  | cannotOpen
  | missingTable (name : String)
  | tableExists (name : String)
  | versionExists (version : Int)
  | versionOutOfRange (version : Int)
deriving DecidableEq, Repr

/-- The fault in words. -/
def DatabaseFault.message : DatabaseFault → String
  | .cannotOpen => "unable to open database file"
  | .missingTable name => "no such table: " ++ name
  | .tableExists name => "table " ++ name ++ " already exists"
  | .versionExists version => s!"version {version} is already applied"
  | .versionOutOfRange version => s!"version {version} out of range"

/-- Why a store refuses a request. -/
inductive StoreError where
  /-- The database fails. -/
  | database (fault : DatabaseFault)
  /-- The value under a key does not read as the value that is asked for. -/
  | serialization (key : String)
  /-- A frame cannot be written, or a stored one no longer reads. -/
  | corrupt (cause : FrameError)
  /-- A message without a sequence number has no place. -/
  | unsequenced (message : Message)
  /-- No migration leads to this schema version. -/
  | migration (version : Nat)
deriving DecidableEq, Repr

/-- The cause in words. -/
def StoreError.message : StoreError → String
  | .database fault => "database error: " ++ fault.message
  | .serialization key => "serialization error: " ++ key ++ ": unexpected value"
  | .corrupt cause => "stored frame is corrupt: " ++ cause.message
  | .unsequenced message =>
      "invalid data: cannot store unsequenced message: " ++ message.render
  | .migration version => s!"migration error: unknown migration version: {version}"

/-- What saving a message did. -/
inductive SaveOutcome where
  | saved
  /-- The channel already has a message with this number, and nothing changed. -/
  | alreadyThere
deriving DecidableEq, Repr

/-- The requests that a store answers. -/
class MessageStore (σ : Type) where
  /-- Save a message under a channel. -/
  save (store : σ) (channel : Channel) (message : Message) : Except StoreError (SaveOutcome × σ)
  /-- The messages of a channel from one sequence number to another, ascending. -/
  range (store : σ) (channel : Channel) (low high : UInt64) : Except StoreError (List Message)
  /-- The last messages of a channel below a sequence number, at most `limit`, ascending. -/
  before (store : σ) (channel : Channel) (bound limit : UInt64) :
    Except StoreError (List Message)
  /-- The highest sequence number of a channel. -/
  latest (store : σ) (channel : Channel) : Except StoreError (Option UInt64)
  /-- The value under a key. -/
  value (store : σ) (key : String) : Except StoreError (Option Octets)
  /-- Put a value under a key. -/
  setValue (store : σ) (key : String) (value : Octets) : Except StoreError σ
  /-- Drop the value under a key. -/
  dropValue (store : σ) (key : String) : Except StoreError σ

/-- The last `count` items of a list. -/
def lastOf {α : Type} (count : Nat) (items : List α) : List α :=
  items.drop (items.length - count)

/-- The sequence number of a message that has one. -/
def requireSeq (message : Message) : Except StoreError UInt64 :=
  match message.seq? with
  | some seq => .ok seq
  | none => .error (.unsequenced message)

end Messenger
