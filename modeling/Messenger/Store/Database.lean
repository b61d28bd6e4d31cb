import Messenger.Store.Basic
import Messenger.Assoc
import Messenger.Word

/-!
# Relational databases

The tables behind a durable store: messages by channel text and signed sequence
number, values by key, and the schema versions that were applied.  A table may
be missing, and every statement on a missing table fails.
-/

namespace Messenger

/-- A stored message. -/
structure MessageRow where
  /-- The text of the channel. -/
  channel : String
  /-- Numbers are stored in their signed reading. -/
  seq : Int
  frame : Octets
deriving DecidableEq, Repr

/-- The tables of a database, none where one is missing. -/
structure Database where
  messages : Option (List MessageRow)
  values : Option (Assoc String Octets)
  versions : Option (List Int)
deriving DecidableEq, Repr, Inhabited

namespace Database

/-- The names of the tables. -/
def messagesTable : String := "messages"

/-- The name of the table of values. -/
def valuesTable : String := "kv"

/-- The name of the table of versions. -/
def versionsTable : String := "schema_migrations"

/-- A database without tables. -/
def blank : Database :=
  ⟨none, none, none⟩

/-- The newest schema version. -/
def currentVersion : Nat := 1

/-- The rows of a table, or the fault that it is missing. -/
def need {α : Type} (name : String) : Option α → Except StoreError α
  | some rows => .ok rows
  | none => .error (.database (.missingTable name))

/-- Create the tables of the first version.  Neither is created if one is there. -/
def createTables (database : Database) : Except StoreError Database :=
  if database.messages.isSome then .error (.database (.tableExists messagesTable))
  else if database.values.isSome then .error (.database (.tableExists valuesTable))
  else .ok { database with messages := some [], values := some .empty }

/-- Apply one version. -/
def applyVersion (database : Database) (version : Nat) : Except StoreError Database :=
  if version = 1 then database.createTables else .error (.migration version)

/-- The highest applied version, zero if there is none. -/
def appliedVersion (versions : List Int) : Except StoreError Nat :=
  let highest := versions.max?.getD 0
  if 0 ≤ highest ∧ highest < UInt32.size then .ok highest.toNat
  else .error (.database (.versionOutOfRange highest))

/-- Bring the schema to the newest version.  The table of versions is created even
if what follows fails; all else happens as a whole or not at all. -/
def migrate (database : Database) : Except StoreError Unit × Database :=
  let versions := database.versions.getD []
  let database := { database with versions := some versions }
  match appliedVersion versions with
  | .error cause => (.error cause, database)
  | .ok applied =>
      let missing := (List.range (currentVersion - applied)).map (applied + 1 + ·)
      let applyNext (database : Database) (version : Nat) : Except StoreError Database := do
        let database ← database.applyVersion version
        return { database with versions := database.versions.map (· ++ [(version : Int)]) }
      match missing.foldlM applyNext database with
      | .error cause => (.error cause, database)
      | .ok migrated => (.ok (), migrated)

/-- The names of the tables, ascending. -/
def tables (database : Database) : List String :=
  (if database.values.isSome then [valuesTable] else []) ++
    (if database.messages.isSome then [messagesTable] else []) ++
    (if database.versions.isSome then [versionsTable] else [])

/-- The applied versions, ascending. -/
def versionList (database : Database) : Except StoreError (List Int) := do
  return (← need versionsTable database.versions).mergeSort fun a b => a ≤ b

/-- Record a version as applied. -/
def addVersion (database : Database) (version : Int) : Except StoreError Database := do
  let versions ← need versionsTable database.versions
  if versions.contains version then throw (.database (.versionExists version))
  else return { database with versions := some (versions ++ [version]) }

/-- Forget every applied version; the result counts them. -/
def clearVersions (database : Database) : Except StoreError (Nat × Database) := do
  let versions ← need versionsTable database.versions
  return (versions.length, { database with versions := some [] })

/-- Drop a table. -/
def dropTable (database : Database) (name : String) : Except StoreError Database :=
  if !database.tables.contains name then .error (.database (.missingTable name))
  else if name = messagesTable then .ok { database with messages := none }
  else if name = valuesTable then .ok { database with values := none }
  else .ok { database with versions := none }

/-- Overwrite the frame of a stored message; the result counts the rows changed. -/
def overwriteFrame (database : Database) (channel : Channel) (seq : UInt64) (frame : Octets) :
    Except StoreError (Nat × Database) := do
  let rows ← need messagesTable database.messages
  let isTarget (row : MessageRow) : Bool :=
    row.channel = channel.render && row.seq = Word.signed seq
  let changed := rows.map fun row => if isTarget row then { row with frame } else row
  return ((rows.filter isTarget).length, { database with messages := some changed })

end Database

end Messenger
