import Messenger.Conversation.Basic
import Messenger.Store.Typed

/-!
# Stored conversation lists

The conversation list of an account is kept in its store as a CBOR list of
records, under a key that names the account.
-/

namespace Messenger

namespace Conversation

/-- A conversation that is being read: the fields that have come so far. -/
structure Draft where
  peer : Option UInt64 := none
  lastActivity : Option UInt64 := none
  preview : Option String := none
  unread : Option UInt32 := none
  lastKind : Option Kind := none
deriving DecidableEq, Repr

/-- Read a field that has not come yet. -/
def readField {α : Type} (known : Option α) (read : Cbor.Reader α) : Cbor.Reader (Option α) :=
  fun octets =>
    match known with
    | some _ => none
    | none => (read octets).map fun (value, rest) => (some value, rest)

/-- Read the name of a kind. -/
def readKind : Cbor.Reader Kind := fun octets => do
  let (name, rest) ← Cbor.readChoice octets
  let kind ← Kind.all.find? fun kind => Utf8.encode kind.name = name
  return (kind, rest)

/-- How deep the values of unknown fields may be nested, inside a record of a list. -/
def unknownDepth : Nat := Cbor.depthLimit - 2

/-- Read the field with a name; a field with another name is skipped. -/
def readNamed (name : Octets) (draft : Draft) : Cbor.Reader Draft := fun octets =>
  if name = Utf8.encode "peer_id" then
    (readField draft.peer Cbor.readWord octets).map fun (peer, rest) => ({ draft with peer }, rest)
  else if name = Utf8.encode "last_activity" then
    (readField draft.lastActivity Cbor.readWord octets).map fun (lastActivity, rest) =>
      ({ draft with lastActivity }, rest)
  else if name = Utf8.encode "preview" then
    (readField draft.preview Cbor.readText octets).map fun (preview, rest) =>
      ({ draft with preview }, rest)
  else if name = Utf8.encode "unread" then
    (readField draft.unread Cbor.readHalf octets).map fun (unread, rest) =>
      ({ draft with unread }, rest)
  else if name = Utf8.encode "last_type" then
    (readField draft.lastKind readKind octets).map fun (lastKind, rest) =>
      ({ draft with lastKind }, rest)
  else (Cbor.skipValue unknownDepth octets).map fun rest => (draft, rest)

/-- The conversation of a draft whose fields have all come. -/
def ofDraft (draft : Draft) : Option Conversation := do
  return {
    peer := ← draft.peer
    lastActivity := ← draft.lastActivity
    preview := ← draft.preview
    unread := ← draft.unread
    lastKind := ← draft.lastKind }

instance : CborForm Conversation where
  read octets := do
    let (draft, rest) ← Cbor.readRecord readNamed {} octets
    return (← ofDraft draft, rest)
  write conversation := Cbor.writeRecord
    [ ("peer_id", CborForm.write conversation.peer),
      ("last_activity", CborForm.write conversation.lastActivity),
      ("preview", CborForm.write conversation.preview),
      ("unread", CborForm.write conversation.unread),
      ("last_type", Cbor.writeText conversation.lastKind.name) ]

end Conversation

namespace ConversationList

/-- The key of an account's list. -/
def storageKey (account : AccountId) : String :=
  "conversations-" ++ toString account.toNat

variable {σ : Type} [MessageStore σ]

/-- The stored list of an account, empty if there is none. -/
def load (store : σ) (account : AccountId) : Except StoreError ConversationList := do
  let entries ← MessageStore.typedValue (List Conversation) store (storageKey account)
  return arrange (entries.getD [])

/-- Store the list of an account. -/
def save (list : ConversationList) (store : σ) (account : AccountId) : Except StoreError σ :=
  MessageStore.setTypedValue store (storageKey account) list.entries

end ConversationList

end Messenger
