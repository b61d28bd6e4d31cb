import Messenger.Store.Basic
import Messenger.Cbor.Read
import Messenger.Cbor.Write

/-!
# Typed values in stores

Values that are stored as CBOR under a key.
-/

namespace Messenger

/-- Values that have a CBOR form. -/
class CborForm (α : Type) where
  read : Cbor.Reader α
  /-- The value that an octet in the place of a list item stands for. -/
  ofOctet : UInt8 → Option α := fun _ => none
  write : α → Octets

instance : CborForm UInt64 where
  read := Cbor.readWord
  ofOctet octet := some (UInt64.ofNat octet.toNat)
  write n := Cbor.writeNumber n.toNat

instance : CborForm UInt32 where
  read := Cbor.readHalf
  ofOctet octet := some (UInt32.ofNat octet.toNat)
  write n := Cbor.writeNumber n.toNat

instance : CborForm String where
  read := Cbor.readText
  write := Cbor.writeText

instance {α : Type} [CborForm α] : CborForm (List α) where
  read := Cbor.readList CborForm.ofOctet CborForm.read
  write values := Cbor.writeList (values.map CborForm.write)

instance {α β : Type} [CborForm α] [CborForm β] : CborForm (α × β) where
  read := Cbor.readPair CborForm.read CborForm.read
  write pair := Cbor.writeList [CborForm.write pair.1, CborForm.write pair.2]

namespace MessageStore

/-- The typed value under a key, if there is a value. -/
def typedValue {σ : Type} [MessageStore σ] (α : Type) [CborForm α] (store : σ) (key : String) :
    Except StoreError (Option α) := do
  match ← value store key with
  | none => return none
  | some octets =>
      match (CborForm.read octets : Option (α × Octets)) with
      | some (typed, _) => return some typed
      | none => throw (.serialization key)

/-- Put a typed value under a key. -/
def setTypedValue {σ α : Type} [MessageStore σ] [CborForm α] (store : σ) (key : String)
    (typed : α) : Except StoreError σ :=
  setValue store key (CborForm.write typed)

end MessageStore

end Messenger
