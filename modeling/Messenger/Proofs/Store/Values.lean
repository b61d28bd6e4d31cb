import Messenger.Proofs.Frame.Exactness
import Messenger.Store.Backend

/-!
# Values that stay where they were put

Whatever sort of store it is, a value that was put under a key is found there, and the values
under all other keys are found as before.  Only a database can refuse to put a value, and only
if it has no table for it.
-/

namespace Messenger

/-- A store in which putting a value under a key changes what is found there, and nothing
else. -/
class MessageStore.KeepsValues (σ : Type) [MessageStore σ] : Prop where
  value_of_setValue {store after : σ} {key : String} {octets : Octets}
    (put : MessageStore.setValue store key octets = .ok after) (other : String) :
    MessageStore.value after other =
      if other = key then .ok (some octets) else MessageStore.value store other

open MessageStore

instance : KeepsValues MemoryStore where
  value_of_setValue {store _ key octets} put other := by
    cases put
    exact (congrArg Except.ok (store.values.find?_insert key other octets)).trans
      (apply_ite Except.ok ..)

instance : KeepsValues Database where
  value_of_setValue {store _ key octets} put other := by
    obtain ⟨messages, values, versions⟩ := store
    cases values with
    | none => cases put
    | some values =>
        cases put
        exact (congrArg Except.ok (values.find?_insert key other octets)).trans
          (apply_ite Except.ok ..)

namespace Backend

instance : KeepsValues Backend where
  value_of_setValue {store _ key octets} put other := by
    cases store with
    | memory store =>
        obtain ⟨after, inside, made⟩ := Except.bind_eq_ok_iff.mp put
        cases made
        exact KeepsValues.value_of_setValue inside other
    | relational database =>
        obtain ⟨after, inside, made⟩ := Except.bind_eq_ok_iff.mp put
        cases made
        exact KeepsValues.value_of_setValue inside other

/-- A value is refused only by a database without a table for it. -/
theorem setValue_eq_error_iff {store : Backend} {key : String} {octets : Octets}
    {cause : StoreError} :
    MessageStore.setValue store key octets = .error cause ↔
      ∃ database, store = .relational database ∧ database.values = none ∧
        cause = .database (.missingTable Database.valuesTable) := by
  cases store with
  | memory store => exact ⟨nofun, fun ⟨_, impossible, _⟩ => nomatch impossible⟩
  | relational database =>
      obtain ⟨messages, values, versions⟩ := database
      constructor
      · intro refused
        cases values with
        | none => exact ⟨_, rfl, rfl, (Except.error.inj refused).symm⟩
        | some values => cases refused
      · rintro ⟨_, same, missing, rfl⟩
        cases same
        cases missing
        rfl

end Backend

end Messenger
