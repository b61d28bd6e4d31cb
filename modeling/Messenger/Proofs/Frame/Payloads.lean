import Messenger.Message.Payload
import Messenger.Proofs.Frame.Exactness
import Messenger.Proofs.Text.Encoding
import Messenger.Proofs.Text.Numerals

/-!
# What payloads are read as

A payload is read as a text exactly if it has the octets of the text, as a timestamp if it is the
text of a numeral between blanks, and as a count if it is the count's eight octets.
-/

namespace Messenger.Message

variable {message : Message}

theorem text_eq_ok_iff {text : String} :
    message.text = .ok text ↔ Utf8.encode text = message.payload := by
  rw [← Utf8.decode_eq_ok_iff]
  unfold Message.text
  cases Utf8.decode message.payload with
  | error fault => exact ⟨nofun, nofun⟩
  | ok decoded =>
      dsimp only
      rw [Except.ok.injEq, Except.ok.injEq]

theorem mintedTimestamp_eq_ok_iff {minted : UInt64} :
    message.mintedTimestamp = .ok minted ↔
      ∃ text, Utf8.encode text = message.payload ∧
        Numeral.word? (Blank.trim text.toList) = some minted := by
  unfold mintedTimestamp
  rw [Except.bind_eq_ok_iff]
  refine exists_congr fun text => and_congr text_eq_ok_iff ?_
  cases Numeral.word? (Blank.trim text.toList) with
  | none => exact ⟨nofun, nofun⟩
  | some word =>
      change Except.ok word = .ok minted ↔ _
      rw [Except.ok.injEq, Option.some.injEq]

/-- The digits of a timestamp are read as the timestamp. -/
theorem mintedTimestamp_of_digits {minted : UInt64}
    (digits : message.payload = Utf8.encode (toString minted.toNat)) :
    message.mintedTimestamp = .ok minted := by
  have spelled := Numeral.word?_eq_some_iff.mp (Numeral.word?_toString minted)
  refine mintedTimestamp_eq_ok_iff.mpr ⟨_, digits.symm, ?_⟩
  exact Numeral.word?_trim_eq_some_iff.mpr
    ⟨[], _, [], (List.append_nil _).symm, spelled, List.forall_mem_nil _, List.forall_mem_nil _⟩

theorem remaining_eq_ok_iff {count : UInt64} :
    message.remaining = .ok count ↔ message.payload = Octets.bigEndian 8 count.toNat := by
  unfold remaining
  split
  · next length =>
      have spelled := Octets.bigEndian_number message.payload
      have bound := Octets.number_lt message.payload
      rw [length] at spelled bound
      rw [Except.ok.injEq]
      constructor
      · rintro rfl
        rw [UInt64.toNat_ofNat_of_lt' bound, spelled]
      · intro octets
        rw [octets, Octets.number_bigEndian_of_lt count.toNat_lt, UInt64.ofNat_toNat]
  · next length =>
      refine iff_of_false nofun fun octets => length ?_
      rw [octets, Octets.length_bigEndian]

/-- A report of a count that can be read says that no history remains exactly if the count is
zero. -/
theorem endsHistory_iff_of_remaining {count : UInt64} (sync : message.header.kind = .sync)
    (read : message.remaining = .ok count) : message.endsHistory = true ↔ count = 0 := by
  unfold endsHistory
  simp only [sync, read, decide_true, Bool.true_and, decide_eq_true_eq]

end Messenger.Message
