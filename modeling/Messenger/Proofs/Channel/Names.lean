import Mathlib.Data.List.Basic
import Mathlib.Data.Set.Insert
import Messenger.Proofs.Frame.Exactness
import Messenger.Proofs.Text.Numerals
import Messenger.Proofs.Timeline.Insertion
import Messenger.Store.Relational

/-!
# The names of channels

Two parties name one channel, in whichever order they are given, and no other parties name it.
Its number packs both parties into a word of 128 bits, and its text joins their numerals; the
parties are read back from either of them.
-/

namespace Messenger

namespace Channel

/-! ## The parties of a channel -/

theorem between_eq (a b : AccountId) : between a b = ⟨min a b, max a b⟩ := by
  unfold between
  by_cases order : a ≤ b
  · rw [if_pos order]
    exact congr (congrArg mk (if_pos order).symm) (if_pos order).symm
  · rw [if_neg order]
    exact congr (congrArg mk (if_neg order).symm) (if_neg order).symm

theorem between_comm (a b : AccountId) : between a b = between b a := by
  unfold between
  by_cases order : a ≤ b
  · by_cases reverse : b ≤ a
    · simp [UInt64.le_antisymm order reverse]
    · simp [order, reverse]
  · have reverse : b ≤ a := (UInt64.le_total a b).resolve_left order
    simp [order, reverse]

/-- Parties in ascending order are those of their channel. -/
theorem between_of_le {a b : AccountId} (ascending : a ≤ b) : between a b = ⟨a, b⟩ :=
  if_pos ascending

/-- The parties of a channel of two accounts are these accounts, in one order or the other. -/
theorem between_cases (a b : AccountId) :
    between a b = ⟨a, b⟩ ∧ a ≤ b ∨ between a b = ⟨b, a⟩ ∧ b ≤ a := by
  rcases UInt64.le_total a b with ascending | descending
  · exact .inl ⟨between_of_le ascending, ascending⟩
  · exact .inr ⟨(between_comm a b).trans (between_of_le descending), descending⟩

/-- The low party of a channel of two accounts is not above the high one. -/
theorem low_le_high_between (a b : AccountId) : (between a b).low ≤ (between a b).high := by
  rcases between_cases a b with ⟨named, order⟩ | ⟨named, order⟩ <;> rw [named] <;> exact order

/-- The parties of the channel of two accounts name this channel. -/
theorem between_low_high (a b : AccountId) :
    between (between a b).low (between a b).high = between a b :=
  between_of_le (low_le_high_between a b)

/-- Parties name the same channel exactly if they are the same, in whichever order. -/
theorem between_eq_between_iff {a b c d : AccountId} :
    between a b = between c d ↔ ({a, b} : Set AccountId) = {c, d} := by
  rw [Set.pair_eq_pair_iff]
  constructor
  · intro same
    rcases between_cases a b with ⟨first, -⟩ | ⟨first, -⟩ <;>
      rcases between_cases c d with ⟨second, -⟩ | ⟨second, -⟩ <;>
      rw [first, second, mk.injEq] at same <;>
      obtain ⟨rfl, rfl⟩ := same
    · exact .inl ⟨rfl, rfl⟩
    · exact .inr ⟨rfl, rfl⟩
    · exact .inr ⟨rfl, rfl⟩
    · exact .inl ⟨rfl, rfl⟩
  · rintro (⟨rfl, rfl⟩ | ⟨rfl, rfl⟩)
    · rfl
    · exact between_comm a b

/-- The peer of a channel is the other account of the two. -/
theorem other_between (me peer : AccountId) : (between me peer).other me = peer := by
  unfold between other
  by_cases order : me ≤ peer
  · simp [order]
  · have distinct : peer ≠ me := fun same => order (same ▸ UInt64.le_refl me)
    simp [order, distinct]

/-- An account is a party of the channel of two parties exactly if it is one of them. -/
theorem has_between_iff (a b me : AccountId) : (between a b).has me = true ↔ a = me ∨ b = me := by
  unfold between has
  split
  · simp
  · simp [or_comm]

/-- Of the two parties of a channel, the one that is taken for the peer of an account completes the
channel exactly if the account is the other one. -/
theorem between_other_iff (a b me : AccountId) :
    between me ((between a b).other me) = between a b ↔ (between a b).has me = true := by
  constructor
  · intro same
    rw [← same, has_between_iff]
    exact .inl rfl
  · intro has
    rcases (has_between_iff a b me).mp has with rfl | rfl
    · rw [other_between]
    · rw [between_comm a b, other_between]

/-! ## The number of a channel -/

/-- The low party in the upper half of a word of 128 bits, and the high party in the lower half. -/
def packed (channel : Channel) : BitVec 128 :=
  channel.low.toBitVec.setWidth 128 <<< 64 ||| channel.high.toBitVec.setWidth 128

/-- The upper and the lower half of a word of 128 bits as parties. -/
def unpacked (word : BitVec 128) : Channel :=
  ⟨⟨(word >>> 64).setWidth 64⟩, ⟨word.setWidth 64⟩⟩

/-- The number of a channel is its parties packed into one word. -/
theorem toNat_packed (channel : Channel) : channel.packed.toNat = channel.number := by
  have low := channel.low.toNat_lt
  have high := channel.high.toNat_lt
  have fits : channel.low.toNat <<< 64 < 2 ^ 128 := by
    rw [Nat.shiftLeft_eq]
    omega
  unfold packed number
  rw [BitVec.toNat_or, BitVec.toNat_shiftLeft, BitVec.toNat_setWidth_of_le (by decide),
    BitVec.toNat_setWidth_of_le (by decide), UInt64.toNat_toBitVec, UInt64.toNat_toBitVec,
    Nat.mod_eq_of_lt fits, ← Nat.shiftLeft_add_eq_or_of_lt high, Nat.shiftLeft_eq]

/-- Both parties are read back from the word. -/
theorem unpacked_packed (channel : Channel) : unpacked channel.packed = channel := by
  have low := channel.low.toNat_lt
  have high := channel.high.toNat_lt
  have number := toNat_packed channel
  unfold Channel.number at number
  have upper : (⟨(channel.packed >>> 64).setWidth 64⟩ : UInt64) = channel.low := by
    apply UInt64.toNat_inj.mp
    rw [← UInt64.toNat_toBitVec, BitVec.toNat_setWidth, BitVec.toNat_ushiftRight, number,
      Nat.shiftRight_eq_div_pow, UInt64.size]
    omega
  have lower : (⟨channel.packed.setWidth 64⟩ : UInt64) = channel.high := by
    apply UInt64.toNat_inj.mp
    rw [← UInt64.toNat_toBitVec, BitVec.toNat_setWidth, number, UInt64.size]
    omega
  unfold unpacked
  rw [upper, lower]

/-- Numbers order channels by the low party, and among channels of one by the high party. -/
theorem number_le_iff {a b : Channel} :
    a.number ≤ b.number ↔ a.low < b.low ∨ a.low = b.low ∧ a.high ≤ b.high := by
  have highA := a.high.toNat_lt
  have highB := b.high.toNat_lt
  unfold number
  rw [UInt64.lt_iff_toNat_lt, ← UInt64.toNat_inj, UInt64.le_iff_toNat_le, UInt64.size]
  omega

/-! ## The text of a channel -/

/-- Distinct channels have distinct texts. -/
theorem render_injective : Function.Injective render := by
  intro a b same
  have characters := congrArg String.toList same
  unfold render at characters
  rw [String.toList_append, String.toList_append, String.toList_append, String.toList_append,
    List.append_assoc, List.append_assoc] at characters
  change (toString a.low.toNat).toList ++ '-' :: (toString a.high.toNat).toList =
    (toString b.low.toNat).toList ++ '-' :: (toString b.high.toNat).toList at characters
  -- The decimal texts have no hyphen, so the first one marks the same place in both.
  obtain ⟨low, -, high⟩ := (List.append_cons_inj_of_notMem (Nat.hyphen_notMem_toString a.low.toNat)
    (Nat.hyphen_notMem_toString a.high.toNat)).mp characters
  have sameLow := Nat.toString_injective (String.toList_injective low)
  have sameHigh := Nat.toString_injective (String.toList_injective high)
  rw [UInt64.toNat_inj] at sameLow sameHigh
  exact Channel.mk.injEq .. ▸ ⟨sameLow, sameHigh⟩

/-- A text is split at its first hyphen. -/
theorem splitHyphen_append {before after : List Char} (unbroken : '-' ∉ before) :
    splitHyphen (before ++ '-' :: after) = some (before, after) := by
  induction before with
  | nil => rfl
  | cons c before ih =>
      obtain ⟨other, rest⟩ := List.ne_and_not_mem_of_not_mem_cons unbroken
      rw [List.cons_append, splitHyphen, if_neg other.symm, ih rest]
      rfl

/-- The text of a channel is read as the channel of its two parties. -/
theorem parse_render (channel : Channel) :
    parse channel.render = .ok (between channel.low channel.high) := by
  have spelled : channel.render.toList =
      (toString channel.low.toNat).toList ++ '-' :: (toString channel.high.toNat).toList := by
    unfold render
    rw [String.toList_append, String.toList_append, List.append_assoc]
    rfl
  unfold parse
  rw [spelled, splitHyphen_append (Nat.hyphen_notMem_toString _)]
  simp only [Option.bind_eq_bind, Option.bind_some, Numeral.word?_toString]
  rfl

end Channel

namespace Database

theorem need_eq_ok_iff {α : Type} {name : String} {table : Option α} {rows : α} :
    need name table = .ok rows ↔ table = some rows := by
  unfold need
  cases table with
  | none => exact ⟨nofun, nofun⟩
  | some found => rw [Except.ok.injEq, Option.some.injEq]

/-- What is saved in a channel is stored under a text that no other channel has. -/
theorem rows_of_save {database after : Database} {channel : Channel} {message : Message}
    {outcome : SaveOutcome} (saved : database.save channel message = .ok (outcome, after)) :
    ∃ rows added, database.messages = some rows ∧ after.messages = some (rows ++ added) ∧
      ∀ row ∈ added, ∀ other : Channel, row.channel = other.render ↔ channel = other := by
  unfold save at saved
  obtain ⟨seq, -, saved⟩ := Except.bind_eq_ok_iff.mp saved
  cases written : message.encode with
  | error cause =>
      rw [written] at saved
      cases saved
  | ok frame =>
      rw [written] at saved
      obtain ⟨_, -, saved⟩ := Except.bind_eq_ok_iff.mp saved
      obtain ⟨rows, found, saved⟩ := Except.bind_eq_ok_iff.mp saved
      have table : database.messages = some rows := need_eq_ok_iff.mp found
      dsimp only at saved
      split at saved
      · cases saved
        exact ⟨rows, [], table, by rw [table, List.append_nil], List.forall_mem_nil _⟩
      · cases saved
        refine ⟨rows, [_], table, rfl, List.forall_mem_singleton.mpr fun other => ?_⟩
        exact Channel.render_injective.eq_iff

end Database

/-- Parties name a channel whatever their order, and no other parties name it.  They are the lower
and the higher one of the two, as which they are packed into its number, so that channels are
ordered by the low party, then by the high one.  Of the two, each is told as the other of the
other one.  The text of the channel is read as the channel, and a database keeps what is saved in a
channel under a text that no other channel has. -/
theorem Channel.names_exact :
    (∀ a b c d : AccountId, between a b = between c d ↔ ({a, b} : Set AccountId) = {c, d}) ∧
      (∀ a b : AccountId, (between a b).low = min a b ∧ (between a b).high = max a b) ∧
      (∀ channel : Channel,
        channel.packed.toNat = channel.number ∧ unpacked channel.packed = channel) ∧
      (∀ a b : Channel, ble a b = true ↔ a.low < b.low ∨ a.low = b.low ∧ a.high ≤ b.high) ∧
      (∀ a b me : AccountId,
        between me ((between a b).other me) = between a b ↔ me ∈ ({a, b} : Set AccountId)) ∧
      (∀ a b : AccountId, parse (between a b).render = .ok (between a b)) ∧
      Function.Injective render ∧
      ∀ (database after : Database) (channel : Channel) (message : Message) (outcome : SaveOutcome),
        database.save channel message = .ok (outcome, after) →
          ∃ rows added, database.messages = some rows ∧ after.messages = some (rows ++ added) ∧
            ∀ row ∈ added, ∀ other : Channel, row.channel = other.render ↔ channel = other := by
  refine ⟨fun a b c d => between_eq_between_iff, fun a b => ?_, fun channel => ?_, fun a b => ?_,
    fun a b me => ?_, fun a b => ?_, render_injective, fun _ _ _ _ _ => Database.rows_of_save⟩
  · rw [between_eq]
    exact ⟨rfl, rfl⟩
  · exact ⟨toNat_packed channel, unpacked_packed channel⟩
  · unfold ble
    rw [decide_eq_true_eq, number_le_iff]
  · rw [between_other_iff, has_between_iff, Set.mem_insert_iff, Set.mem_singleton_iff,
      eq_comm (a := me), eq_comm (a := me)]
  · rw [parse_render, between_low_high]

/-- A message from one account to another is stored under their numerals, the lower one first: under
the text of this channel, and not of a channel with one of them. -/
theorem Channel.saved_under_both_numerals :
    let message := Message.bareText 9 4 5 60
    let database : Database := { Database.blank with messages := some [] }
    let after := { database with messages := some [⟨"4-9", 5, message.spelling⟩] }
    database.save (between 9 4) message = .ok (.saved, after) ∧
      (between 4 9).render = "4-9" ∧ (between 9 44).render ≠ "4-9" := by
  intro message database after
  have saved : database.save (between 9 4) message = .ok (.saved, after) := by rfl
  obtain ⟨-, -, -, -, -, -, -, stores⟩ := names_exact
  obtain ⟨rows, added, before, grown, named⟩ := stores _ _ _ _ _ saved
  obtain rfl : [] = rows := Option.some.inj before
  obtain rfl : [_] = added := Option.some.inj grown
  have owns := List.forall_mem_singleton.mp named
  exact ⟨saved, ((owns _).mpr rfl).symm, fun same => absurd ((owns _).mp same.symm) (by decide)⟩

end Messenger
