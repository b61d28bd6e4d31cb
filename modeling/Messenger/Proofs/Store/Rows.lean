import Mathlib.Data.List.Perm.Subperm
import Messenger.Proofs.Channel.Names
import Messenger.Proofs.Store.Shelf
import Messenger.Proofs.Frame.Exactness
import Messenger.Store.Relational

/-!
# Messages as rows

A database keeps a message as the text of its channel, its number in the signed
reading, and its frame.  For well-formed messages nothing is lost by that: the texts of
distinct channels differ, the number stays what it is, and the frame spells the message.
What is selected of the rows of a shelf are the rows of what is selected of the shelf.
-/

namespace Messenger

/-! ## The signed reading of a number -/

namespace Word

theorem signed_of_le {word : UInt64} (small : word ≤ signedMax) :
    signed word = (word.toNat : Int) :=
  if_pos small

theorem ofSigned_natCast (word : UInt64) : ofSigned (word.toNat : Int) = word := by
  have bound := word.toNat_lt
  unfold ofSigned
  rw [Int.emod_eq_of_lt (Int.natCast_nonneg _) (Int.ofNat_lt.mpr bound),
    Int.toNat_natCast, UInt64.ofNat_toNat]

end Word

/-! ## The row of a message -/

namespace MessageRow

/-- How a message of a channel is stored. -/
def of (channel : Channel) (message : Message) : MessageRow where
  channel := channel.render
  seq := message.header.seq.toNat
  frame := message.spelling

end MessageRow

namespace Message

theorem WellFormed.signed_seq {message : Message} (wellFormed : message.WellFormed) :
    Word.signed message.header.seq = (message.header.seq.toNat : Int) := by
  have number := wellFormed.seq_lt
  refine Word.signed_of_le (UInt64.le_iff_toNat_le.mpr ?_)
  change _ ≤ 9223372036854775807
  omega

theorem Ascending.filter {messages : List Message} (ascending : Ascending messages)
    (accept : Message → Bool) : Ascending (messages.filter accept) :=
  List.Pairwise.filter accept ascending

/-- There are no more ascending messages than numbers they can have. -/
theorem Ascending.length_le {messages : List Message} (ascending : Ascending messages)
    {bound : Nat} (below : ∀ message ∈ messages, message.header.seq.toNat < bound) :
    messages.length ≤ bound := by
  have distinct : (messages.map fun message => message.header.seq.toNat).Nodup := by
    refine List.pairwise_map.mpr (ascending.imp fun lower => ?_)
    exact Nat.ne_of_lt (UInt64.lt_iff_toNat_lt.mp lower)
  have inRange : (messages.map fun message => message.header.seq.toNat) ⊆ List.range bound := by
    intro number member
    obtain ⟨message, listed, rfl⟩ := List.mem_map.mp member
    exact List.mem_range.mpr (below message listed)
  have fewer := (distinct.subperm inRange).length_le
  rwa [List.length_map, List.length_range] at fewer

end Message

namespace Database

/-- The frames of well-formed messages spell these messages. -/
theorem decodeFrames_of_wellFormed {channel : Channel} {messages : List Message}
    (wellFormed : ∀ message ∈ messages, message.WellFormed) :
    decodeFrames ((messages.map (MessageRow.of channel)).map MessageRow.frame) = .ok messages := by
  have frames : (messages.map (MessageRow.of channel)).map MessageRow.frame =
      messages.map Message.spelling := List.map_map
  unfold decodeFrames
  rw [frames]
  refine Except.mapM_map_eq_ok fun message member => ?_
  rw [Message.decode_spelling (wellFormed message member)]

/-- The rows of a channel are those of an ascending shelf, in some order. -/
def Shelved (rows : List MessageRow) (channel : Channel) (shelf : List Message) : Prop :=
  (rows.filter fun row => row.channel = channel.render).Perm (shelf.map (MessageRow.of channel))

/-- What is selected of a shelf in rows are the rows of what is selected of the shelf. -/
theorem selectRows_eq {rows : List MessageRow} {channel : Channel} {shelf : List Message}
    (shelved : Shelved rows channel shelf) (ascending : Message.Ascending shelf)
    {accept : Int → Bool} {keep : Message → Bool}
    (agree : ∀ message ∈ shelf, accept message.header.seq.toNat = keep message) :
    selectRows rows channel accept = (shelf.filter keep).map (MessageRow.of channel) := by
  have kept : ((shelf.map (MessageRow.of channel)).filter fun row => accept row.seq) =
      (shelf.filter keep).map (MessageRow.of channel) := by
    rw [List.filter_map]
    exact congrArg (List.map _) (List.filter_congr agree)
  -- Both are the same rows in ascending order, and no two of them have one number.
  have sameRows : (selectRows rows channel accept).Perm
      ((shelf.filter keep).map (MessageRow.of channel)) := by
    unfold selectRows
    refine (List.mergeSort_perm ..).trans ?_
    rw [← kept, List.filter_congr fun row _ => Bool.and_comm .., ← List.filter_filter]
    exact shelved.filter _
  refine @List.Perm.eq_of_pairwise _ (fun a b => a.seq ≤ b.seq) _ _ ?_ ?_ ?_ sameRows
  · intro a b aSelected bKept lower higher
    obtain ⟨first, firstKept, rfl⟩ := List.mem_map.mp (sameRows.mem_iff.mp aSelected)
    obtain ⟨second, secondKept, rfl⟩ := List.mem_map.mp bKept
    have sameSeq := UInt64.toNat_inj.mp (Int.ofNat_inj.mp (Int.le_antisymm lower higher))
    rw [(ascending.filter keep).eq_of_seq_eq firstKept secondKept sameSeq]
  · have sorted := @List.pairwise_mergeSort _ (fun a b : MessageRow => decide (a.seq ≤ b.seq))
      (fun a b c first second => by simp only [decide_eq_true_eq] at *; omega)
      (fun a b => by simp only [Bool.or_eq_true, decide_eq_true_eq]; omega)
      (rows.filter fun row => row.channel = channel.render && accept row.seq)
    exact sorted.imp of_decide_eq_true
  · refine List.pairwise_map.mpr ((ascending.filter keep).imp fun lower => ?_)
    exact Int.ofNat_le.mpr (Nat.le_of_lt (UInt64.lt_iff_toNat_lt.mp lower))

end Database

end Messenger
